/-!
# Patterns

A pattern matches texts as the shell matches the patterns of `case` and of
`${name#pattern}`: `*` matches any text, `?` any one character, `[...]` one character of
a set (`[!...]` one that is not in it), and every other character itself; a backslash
that was not quoted makes the character after it stand for itself. In a set, `a-z`
is a range, `[:alpha:]` and the other classes of C's character tests stand for the
characters of the class, and a `]` right after the opening bracket is a member; a `[`
without its `]` is itself. A character that was quoted is always itself. The shell's
texts are byte strings, so `?` matches one byte.

* `Glob.parse` reads a pattern from its characters, each with whether it was quoted.
* `Glob.matches` decides whether a pattern matches a whole text.
* `Glob.dropPrefix` and `Glob.dropSuffix` remove the shortest or longest part of a text
  at its start or end that a pattern matches.
-/

namespace HelpMan.Shell

/-- A member of a bracket set. -/
inductive SetMember where
  /-- The characters from `lo` to `hi`. -/
  | range (lo hi : Char)
  /-- The characters of a class, by name. -/
  | named (name : String)
  deriving DecidableEq, Repr

/-- An item of a pattern. -/
inductive Glob where
  /-- A character that matches itself. -/
  | char (c : Char)
  /-- `?`: any one character. -/
  | one
  /-- `*`: any text. -/
  | many
  /-- A bracket set: the members it holds, or those it does not hold when `negated`. -/
  | set (negated : Bool) (members : List SetMember)
  /-- An extended pattern of the `bash` dialect (`shopt -s extglob`): `@(a|b)` one of the
  alternatives, `?(...)` at most one, `*(...)` any number, `+(...)` at least one, and
  `!(...)` any text that none of them matches. -/
  | ext (op : Char) (alternatives : List (List Glob))
  deriving Repr

/-- A character of a pattern, with whether it was quoted. -/
abbrev PatternChar := Char × Bool

/-- The classes of characters that a bracket set may name. -/
def classNames : List String :=
  ["alnum", "cntrl", "lower", "space", "alpha", "digit", "print", "upper", "blank", "graph", "punct", "xdigit"]

/-- Whether a character is in a class, as C's character tests of the plain locale say:
only characters below 128 are in any. -/
def inClass (name : String) (c : Char) : Bool :=
  let n := c.toNat
  let alpha := ('a' ≤ c && c ≤ 'z') || ('A' ≤ c && c ≤ 'Z')
  let digit := '0' ≤ c && c ≤ '9'
  let graph := 33 ≤ n && n ≤ 126
  match name with
  | "alnum" => alpha || digit
  | "cntrl" => n < 32 || n = 127
  | "lower" => 'a' ≤ c && c ≤ 'z'
  | "space" => c = ' ' || (9 ≤ n && n ≤ 13)
  | "alpha" => alpha
  | "digit" => digit
  | "print" => 32 ≤ n && n ≤ 126
  | "upper" => 'A' ≤ c && c ≤ 'Z'
  | "blank" => c = ' ' || c = '\t'
  | "graph" => graph
  | "punct" => graph && !alpha && !digit
  | "xdigit" => digit || ('a' ≤ c && c ≤ 'f') || ('A' ≤ c && c ≤ 'F')
  | _ => false

/-- The class that the characters after a `[` inside a set name, `:name:]`, and the
characters after it. -/
def classAt (cs : List PatternChar) : Option (String × List PatternChar) :=
  match cs with
  | (':', false) :: rest =>
    let name := rest.takeWhile fun (c, q) => !q && c != ':'
    let text := String.ofList (name.map Prod.fst)
    match rest.drop name.length with
    | (':', false) :: (']', false) :: after => if classNames.contains text then some (text, after) else none
    | _ => none
  | _ => none

/-- Reads the members of a bracket set up to its closing `]`: the members, and the
characters after the `]`; `none` when it is not closed. The first member may be `]`. -/
def setMembers : Nat → List PatternChar → Bool → Option (List SetMember × List PatternChar)
  | 0, _, _ => none
  | _ + 1, [], _ => none
  | fuel + 1, (c, q) :: rest, first =>
    if c = ']' && !q && !first then some ([], rest)
    else if c = '\\' && !q && !rest.isEmpty then setMembers fuel (rest.modifyHead fun (d, _) => (d, true)) first
    else
      match (if c = '[' && !q then classAt rest else none) with
      | some (name, after) => (setMembers fuel after false).map fun (ms, r) => (.named name :: ms, r)
      | none =>
        match rest with
        | ('-', false) :: (d, dq) :: more =>
          if d = ']' && !dq then (setMembers fuel rest false).map fun (ms, r) => (.range c c :: ms, r)
          else (setMembers fuel more false).map fun (ms, r) => (.range c d :: ms, r)
        | _ => (setMembers fuel rest false).map fun (ms, r) => (.range c c :: ms, r)

/-- The characters inside the brackets of an extended pattern, split at the `|` that
stand outside inner brackets, and the characters after its closing bracket; `none` when
it is not closed. `depth` counts the inner brackets open, `current` is the alternative
being read and `done` those read before it. -/
def extAlternatives : Nat → List PatternChar → Nat → List PatternChar → List (List PatternChar) →
    Option (List (List PatternChar) × List PatternChar)
  | 0, _, _, _, _ => none
  | _ + 1, [], _, _, _ => none
  | fuel + 1, (c, q) :: rest, depth, current, done =>
    if q then extAlternatives fuel rest depth (current ++ [(c, q)]) done
    else if c = '\\' then
      match rest with
      | d :: more => extAlternatives fuel more depth (current ++ [(c, q), d]) done
      | [] => none
    else if c = '(' then extAlternatives fuel rest (depth + 1) (current ++ [(c, q)]) done
    else if c = ')' then
      if depth = 0 then some (done ++ [current], rest)
      else extAlternatives fuel rest (depth - 1) (current ++ [(c, q)]) done
    else if c = '|' && depth = 0 then extAlternatives fuel rest depth [] (done ++ [current])
    else extAlternatives fuel rest depth (current ++ [(c, q)]) done

/-- Reads a pattern from its characters; `extended` reads the extended patterns too. -/
def Glob.parseFrom (extended : Bool) : Nat → List PatternChar → List Glob
  | 0, _ => []
  | _ + 1, [] => []
  | fuel + 1, (c, q) :: rest =>
    let ext? : Option (List (List PatternChar) × List PatternChar) :=
      if extended && !q && "?*+@!".toList.contains c then
        match rest with
        | ('(', false) :: inner => extAlternatives (inner.length + 1) inner 0 [] []
        | _ => none
      else none
    match ext? with
    | some (alts, after) => .ext c (alts.map (parseFrom extended fuel)) :: parseFrom extended fuel after
    | none =>
    if q then .char c :: parseFrom extended fuel rest
    else if c = '\\' then
      match rest with
      | (d, _) :: more => .char d :: parseFrom extended fuel more
      | [] => [.char c]
    else if c = '*' then .many :: parseFrom extended fuel rest
    else if c = '?' then .one :: parseFrom extended fuel rest
    else if c = '[' then
      let (negated, body) : Bool × List PatternChar := match rest with
        | ('!', false) :: r => (true, r)
        | r => (false, r)
      match setMembers (body.length + 1) body true with
      | some (ms, after) => .set negated ms :: parseFrom extended fuel after
      | none => .char '[' :: parseFrom extended fuel rest
    else .char c :: parseFrom extended fuel rest

/-- Reads a pattern from its characters, with extended patterns when `extended`. -/
def Glob.parseWith (extended : Bool) (cs : List PatternChar) : List Glob :=
  Glob.parseFrom extended (cs.length + 1) cs

/-- Reads a pattern from its characters. -/
def Glob.parse (cs : List PatternChar) : List Glob := Glob.parseWith false cs

/-- Whether a set holds a character. -/
def Glob.inSet (members : List SetMember) (c : Char) : Bool :=
  members.any fun m =>
    match m with
    | .range a b => a ≤ c && c ≤ b
    | .named name => inClass name c

mutual

/-- The items of a pattern, counted into its extended patterns. -/
def Glob.weight : Glob → Nat
  | .ext _ alts => altsWeight alts + 1
  | _ => 1

/-- The items of the alternatives of an extended pattern. -/
def altsWeight : List (List Glob) → Nat
  | [] => 0
  | a :: rest => globsWeight a + altsWeight rest

/-- The items of a pattern. -/
def globsWeight : List Glob → Nat
  | [] => 0
  | g :: rest => g.weight + globsWeight rest

end

mutual

/-- Whether a pattern matches a whole text, looking `fuel` steps deep. -/
def Glob.matchFrom : Nat → List Glob → List Char → Bool
  | 0, _, _ => false
  | _ + 1, [], s => s.isEmpty
  | fuel + 1, .many :: g, s => (List.range (s.length + 1)).any fun k => Glob.matchFrom fuel g (s.drop k)
  | fuel + 1, .one :: g, _ :: s => Glob.matchFrom fuel g s
  | fuel + 1, .char d :: g, c :: s => c == d && Glob.matchFrom fuel g s
  | fuel + 1, .set negated ms :: g, c :: s => Glob.inSet ms c != negated && Glob.matchFrom fuel g s
  | fuel + 1, .ext op alts :: g, s =>
    (List.range (s.length + 1)).any fun k => Glob.extMatches fuel op alts (s.take k) && Glob.matchFrom fuel g (s.drop k)
  | _ + 1, _ :: _, [] => false

/-- Whether an extended pattern matches a whole text. -/
def Glob.extMatches : Nat → Char → List (List Glob) → List Char → Bool
  | 0, _, _, _ => false
  | fuel + 1, op, alts, t =>
    let one := alts.any fun a => Glob.matchFrom fuel a t
    if op = '@' then one
    else if op = '?' then t.isEmpty || one
    else if op = '!' then !one
    else if op = '*' then t.isEmpty || Glob.repeated fuel alts t
    else Glob.repeated fuel alts t

/-- Whether a text is one or more pieces, each matched by one of the alternatives. -/
def Glob.repeated : Nat → List (List Glob) → List Char → Bool
  | 0, _, _ => false
  | fuel + 1, alts, t =>
    (List.range (t.length + 1)).any fun j =>
      alts.any (fun a => Glob.matchFrom fuel a (t.take j)) &&
        (j == t.length || (j > 0 && Glob.repeated fuel alts (t.drop j)))

end

/-- Whether a pattern matches a whole text. -/
def Glob.matches (g : List Glob) (s : List Char) : Bool :=
  Glob.matchFrom ((globsWeight g + 2) * (s.length + 2)) g s

/-- An item of a pattern made to match without regard to case: a letter stands for itself
in either case, and a set holds both cases of the letters of its ranges. -/
def Glob.caseless : Glob → Glob
  | .char c =>
    if c.toLower != c.toUpper then .set false [.range c.toLower c.toLower, .range c.toUpper c.toUpper] else .char c
  | .set negated ms =>
    .set negated (ms ++ ms.filterMap fun m =>
      match m with
      | .range a b =>
        if a.isLower && b.isLower then some (.range a.toUpper b.toUpper)
        else if a.isUpper && b.isUpper then some (.range a.toLower b.toLower)
        else none
      | .named _ => none)
  | g => g

/-- A text without the shortest (or longest) start that a pattern matches. -/
def Glob.dropPrefix (g : List Glob) (longest : Bool) (s : List Char) : List Char :=
  let ks := List.range (s.length + 1)
  match (if longest then ks.reverse else ks).find? (fun k => Glob.matches g (s.take k)) with
  | some k => s.drop k
  | none => s

/-- A text without the shortest (or longest) end that a pattern matches. -/
def Glob.dropSuffix (g : List Glob) (longest : Bool) (s : List Char) : List Char :=
  let ks := List.range (s.length + 1)
  match (if longest then ks.reverse else ks).find? (fun k => Glob.matches g (s.drop (s.length - k))) with
  | some k => s.take (s.length - k)
  | none => s

example : Glob.matches (Glob.parse ("de*".toList.map (·, false))) "deploy".toList = true := by decide
example : Glob.matches (Glob.parse ("[!a-c]?".toList.map (·, false))) "dx".toList = true := by decide
example : Glob.matches (Glob.parse ("*".toList.map (·, true))) "x".toList = false := by decide
example : Glob.matches (Glob.parse ("[[:digit:]]".toList.map (·, false))) "5".toList = true := by decide +kernel
example : Glob.matches ((Glob.parse ("a[b-c]".toList.map (·, false))).map Glob.caseless) "AC".toList = true := by
  decide +kernel
example : Glob.matches (Glob.parseWith true ("*.@(txt|md)".toList.map (·, false))) "foo.md".toList = true ∧
    Glob.matches (Glob.parseWith true ("!(x*)".toList.map (·, false))) "abc".toList = true ∧
    Glob.matches (Glob.parseWith true ("+(ab)".toList.map (·, false))) "ababab".toList = true := by
  decide +kernel

end HelpMan.Shell
