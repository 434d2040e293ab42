import HelpMan.Shell.Lex
import HelpMan.Shell.Pattern

/-!
# Parameter expansions of the `bash` dialect

In the `bash` dialect the inside of `${...}` is kept as text until it is expanded, and then
read by `Braced.parse?` into what it names and what it does with the value:

* `${#p}` is the length of a value, or the number of elements of an array;
* `${!a[@]}` lists the keys of an array, `${!prefix*}` the names of the variables that
  start with `prefix`, and `${!p...}` takes the value of `p` as the name of the parameter
  to expand;
* after the parameter come the modifiers of the language (`:-` `-` `:=` `=` `:?` `?` `:+`
  `+` `#` `##` `%` `%%`), a replacement (`/pattern/text`, `//` for every match, `/#` at the
  start, `/%` at the end), a change of case (`^` `^^` `,` `,,` `~` `~~`), a part (`:offset` and
  `:offset:length`) or a transformation (`@Q`, `@E`, `@A`, `@a`, `@U`, `@u`, `@L`).

The operations on values are here too: `slice` cuts a part as `:offset:length` does,
`replace` replaces the matches of a pattern, `changeCase` changes the case of the
characters a pattern matches, and `quoteReusable` and `quoteDouble` quote a value so that
the shell reads it back.
-/

namespace HelpMan.Shell

/-- What a braced expansion names. -/
inductive Subject where
  /-- A parameter: a variable, a positional parameter or a special one. -/
  | param (p : Param)
  /-- An element of an array by the text of its subscript; the subscripts `@` and `*`
  name all the elements. -/
  | element (name : String) (subscript : String)
  deriving DecidableEq, Repr

/-- Where a replacement looks for matches of its pattern. -/
inductive Anchor where
  /-- The first match. -/
  | first
  /-- Every match. -/
  | every
  /-- A match at the start. -/
  | start
  /-- A match at the end. -/
  | finish
  deriving DecidableEq, Repr

/-- What a braced expansion does with the value it names. -/
inductive Operation where
  | value
  /-- A modifier of the language with the text of its word. -/
  | modify (m : Modifier) (word : String)
  /-- The matches of a pattern replaced by a text, or removed without one. -/
  | replace (anchor : Anchor) (pattern : String) (replacement : Option String)
  /-- The characters that a pattern matches made upper case (`some true`), lower case
  (`some false`) or of the other case (`none`): the first, or every one with `every`. An
  empty pattern matches every character. -/
  | changeCase (upper : Option Bool) (every : Bool) (pattern : String)
  /-- The part from an offset, of a length, by the texts of their expressions. -/
  | slice (offset : String) (length : Option String)
  /-- A transformation by its letter. -/
  | transform (c : Char)
  deriving DecidableEq, Repr

/-- What the inside of `${...}` says. -/
inductive Braced where
  /-- `${#p}`: the length of a value, or the number of elements. -/
  | length (s : Subject)
  /-- `${!a[@]}`: the keys of an array; `joined` for `*`. -/
  | keys (name : String) (joined : Bool)
  /-- `${!prefix*}`: the names of the variables that start with a prefix. -/
  | names (pre : String) (joined : Bool)
  /-- A parameter, taken as the name of another when `indirect`, and an operation. -/
  | expand (indirect : Bool) (s : Subject) (op : Operation)
  deriving DecidableEq, Repr

/-- The length of a subscript after its `[`, up to the `]` that closes it. -/
def subscriptEnd : Nat → List Char → Nat → Option Nat
  | 0, _, _ => none
  | _ + 1, [], _ => none
  | fuel + 1, c :: rest, depth =>
    if c = ']' then (if depth = 0 then some 0 else (subscriptEnd fuel rest (depth - 1)).map (· + 1))
    else if c = '[' then (subscriptEnd fuel rest (depth + 1)).map (· + 1)
    else if c = '\\' then
      match rest with
      | _ :: more => (subscriptEnd fuel more depth).map (· + 2)
      | [] => none
    else (subscriptEnd fuel rest depth).map (· + 1)

/-- Reads the parameter at the front of the inside of braces. -/
def subjectAt (cs : List Char) : Option (Subject × List Char) :=
  match cs with
  | c :: rest =>
    if isNameStart c then
      let name := cs.takeWhile isNameChar
      match cs.drop name.length with
      | '[' :: more =>
        (subscriptEnd (more.length + 1) more 0).map fun n =>
          (.element (String.ofList name) (String.ofList (more.take n)), more.drop (n + 1))
      | after => some (.param (.var (String.ofList name)), after)
    else if c.isDigit then
      let ds := cs.takeWhile Char.isDigit
      some (.param (.positional ((String.ofList ds).toNat?.getD 0)), cs.drop ds.length)
    else
      (readParam [c]).map fun (p, _) => (.param p, rest)
  | [] => none

/-- Splits a text at its first `ch` outside quotes, brackets and expansions, and not after
a backslash. -/
def splitAtTop (ch : Char) : Nat → List Char → Nat → Option (List Char × List Char)
  | 0, _, _ => none
  | _ + 1, [], _ => none
  | fuel + 1, c :: rest, depth =>
    let keep (n : Nat) (depth : Nat) : Option (List Char × List Char) :=
      (splitAtTop ch fuel ((c :: rest).drop n) depth).map fun (a, b) => ((c :: rest).take n ++ a, b)
    if c = ch && depth = 0 then some ([], rest)
    else if c = '\\' then (if rest.isEmpty then none else keep 2 depth)
    else if c = '\'' || c = '"' then
      match quotedLength c fuel rest with
      | some n => keep (n + 1) depth
      | none => none
    else if c = '(' || c = '{' || c = '[' then keep 1 (depth + 1)
    else if c = ')' || c = '}' || c = ']' then keep 1 (depth - 1)
    else keep 1 depth

/-- Reads the operation after the parameter. -/
def operationOf? (cs : List Char) : Option Operation :=
  let text (w : List Char) : String := String.ofList w
  match cs with
  | [] => some .value
  | ':' :: '-' :: w => some (.modify (.useDefault true) (text w))
  | ':' :: '=' :: w => some (.modify (.assignDefault true) (text w))
  | ':' :: '?' :: w => some (.modify (.errorIfUnset true) (text w))
  | ':' :: '+' :: w => some (.modify (.useAlternative true) (text w))
  | ':' :: w =>
    match splitAtTop ':' (w.length + 1) w 0 with
    | some (a, b) => some (.slice (text a) (some (text b)))
    | none => some (.slice (text w) none)
  | '-' :: w => some (.modify (.useDefault false) (text w))
  | '=' :: w => some (.modify (.assignDefault false) (text w))
  | '?' :: w => some (.modify (.errorIfUnset false) (text w))
  | '+' :: w => some (.modify (.useAlternative false) (text w))
  | '#' :: '#' :: w => some (.modify (.dropPrefix true) (text w))
  | '#' :: w => some (.modify (.dropPrefix false) (text w))
  | '%' :: '%' :: w => some (.modify (.dropSuffix true) (text w))
  | '%' :: w => some (.modify (.dropSuffix false) (text w))
  | '/' :: rest =>
    let (anchor, w) : Anchor × List Char := match rest with
      | '/' :: w => (.every, w)
      | '#' :: w => (.start, w)
      | '%' :: w => (.finish, w)
      | w => (.first, w)
    match splitAtTop '/' (w.length + 1) w 0 with
    | some (p, r) => some (.replace anchor (text p) (some (text r)))
    | none => some (.replace anchor (text w) none)
  | '^' :: '^' :: w => some (.changeCase (some true) true (text w))
  | '^' :: w => some (.changeCase (some true) false (text w))
  | ',' :: ',' :: w => some (.changeCase (some false) true (text w))
  | ',' :: w => some (.changeCase (some false) false (text w))
  | '~' :: '~' :: w => some (.changeCase none true (text w))
  | '~' :: w => some (.changeCase none false (text w))
  | ['@', c] => if "QEPAaUuLKk".toList.contains c then some (.transform c) else none
  | _ => none

/-- Reads the inside of `${...}`; `none` is a bad substitution. -/
def Braced.parse? (text : String) : Option Braced :=
  match text.toList with
  | [] => none
  | ['#'] => some (.expand false (.param .count) .value)
  | ['!'] => some (.expand false (.param .lastJob) .value)
  | '#' :: rest =>
    match subjectAt rest with
    | some (s, []) => some (.length s)
    | _ => (operationOf? rest).map (.expand false (.param .count))
  | '!' :: rest =>
    match subjectAt rest with
    | some (.element n sub, []) =>
      if sub == "@" || sub == "*" then some (.keys n (sub == "*")) else some (.expand true (.element n sub) .value)
    | some (.param (.var n), ['*']) => some (.names n true)
    | some (.param (.var n), ['@']) => some (.names n false)
    | some (s, after) => (operationOf? after).map (.expand true s)
    | none => none
  | cs =>
    match subjectAt cs with
    | some (s, after) => (operationOf? after).map (.expand false s)
    | none => none

example : Braced.parse? "x:1:3" = some (.expand false (.param (.var "x")) (.slice "1" (some "3"))) := by decide
example : Braced.parse? "!a[@]" = some (.keys "a" false) := by decide
example : Braced.parse? "x//l/L" = some (.expand false (.param (.var "x")) (.replace .every "l" (some "L"))) := by decide

/-! ## Operations on values -/

/-- The part of a list that `:offset:length` names: a negative offset counts from the end,
and a negative length leaves that many at the end. `none` when the length ends before the
offset. -/
def slice {α : Type} (xs : List α) (offset : Int) (length : Option Int) : Option (List α) :=
  let n : Int := xs.length
  let start := if offset < 0 then offset + n else offset
  if start < 0 || start > n then some []
  else
    match length with
    | none => some (xs.drop start.toNat)
    | some len =>
      let stop := if len < 0 then len + n else start + len
      if len < 0 && stop < start then none
      else some ((xs.drop start.toNat).take ((min stop n) - start).toNat)

example : slice "hello".toList 1 (some 3) = some "ell".toList ∧ slice "hello".toList (-2) none = some "lo".toList := by
  decide

/-- The elements of an indexed array from the first whose index is at least an offset,
as many as a count says, or all the rest: the offset names an index, not a position, so
that a sparse array is sliced by its indices; a negative offset counts back from one past
the greatest index. A negative count is refused with `none`. -/
def sliceIndexed (items : List (Nat × String)) (offset : Int) (length : Option Int) : Option (List String) :=
  let top : Int := items.foldl (fun m (p : Nat × String) => max m ((p.1 : Int) + 1)) 0
  let start := if offset < 0 then offset + top else offset
  let rest := (items.filter fun (p : Nat × String) => (p.1 : Int) ≥ start).map (·.2)
  if start < 0 || start > top then some []
  else
    match length with
    | none => some rest
    | some len => if len < 0 then none else some (rest.take len.toNat)

example : sliceIndexed [(1, "a"), (3, "c"), (5, "e")] 2 (some 2) = some ["c", "e"] ∧
    sliceIndexed [(0, "x"), (1, "y"), (2, "z")] (-2) none = some ["y", "z"] := by
  decide

/-- The length of the longest start of a text that a pattern matches. -/
def longestMatch (g : List Glob) (s : List Char) : Option Nat :=
  ((List.range (s.length + 1)).reverse).find? fun k => Glob.matches g (s.take k)

/-- The replacement text for a match: each `&` that was not quoted stands for the text
matched. -/
def fillReplacement (rep : List (Char × Bool)) (matched : List Char) : List Char :=
  rep.flatMap fun (c, q) => if c = '&' && !q then matched else [c]

/-- Replaces the matches of a pattern from a position on, every one when `every`; a match
of nothing keeps the character after it. -/
def replaceFrom (g : List Glob) (rep : List (Char × Bool)) (every : Bool) : Nat → List Char → List Char
  | 0, s => s
  | _ + 1, [] => []
  | fuel + 1, c :: rest =>
    match longestMatch g (c :: rest) with
    | some k =>
      let matched := (c :: rest).take k
      let after := (c :: rest).drop k
      if !every then fillReplacement rep matched ++ after
      else if k = 0 then fillReplacement rep [] ++ c :: replaceFrom g rep every fuel rest
      else fillReplacement rep matched ++ replaceFrom g rep every fuel after
    | none => c :: replaceFrom g rep every fuel rest

/-- Replaces the matches of a pattern in a text as the anchor says. An empty text is
replaced whole when the pattern matches it. -/
def replace (anchor : Anchor) (g : List Glob) (rep : List (Char × Bool)) (s : List Char) : List Char :=
  if s.isEmpty then (if Glob.matches g [] then fillReplacement rep [] else [])
  else
    match anchor with
    | .first => replaceFrom g rep false (s.length + 1) s
    | .every => replaceFrom g rep true (s.length + 1) s
    | .start =>
      match longestMatch g s with
      | some k => fillReplacement rep (s.take k) ++ s.drop k
      | none => s
    | .finish =>
      match (List.range (s.length + 1)).find? fun i => Glob.matches g (s.drop i) with
      | some i => s.take i ++ fillReplacement rep (s.drop i)
      | none => s

example : replace .every (Glob.parse ("l".toList.map (·, false))) [('L', false)] "hello".toList = "heLLo".toList := by
  decide

/-- The character in upper case, lower case, or (for `none`) the other case; only ASCII
letters change. -/
def caseOf : Option Bool → Char → Char
  | some true, c => c.toUpper
  | some false, c => c.toLower
  | none, c => if c.isUpper then c.toLower else c.toUpper

/-- Changes the case of the characters that a pattern matches: the first character only,
or every one. -/
def changeCase (upper : Option Bool) (every : Bool) (g : List Glob) (s : List Char) : List Char :=
  let hits (c : Char) : Bool := g.isEmpty || Glob.matches g [c]
  if every then s.map fun c => if hits c then caseOf upper c else c
  else
    match s with
    | c :: rest => (if hits c then caseOf upper c else c) :: rest
    | [] => []

/-- The escapes of a text expanded as `$'...'` expands them (`@E`). -/
def expandEscapes : Nat → List Char → List Char
  | 0, cs => cs
  | _ + 1, [] => []
  | fuel + 1, '\\' :: d :: more =>
    let (bytes, after) := ansiEscape d more
    bytes ++ expandEscapes fuel after
  | fuel + 1, c :: rest => c :: expandEscapes fuel rest

end HelpMan.Shell
