import HelpMan.Shell.Pattern

/-!
# Extended regular expressions

The `=~` test of the conditional command `[[ ... ]]` matches a text against a POSIX
extended regular expression, and keeps the part of the text that matched and the parts
that its groups matched.

* `Regex.parse?` reads an expression: alternatives joined by `|`, each a run of atoms (a
  character, `.` for any one, a bracket set `[...]` as in patterns, `^` and `$` for the
  start and the end of the text, `\` before a character that stands for itself, the word
  sets `\w` `\W` `\s` `\S`, or a group in parentheses), and each atom may be repeated by
  `*`, `+`, `?` or bounds `{m}`, `{m,}`, `{m,n}`. An expression that does not read is
  `none`.
* `Regex.search` finds the match that starts first in the text and, of those, the longest;
  of the ways to match that, the one a left-to-right search that repeats as often as it
  can finds first. It gives the bounds of the match and of each group that took part.

Matching is bounded by a budget of steps, which only an expression that repeats repeats
on a long text can exhaust.
-/

namespace HelpMan.Shell.Regex

/-- A part of an expression. -/
inductive Node where
  /-- A character that matches itself. -/
  | char (c : Char)
  /-- `.`: any one character. -/
  | any
  /-- A set of characters, or those not in it when `negated`. -/
  | set (negated : Bool) (members : List SetMember)
  /-- `^`: the start of the text. -/
  | start
  /-- `$`: the end of the text. -/
  | finish
  /-- A group by number, with its alternatives, each a run of repeated nodes. -/
  | group (index : Nat) (alternatives : List (List (Node × Nat × Option Nat)))
  deriving Repr, Inhabited

/-- A node with the least and the greatest number of times it is repeated. -/
abbrev Repeated := Node × Nat × Option Nat

/-- The characters of the word set `\w`: letters, digits and `_`. -/
def wordMembers : List SetMember := [.named "alnum", .range '_' '_']

/-- The set a backslash and a letter stand for, if they stand for one. -/
def escapeSet? (c : Char) : Option Node :=
  match c with
  | 'w' => some (.set false wordMembers)
  | 'W' => some (.set true wordMembers)
  | 's' => some (.set false [.named "space"])
  | 'S' => some (.set true [.named "space"])
  | _ => none

/-- Reads the members of a bracket set after its `[` (and `^`): the members and the
characters after the closing `]`; a `]` first is a member, and a backslash is a member
itself. -/
def bracketMembers : Nat → List Char → Bool → Option (List SetMember × List Char)
  | 0, _, _ => none
  | _ + 1, [], _ => none
  | fuel + 1, c :: rest, first =>
    if c = ']' && !first then some ([], rest)
    else
      let named := if c = '[' then classAt (rest.map (·, false)) else none
      match named with
      | some (name, after) =>
        (bracketMembers fuel (after.map Prod.fst) false).map fun (ms, r) => (.named name :: ms, r)
      | none =>
        match c, rest with
        | '[', '=' :: d :: '=' :: ']' :: more | '[', '.' :: d :: '.' :: ']' :: more =>
          (bracketMembers fuel more false).map fun (ms, r) => (.range d d :: ms, r)
        | _, '-' :: d :: more =>
          if d = ']' then (bracketMembers fuel rest false).map fun (ms, r) => (.range c c :: ms, r)
          else (bracketMembers fuel more false).map fun (ms, r) => (.range c d :: ms, r)
        | _, _ => (bracketMembers fuel rest false).map fun (ms, r) => (.range c c :: ms, r)

/-- Reads the bounds of a repetition after its `{`: the least and greatest counts and the
characters after the `}`. -/
def boundsOf? (cs : List Char) : Option ((Nat × Option Nat) × List Char) :=
  let lo := cs.takeWhile Char.isDigit
  if lo.isEmpty then none
  else
    let least := ((String.ofList lo).toNat?.getD 0)
    match cs.drop lo.length with
    | '}' :: rest => some ((least, some least), rest)
    | ',' :: more =>
      let hi := more.takeWhile Char.isDigit
      match more.drop hi.length with
      | '}' :: rest =>
        if hi.isEmpty then some ((least, none), rest)
        else
          let most := ((String.ofList hi).toNat?.getD 0)
          if most < least then none else some ((least, some most), rest)
      | _ => none
    | _ => none

/-- Reads the repetitions after an atom: the bounds and the characters after them. -/
def repetition : Nat → List Char → Nat × Option Nat → Option ((Nat × Option Nat) × List Char)
  | 0, cs, b => some (b, cs)
  | fuel + 1, cs, (lo, hi) =>
    let times (l : Nat) (h : Option Nat) : Nat × Option Nat := (lo * l, match hi, h with
      | some a, some b => some (a * b)
      | _, _ => if lo * l = 0 && hi == some 0 then some 0 else none)
    match cs with
    | '*' :: rest => repetition fuel rest (times 0 none)
    | '+' :: rest => repetition fuel rest (times 1 none)
    | '?' :: rest => repetition fuel rest (times 0 (some 1))
    | '{' :: rest =>
      match boundsOf? rest with
      | some ((l, h), after) => repetition fuel after (times l h)
      | none => none
    | _ => some ((lo, hi), cs)

mutual

/-- Reads alternatives up to a `)` or the end: the alternatives, the characters after
them (from the `)` on), and the number of groups opened so far. -/
def alternatives : Nat → List Char → Nat → Option (List (List Repeated) × List Char × Nat)
  | 0, _, _ => none
  | fuel + 1, cs, groups => do
    let (first, rest, groups) ← sequence fuel cs groups
    match rest with
    | '|' :: more =>
      let (others, rest, groups) ← alternatives fuel more groups
      return (first :: others, rest, groups)
    | _ => return ([first], rest, groups)

/-- Reads a run of repeated atoms up to a `|`, a `)` or the end. -/
def sequence : Nat → List Char → Nat → Option (List Repeated × List Char × Nat)
  | 0, _, _ => none
  | fuel + 1, cs, groups =>
    match cs with
    | [] => some ([], [], groups)
    | '|' :: _ | ')' :: _ => some ([], cs, groups)
    | _ => do
      let (node, rest, groups) ← atom fuel cs groups
      let ((lo, hi), rest) ← repetition (rest.length + 1) rest (1, some 1)
      let (more, rest, groups) ← sequence fuel rest groups
      return ((node, lo, hi) :: more, rest, groups)

/-- Reads one atom. -/
def atom : Nat → List Char → Nat → Option (Node × List Char × Nat)
  | 0, _, _ => none
  | fuel + 1, cs, groups =>
    match cs with
    | '(' :: rest => do
      let index := groups + 1
      let (alts, after, groups) ← alternatives fuel rest index
      match after with
      | ')' :: more => return (.group index alts, more, groups)
      | _ => none
    | '.' :: rest => some (.any, rest, groups)
    | '^' :: rest => some (.start, rest, groups)
    | '$' :: rest => some (.finish, rest, groups)
    | '[' :: rest =>
      let (negated, body) := match rest with
        | '^' :: r => (true, r)
        | r => (false, r)
      (bracketMembers (body.length + 1) body true).map fun (ms, after) => (.set negated ms, after, groups)
    | '\\' :: c :: rest => some ((escapeSet? c).getD (.char c), rest, groups)
    | ['\\'] => none
    | '*' :: _ | '+' :: _ | '?' :: _ => none
    | c :: rest => some (.char c, rest, groups)
    | [] => none

end

/-- An expression read: the node of the whole, which is group `0`, and the number of
groups in it. -/
structure Expression where
  root : Node
  groups : Nat

/-- Reads an expression, or `none` when it does not read. -/
def parse? (text : String) : Option Expression :=
  let cs := text.toList
  match alternatives (4 * cs.length + 8) cs 0 with
  | some (alts, [], groups) => some ⟨.group 0 alts, groups⟩
  | _ => none

/-- The bounds each group matched, by number; a group that took no part has none. -/
abbrev Captures := List (Nat × Nat × Nat)

/-- The captures with a group's bounds set. -/
def Captures.put (caps : Captures) (index start stop : Nat) : Captures :=
  (index, start, stop) :: caps.filter (·.1 != index)

mutual

/-- The ways a node matches at a position of the text: where each ends, with the captures
after it, in the order of preference. -/
def nodeMatches : Nat → Array Char → Node → Nat → Captures → List (Nat × Captures)
  | 0, _, _, _, _ => []
  | fuel + 1, text, node, i, caps =>
    match node with
    | .char c => if text[i]? == some c then [(i + 1, caps)] else []
    | .any => if i < text.size then [(i + 1, caps)] else []
    | .set negated ms =>
      match text[i]? with
      | some c => if Glob.inSet ms c != negated then [(i + 1, caps)] else []
      | none => []
    | .start => if i = 0 then [(i, caps)] else []
    | .finish => if i = text.size then [(i, caps)] else []
    | .group index alts =>
      (alternativesMatch fuel text alts i caps).map fun (j, c) => (j, c.put index i j)

/-- The ways one of the alternatives matches, the first alternative's ways first. -/
def alternativesMatch : Nat → Array Char → List (List Repeated) → Nat → Captures → List (Nat × Captures)
  | 0, _, _, _, _ => []
  | _ + 1, _, [], _, _ => []
  | fuel + 1, text, alt :: alts, i, caps =>
    sequenceMatches fuel text alt i caps ++ alternativesMatch fuel text alts i caps

/-- The ways a run of repeated nodes matches. -/
def sequenceMatches : Nat → Array Char → List Repeated → Nat → Captures → List (Nat × Captures)
  | 0, _, _, _, _ => []
  | _ + 1, _, [], i, caps => [(i, caps)]
  | fuel + 1, text, (node, lo, hi) :: rest, i, caps =>
    (repeatMatches fuel text node lo hi i caps).flatMap fun (j, c) => sequenceMatches fuel text rest j c

/-- The ways a node repeated at least `lo` and at most `hi` times matches: more
repetitions first; a repetition that matches nothing ends the repeating. -/
def repeatMatches : Nat → Array Char → Node → Nat → Option Nat → Nat → Captures → List (Nat × Captures)
  | 0, _, _, _, _, _, _ => []
  | fuel + 1, text, node, lo, hi, i, caps =>
    let stop := if lo = 0 then [(i, caps)] else []
    if hi == some 0 then stop
    else
      let more := (nodeMatches fuel text node i caps).flatMap fun (j, c) =>
        if j = i then (if lo ≤ 1 then [(j, c)] else [])
        else repeatMatches fuel text node (lo - 1) (hi.map (· - 1)) j c
      more ++ stop

end

/-- A match: where it starts and ends, and the bounds of each group that took part. -/
structure Match where
  start : Nat
  stop : Nat
  captures : Captures

/-- The first of the longest ways to match at a position, if any. -/
def longestAt (fuel : Nat) (text : Array Char) (r : Expression) (i : Nat) : Option Match :=
  let ways := nodeMatches fuel text r.root i []
  match ways.map Prod.fst |>.max? with
  | some best => (ways.find? (·.1 == best)).map fun (j, caps) => ⟨i, j, caps⟩
  | none => none

/-- The match that starts first in a text, and of those the longest. -/
def search (r : Expression) (text : String) : Option Match :=
  let cs := text.toList.toArray
  let fuel := 64 * (cs.size + 4) * (cs.size + 4)
  ((List.range (cs.size + 1)).filterMap fun i => longestAt fuel cs r i).head?

/-- The texts of a match and of each group of an expression, in order: the empty text for
a group that took no part. -/
def Match.texts (m : Match) (r : Expression) (text : String) : List String :=
  let cs := text.toList
  let cut (a b : Nat) : String := String.ofList ((cs.drop a).take (b - a))
  cut m.start m.stop :: (List.range r.groups).map fun k =>
    match m.captures.find? (·.1 == k + 1) with
    | some (_, a, b) => cut a b
    | none => ""

example : ((parse? "^a(b)c$").bind fun r => (search r "abc").map (·.texts r "abc")) = some ["abc", "b"] := by
  decide +kernel

example : ((parse? "[0-9]+").bind fun r => (search r "ab123c").map (·.texts r "ab123c")) = some ["123"] := by
  decide +kernel

end HelpMan.Shell.Regex
