import HelpMan.Shell.Syntax

/-!
# Brace expansion

In the `bash` dialect a word of a command becomes several words where it holds braces
outside quotes: `a{b,c}d` gives `abd` and `acd`, `{1..3}` gives `1`, `2` and `3`, and
`{a..e..2}` gives `a`, `c` and `e`. `Word.braceExpand` does this before any other
expansion.

* A `{` starts an expansion when a `}` closes it at the same depth; inside it, the texts
  between its commas outside inner braces are the choices, each expanded again, and
  without a comma it must be a sequence. Braces that are neither stay as text.
* A sequence runs between two whole numbers or two letters, in either direction, by a
  step whose sign does not count. Numbers written with a leading zero are padded with
  zeros to the width of the wider of the two.
* The text after the braces is expanded too, and every choice is followed by every
  expansion of it.

Only text outside quotes takes part: quoted text and expansions are carried along whole.
-/

namespace HelpMan.Shell

/-- A piece of a word as brace expansion sees it: a character outside quotes, or a part
that is carried along whole. -/
inductive Atom where
  | char (c : Char)
  | part (p : Part)
  deriving DecidableEq, Repr

/-- The atoms of a word. -/
def Word.atoms (w : Word) : List Atom :=
  w.flatMap fun p =>
    match p with
    | .plain s => s.toList.map Atom.char
    | p => [.part p]

/-- The word of atoms, with runs of characters joined into text. -/
def Word.ofAtoms (as : List Atom) : Word :=
  as.foldl (fun w a =>
    match a, w.getLast? with
    | .char c, some (.plain s) => w.dropLast ++ [.plain (s.push c)]
    | .char c, _ => w ++ [.plain c.toString]
    | .part p, _ => w ++ [p]) []

/-- The place of the first `target` character outside inner braces, counting from the
front, at depth `depth` of braces. -/
def gobble (target : Char) : List Atom → Nat → Option Nat
  | [], _ => none
  | .char c :: rest, depth =>
    if c = target && depth = 0 then some 0
    else if c = '{' then (gobble target rest (depth + 1)).map (· + 1)
    else if c = '}' then (if depth = 0 then none else (gobble target rest (depth - 1)).map (· + 1))
    else (gobble target rest depth).map (· + 1)
  | .part _ :: rest, depth => (gobble target rest depth).map (· + 1)

/-- The choices of the inside of braces: the atoms between its commas outside inner
braces. -/
def choices : Nat → List Atom → List (List Atom)
  | 0, as => [as]
  | fuel + 1, as =>
    match gobble ',' as 0 with
    | some k => as.take k :: choices fuel (as.drop (k + 1))
    | none => [as]

/-- The text of atoms that are all characters. -/
def atomsText? (as : List Atom) : Option String :=
  (as.mapM fun (a : Atom) => match a with
    | .char c => some c
    | .part _ => none).map String.ofList

/-- Reads a whole number of a sequence, with its sign. -/
def seqNumber? (s : String) : Option Int :=
  match s.toList with
  | '-' :: ds => if !ds.isEmpty && ds.all Char.isDigit then some (-(((String.ofList ds).toNat?.getD 0) : Int)) else none
  | '+' :: ds => if !ds.isEmpty && ds.all Char.isDigit then some ((String.ofList ds).toNat?.getD 0) else none
  | ds => if !ds.isEmpty && ds.all Char.isDigit then some ((String.ofList ds).toNat?.getD 0) else none

/-- Whether a number of a sequence is written with a leading zero. -/
def padded (s : String) : Bool := s.startsWith "0" && s.length > 1 || s.startsWith "-0"

/-- A number padded with zeros after its sign to a width. -/
def padNumber (width : Nat) (n : Int) : String :=
  let digits := toString n.natAbs
  let sign := if n < 0 then "-" else ""
  let fill := width - sign.length - digits.length
  sign ++ String.ofList (List.replicate fill '0') ++ digits

/-- The steps from one number to another by a step, in either direction. -/
def steps (a b : Int) (step : Nat) : List Int :=
  let step := max step 1
  let count := (a - b).natAbs / step + 1
  (List.range count).map fun (i : Nat) => if a ≤ b then a + (i : Int) * step else a - (i : Int) * step

/-- The words of a sequence `x..y` or `x..y..step`, or `none` when the text is none. -/
def sequence? (text : String) : Option (List String) :=
  let (lo, hi, step?) : String × String × Option String := match text.splitOn ".." with
    | [a, b] => (a, b, none)
    | [a, b, c] => (a, b, some c)
    | _ => ("", "", none)
  let step : Option Int := match step? with
    | some s => seqNumber? s
    | none => some 1
  match step with
  | none => none
  | some st =>
    match seqNumber? lo, seqNumber? hi with
    | some a, some b =>
      let width := if padded lo || padded hi then max lo.length hi.length else 0
      some ((steps a b st.natAbs).map (padNumber width))
    | _, _ =>
      match lo.toList, hi.toList with
      | [x], [y] =>
        if x.isAlpha && y.isAlpha then
          some ((steps x.toNat y.toNat st.natAbs).map fun n => (Char.ofNat n.toNat).toString)
        else none
      | _, _ => none

/-- Every word of choices each followed by every word of a rest. -/
def joinEach (xs ys : List (List Atom)) : List (List Atom) := xs.flatMap fun x => ys.map (x ++ ·)

/-- Expands the braces of a word's atoms. -/
def braceAtoms : Nat → List Atom → List (List Atom)
  | 0, as => [as]
  | fuel + 1, as =>
    -- the first `{` that a `}` closes
    let opens := (List.range as.length).filter fun i => as[i]? == some (.char '{')
    let found := opens.find? fun i => (gobble '}' (as.drop (i + 1)) 0).isSome
    match found with
    | none => [as]
    | some i =>
      let pre := as.take i
      let inner := as.drop (i + 1)
      let close := (gobble '}' inner 0).getD 0
      let amble := inner.take close
      let post := inner.drop (close + 1)
      let tack : Option (List (List Atom)) :=
        if (gobble ',' amble 0).isSome || amble.any (· == .char ',') then
          some ((choices amble.length amble).flatMap (braceAtoms fuel))
        else
          (atomsText? amble).bind sequence? |>.map fun ws => ws.map fun w => w.toList.map Atom.char
      match tack with
      | some t => joinEach (t.map (pre ++ ·)) (if post.isEmpty then [[]] else braceAtoms fuel post)
      | none =>
        if post.isEmpty then [as]
        else joinEach [pre ++ as.drop i |>.take (close + 2)] (braceAtoms fuel post)

/-- The words that brace expansion makes of a word. -/
def Word.braceExpand (w : Word) : List Word :=
  let as := w.atoms
  if !as.any (· == .char '{') then [w] else (braceAtoms (as.length + 1) as).map Word.ofAtoms

example : (Word.braceExpand [.plain "{a,b}{1,2}"]) = [[.plain "a1"], [.plain "a2"], [.plain "b1"], [.plain "b2"]] := by
  decide +kernel

end HelpMan.Shell
