import HelpMan.Tools.Basic
import HelpMan.Binary64

/-!
# `seq` and `sleep`

`seq [FIRST [INCREMENT]] LAST` writes the numbers from `FIRST` (1 by default) by
`INCREMENT` (1 by default) up to `LAST`, each followed by the separator (`-s`, a line end
by default) but the last, which is followed by a line end. The operands are read exactly
(`readExact`): decimal numbers with an optional exponent, or hexadecimal ones, so that
every term `FIRST + i * INCREMENT` is an exact rational.

The terms are written in the format of `-f`, or in one chosen from the operands
(`defaultFormat`): with as many places as the most precise of `FIRST` and `INCREMENT`, and
with `-w` padded with zeros to the width of the widest end. An operand written in
hexadecimal or with a binary exponent has no precision of its own, and then the terms
are written with six significant digits.

`sleep` reads each operand as a number with an optional unit (`s`, `m`, `h` or `d`); it
waits for their sum, and is stopped when the run is interrupted once it has started.
-/

namespace HelpMan.Tools

/-! ## Exact numbers -/

/-- A number as an operand spells it. -/
inductive Exact where
  | number (q : Rat)
  | infinite (negative : Bool)
  | notANumber

/-- The rational `m * base ^ e`, for `base` 2 or 10. -/
def scaled (m : Nat) (base : Nat) (e : Int) : Rat :=
  if e ≥ 0 then ((m * Nat.pow base e.toNat : Nat) : Rat) else mkRat (m : Int) (Nat.pow base e.natAbs)

/-- Reads a whole operand as a number, as `strtold` reads it: blanks, a sign, then
decimal digits with an optional point and exponent, hexadecimal digits after `0x` with
an optional point and binary exponent, `inf`, `infinity` or `nan`. An exponent too far
from zero is beyond the range; a very small number reads as zero. -/
def readExact (s : String) : Option Exact :=
  let cs := s.toList.dropWhile Binary64.isSpace
  let (negative, cs) := match cs with
    | '-' :: r => (true, r)
    | '+' :: r => (false, r)
    | r => (false, r)
  let sign (q : Rat) : Rat := if negative then -q else q
  let whole (r : Option (Exact × List Char)) : Option Exact :=
    match r with
    | some (x, []) => some x
    | _ => none
  if Binary64.startsWithWord cs "infinity" && cs.length = 8 then some (.infinite negative)
  else if Binary64.startsWithWord cs "inf" && cs.length = 3 then some (.infinite negative)
  else if Binary64.startsWithWord cs "nan" then
    if (Binary64.nanTail (cs.drop 3)).isEmpty then some .notANumber else none
  else
    let number (m : Nat) (base : Nat) (e : Int) (rest : List Char) : Option (Exact × List Char) :=
      if m = 0 then some (.number 0, rest)
      else if e > 5000 then none
      else if e < -5000 then some (.number 0, rest)
      else some (.number (sign (scaled m base e)), rest)
    let hex := match cs with
      | '0' :: x :: rest =>
        if x = 'x' || x = 'X' then
          (Binary64.mantissaPart 16 rest).bind fun (h, places, rest) =>
            let (p, rest) := Binary64.optionalExponent ['p', 'P'] rest
            number h 2 (p - 4 * Int.ofNat places) rest
        else none
      | _ => none
    match hex with
    | some r => whole (some r)
    | none =>
      whole ((Binary64.mantissaPart 10 cs).bind fun (d, places, rest) =>
        let (x, rest) := Binary64.optionalExponent ['e', 'E'] rest
        number d 10 (x - Int.ofNat places) rest)

example : (match readExact "1e1" with
    | some (.number q) => q == 10
    | _ => false) = true := by decide +kernel

/-! ## seq -/

/-- An operand of `seq`: its value, the width it takes when written, and its places, if
it has a precision of its own. An infinite operand (`infinity` tells whether it is
negative) has neither. -/
structure Operand where
  value : Rat
  width : Nat
  precision : Option Nat
  infinity : Option Bool

/-- Where an operand stands among the infinities: `-1` below every number, `1` above
every number, `0` for a number. -/
def Operand.rank (o : Operand) : Int :=
  match o.infinity with
  | some true => -1
  | some false => 1
  | none => 0

/-- Whether one operand is below another, infinities included. -/
def Operand.below (a b : Operand) : Bool :=
  if a.rank != b.rank then a.rank < b.rank else a.rank == 0 && a.value < b.value

/-- The digits, point and exponent of an operand, for its width and precision: the
width counts what is written of it (no `+`, no exponent, a `0` before a leading point);
an exponent moves the point. -/
def Operand.shape (arg : String) (value : Rat) : Operand :=
  let cs := (arg.toList.dropWhile fun c => Binary64.isSpace c || c = '+')
  let pointed := cs.contains '.'
  let base : Option Nat := if !pointed && !cs.contains 'p' then some 0 else none
  if cs.any (fun c => c = 'x' || c = 'X') then ⟨value, 0, base, none⟩
  else
    let afterPoint := (cs.dropWhile (· ≠ '.')).drop 1
    let fraction := (afterPoint.takeWhile fun c => c ≠ 'e' && c ≠ 'E').length
    let beforePoint := cs.takeWhile (· ≠ '.')
    let width : Int := cs.length
    let precision : Option Nat := if pointed then some fraction else base
    let width : Int := if pointed then
        if fraction = 0 then width - 1
        else if beforePoint.isEmpty || !(beforePoint.getLast?.getD ' ').isDigit then width + 1 else width
      else width
    match cs.findIdx? fun c => c = 'e' || c = 'E' with
    | none => ⟨value, width.toNat, precision, none⟩
    | some at_ =>
      let (expNegative, expDigits) := match cs.drop (at_ + 1) with
        | '-' :: r => (true, r)
        | '+' :: r => (false, r)
        | r => (false, r)
      let magnitude := ((String.ofList (expDigits.takeWhile Char.isDigit)).toNat?.getD 0)
      let width := width - (cs.length - at_ : Nat)
      if expNegative then
        let precision := precision.map (· + magnitude)
        let width := if pointed then (if at_ = (cs.idxOf '.') + 1 then width + 1 else width) else width + 1
        ⟨value, (width + magnitude).toNat, precision, none⟩
      else
        let precision' := precision.map fun p => p - min p magnitude
        let width := if pointed && precision' == some 0 && fraction > 0 then width - 1 else width
        ⟨value, (width + (magnitude - min fraction magnitude)).toNat, precision', none⟩

/-- A conversion of a number, with the text before and after it. -/
structure NumberFormat where
  lead : String
  layout : Binary64.Layout
  trail : String

/-- A rational written by a layout, as `printf` writes a floating-point number; a zero
is written with a minus sign when `negativeZero` says it is negative. -/
def showSigned (l : Binary64.Layout) (negativeZero : Bool) (q : Rat) : String :=
  let negative := q < 0 || (q == 0 && negativeZero)
  let sign := if negative then "-" else if l.plusSign then "+" else if l.spaceSign then " " else ""
  let body := String.ofList (Binary64.finiteBody l q.num.natAbs q.den)
  let fill := l.width - (sign.length + body.length)
  if l.leftAlign then sign ++ body ++ String.ofList (List.replicate fill ' ')
  else if l.zeroPad then sign ++ String.ofList (List.replicate fill '0') ++ body
  else String.ofList (List.replicate fill ' ') ++ sign ++ body

/-- A rational written by a layout, as `printf` writes a floating-point number. -/
def showRat (l : Binary64.Layout) (q : Rat) : String := showSigned l false q

/-- A number written in a format. -/
def NumberFormat.show (f : NumberFormat) (q : Rat) : String := f.lead ++ showRat f.layout q ++ f.trail

/-- A layout with a conversion letter, a width, zero padding and a precision. -/
def plainLayout (conversion : Char) (zeroPad : Bool) (width : Nat) (precision : Option Nat) : Binary64.Layout :=
  ⟨conversion, false, false, false, false, zeroPad, width, precision⟩

/-- The format chosen from the operands: fixed places as many as the most precise of
the first and the increment, padded with zeros to the widest end with `-w`; six
significant digits when an operand has no precision of its own. -/
def defaultFormat (first step last : Operand) (equalWidth : Bool) : NumberFormat :=
  match first.precision, step.precision, last.precision with
  | some pf, some ps, some pl =>
    let prec := max pf ps
    if equalWidth then
      let firstWidth : Int := first.width + ((prec : Int) - pf) + (if pf = 0 && prec > 0 then 1 else 0)
      let lastWidth : Int := last.width + ((prec : Int) - pl) + (if pl = 0 && prec > 0 then 1 else 0)
      let lastWidth := if pl > 0 && prec = 0 then lastWidth - 1 else lastWidth
      ⟨"", plainLayout 'f' true (max firstWidth lastWidth).toNat (some prec), ""⟩
    else ⟨"", plainLayout 'f' false 0 (some prec), ""⟩
  | _, _, _ => ⟨"", plainLayout 'g' false 0 none, ""⟩

/-- Text of a format outside its conversion, with `%%` written as `%`: the text and what
follows the first `%` that starts a conversion. -/
def literalRun : Nat → List Char → String × Option (List Char)
  | 0, _ => ("", none)
  | _ + 1, [] => ("", none)
  | fuel + 1, '%' :: '%' :: rest =>
    let (t, after) := literalRun fuel rest
    ("%" ++ t, after)
  | _ + 1, '%' :: rest => ("", some rest)
  | fuel + 1, c :: rest =>
    let (t, after) := literalRun fuel rest
    (c.toString ++ t, after)

/-- Reads the format of `-f`: exactly one conversion `e f g a` (or a capital), with
flags, a width and a precision; a message when it has none, more than one, or another. -/
def readNumberFormat (fmt : String) : Except String NumberFormat :=
  let cs := fmt.toList
  match literalRun (cs.length + 1) cs with
  | (_, none) => .error ("format " ++ quote fmt ++ " has no % directive")
  | (lead, some rest) =>
    let flags := rest.takeWhile fun c => "-+#0 '".toList.contains c
    let rest := rest.drop flags.length
    let widthDigits := rest.takeWhile Char.isDigit
    let rest := rest.drop widthDigits.length
    let (precision, rest) : Option Nat × List Char := match rest with
      | '.' :: more =>
        let ds := more.takeWhile Char.isDigit
        (some ((String.ofList ds).toNat?.getD 0), more.drop ds.length)
      | _ => (none, rest)
    let rest := match rest with
      | 'L' :: more => more
      | more => more
    match rest with
    | [] => .error ("format " ++ quote fmt ++ " ends in %")
    | k :: after =>
      if !"efgaEFGA".toList.contains k then
        .error ("format " ++ quote fmt ++ " has unknown %" ++ k.toString ++ " directive")
      else
        match literalRun (after.length + 1) after with
        | (_, some _) => .error ("format " ++ quote fmt ++ " has too many % directives")
        | (trail, none) =>
          let kind := if k = 'a' then 'e' else if k = 'A' then 'E' else k
          .ok ⟨lead, ⟨kind, flags.contains '-', flags.contains '+', flags.contains ' ', flags.contains '#',
            flags.contains '0', ((String.ofList widthDigits).toNat?.getD 0), precision⟩, trail⟩

/-- Writes the terms of a sequence from the `i`-th on, given how the term before was
written: each term within the last, and a term just past it that is written as the last
is and differently from the term before. The first term is written as a negative zero
when `negativeZero` says so; the later ones are sums, never negative zeros. -/
def seqTerms (f : NumberFormat) (negativeZero : Bool) (first step last : Rat) : Nat → Nat → String → List String
  | 0, _, _ => []
  | fuel + 1, i, previous =>
    let x := first + (i : Rat) * step
    let shown := showSigned f.layout (negativeZero && i == 0) x
    let beyond := if step < 0 then x < last else last < x
    if !beyond then (f.lead ++ shown ++ f.trail) :: seqTerms f negativeZero first step last fuel (i + 1) shown
    else
      let written := match readExact shown with
        | some (.number v) => v == last
        | _ => false
      if written && shown != previous then [f.lead ++ shown ++ f.trail] else []

/-- How many terms are written of a sequence that never ends: more than any reader of
them takes before it stops. -/
def endlessCount : Nat := 50000

/-- The terms of a sequence with an infinite operand from the `i`-th on, up to the first
that is beyond the last operand. -/
def unboundedTerms (term : Nat → Operand) (beyond : Operand → Bool) : Nat → Nat → List Operand
  | 0, _ => []
  | fuel + 1, i =>
    let t := term i
    if beyond t then [] else t :: unboundedTerms term beyond fuel (i + 1)

/-- A term written in a format: `inf` for an infinite one, as `printf` writes it; a zero
with a minus sign when `negativeZero` says it is negative. -/
def NumberFormat.showOperand (f : NumberFormat) (negativeZero : Bool) (t : Operand) : String :=
  match t.infinity with
  | some negative => f.lead ++ String.ofList (Binary64.format ⟨negative, .infinity⟩ f.layout) ++ f.trail
  | none => f.lead ++ showSigned f.layout negativeZero t.value ++ f.trail

/-- Whether an operand is written as a negative number: a minus sign after blanks. -/
def writtenNegative (arg : String) : Bool :=
  (arg.toList.dropWhile Binary64.isSpace).head? == some '-'

/-- The options of `seq`. -/
def seqSpec : Spec :=
  ⟨"+f:s:w", [⟨"format", .required, 'f'⟩, ⟨"separator", .required, 's'⟩, ⟨"equal-width", .nothing, 'w'⟩]⟩

/-- Reads the options of `seq`, which end at the first operand or at an argument that
looks like a negative number. -/
def seqOptions : Nat → List String → List (Char × Option String) → Except String (List (Char × Option String) × List String)
  | 0, args, got => .ok (got, args)
  | _ + 1, [], got => .ok (got, [])
  | fuel + 1, a :: rest, got =>
    if a == "--" then .ok (got, rest)
    else
      match a.toList with
      | '-' :: c :: cs =>
        if c = '.' || c.isDigit then .ok (got, a :: rest)
        else if c = '-' then do
          let (g, rest) ← Options.long "seq" seqSpec.longs (String.ofList cs) rest
          seqOptions fuel rest (got ++ [g])
        else do
          let (got, rest) ← Options.cluster "seq" seqSpec.letters.toList (c :: cs) rest got
          seqOptions fuel rest got
      | _ => .ok (got, a :: rest)

/-- Reads an operand of `seq`. -/
def seqOperand (arg : String) : Except String Operand :=
  match readExact arg with
  | some (.number q) => .ok (Operand.shape arg q)
  | some (.infinite negative) => .ok ⟨0, 0, none, some negative⟩
  | some .notANumber => .error ("seq: invalid " ++ quote "not-a-number" ++ " argument: " ++ quote arg ++ "\n")
  | _ => .error ("seq: invalid floating point argument: " ++ quote arg ++ "\n")

/-- Runs `seq`. -/
def seq (cx : Context) (args : List String) : Outcome :=
  match seqOptions (args.length + 1) args [] with
  | .error e => cx.badUsage "seq" e 1
  | .ok (given, operands) =>
    let o : Options := ⟨given, operands⟩
    let sep := (o.last? 's').getD "\n"
    let equalWidth := o.has 'w'
    if operands.isEmpty then cx.missingOperand "seq" 1
    else if operands.length > 3 then cx.extraOperand "seq" (operands.getD 3 "") 1
    else
      let format : Except String (Option NumberFormat) := match o.last? 'f' with
        | some f => (readNumberFormat f).map some
        | none => .ok none
      match format with
      | .error e => cx.failWith ("seq: " ++ e ++ "\n") 1
      | .ok format =>
        if format.isSome && equalWidth then
          cx.badUsage "seq" "seq: format string may not be specified when printing equal width strings\n" 1
        else
          let one : Operand := ⟨1, 1, some 0, none⟩
          let read : Except String (Operand × Operand × Operand) := match operands with
            | [l] => do return (one, one, ← seqOperand l)
            | [a, l] => do
              let a ← seqOperand a
              return (a, one, ← seqOperand l)
            | a :: s :: l :: _ => do
              let a ← seqOperand a
              let st ← seqOperand s
              if st.value == 0 && st.infinity.isNone then throw ("seq: invalid Zero increment value: " ++ quote s ++ "\n")
              return (a, st, ← seqOperand l)
            | [] => .error ""
          match read with
          | .error e => cx.badUsage "seq" e 1
          | .ok (first, step, last) =>
            let f := format.getD (defaultFormat first step last equalWidth)
            let negativeZero := operands.length ≥ 2 && first.value == 0 && writtenNegative (operands.headD "")
            let downward := step.rank < 0 || (step.rank == 0 && step.value < 0)
            let outOfRange := if downward then first.below last else last.below first
            if outOfRange then cx.done []
            else if first.rank != 0 || step.rank != 0 || last.rank != 0 then
              let term (i : Nat) : Operand :=
                if first.rank != 0 then first
                else if step.rank != 0 then (if i == 0 then first else ⟨0, 0, none, step.infinity⟩)
                else ⟨first.value + (i : Rat) * step.value, 0, none, none⟩
              let beyond (t : Operand) : Bool := if downward then t.below last else last.below t
              match unboundedTerms term beyond endlessCount 0 with
              | [] => cx.done []
              | t :: ts =>
                let shown := f.showOperand negativeZero t :: ts.map (f.showOperand false)
                cx.done (bytes (sep.intercalate shown ++ "\n"))
            else
              let span := (last.value - first.value) / step.value
              let count := if span < 0 then 0 else span.floor.toNat + 2
              match seqTerms f negativeZero first.value step.value last.value count 0 "" with
              | [] => cx.done []
              | terms => cx.done (bytes (sep.intercalate terms ++ "\n"))

example : (seq ⟨Workspace.prepare [] [] [], [], some [], none, [], false, "seq", false, 0o022⟩ ["-w", "8", "10"]).out = bytes "08\n09\n10\n" := by
  decide +kernel

/-! ## sleep -/

/-- Reads an operand of `sleep`: a number at or above zero and an optional unit. -/
def sleepSeconds (arg : String) : Option Rat :=
  match Binary64.readPrefix arg.toList with
  | none => none
  | some (x, _, rest) =>
    let unit : Option Nat := match rest with
      | [] | ['s'] => some 1
      | ['m'] => some 60
      | ['h'] => some 3600
      | ['d'] => some 86400
      | _ => none
    match x.magnitude, unit with
    | .finite m e, some u =>
      if x.negative && m ≠ 0 then none
      else
        let (num, den) := Binary64.fraction m e
        some (mkRat (num * u : Nat) den)
    | .infinity, some _ => if x.negative then none else some 1
    | _, _ => none

/-- Runs `sleep`: the clock of the run goes on by the time it sleeps; it is stopped when
the run is interrupted once the file `started` exists. -/
def sleep (cx : Context) (args : List String) : Outcome :=
  match Options.read "sleep" ⟨"", []⟩ args with
  | .error e => cx.badUsage "sleep" e 1
  | .ok o =>
    if o.operands.isEmpty then cx.missingOperand "sleep" 1
    else
      let bad := o.operands.filter fun a => (sleepSeconds a).isNone
      if !bad.isEmpty then
        cx.badUsage "sleep" (String.join (bad.map fun a => "sleep: invalid time interval " ++ quote a ++ "\n")) 1
      else
        let total := o.operands.foldl (fun t a => t + (sleepSeconds a).getD 0) 0
        let started := cx.workspace.kindAt (Workspace.home ++ ["started"]) == some .file
        let waited := cx.workspace.wait (total.num * 1000000000 / total.den).toNat
        if cx.interrupt && started && total > 0 then { cx.done [] with stopped := true }
        else { cx.done [] with workspace := waited }

end HelpMan.Tools
