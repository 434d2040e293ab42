/-!
# What a plain scalar reads as

A plain scalar without a tag reads as null, a boolean, an integer, a float, a timestamp
or a string, and its tag says which (`implicitTag`). A scalar with an explicit tag of one
of these kinds must read as that kind, except that an integer may stand for a float
(`readAs`); a tag of any other kind is taken as it is.

The rules, for a text `s`:

* null: the empty text, `~`, `null`, `Null`, `NULL`;
* boolean: `true`, `True`, `TRUE`, `false`, `False`, `FALSE`;
* float: `.inf`, `.nan` and their spellings with a sign or in capitals;
* for a text that starts with a digit or a sign: a timestamp when it is a valid date,
  optionally followed by a time (only when no other kind is asked for); then, with the
  underscores removed, an integer that fits in 64 bits, in decimal or with a base prefix
  (`0x`, `0o`, `0b`, or a leading `0` for octal); then a decimal float that does not
  overflow;
* for a text that starts with `.`: a decimal float such as `.5`, whose digits may be
  grouped by underscores that stand between two digits (`.5_0`);
* a string otherwise.
-/

namespace HelpMan.Yaml

/-! ## Numbers -/

/-- The value of a digit in bases up to 36, or 99 for a character that is none. -/
def digitValue (c : Char) : Nat :=
  if c.isDigit then c.toNat - 48
  else if 'a' ≤ c && c ≤ 'z' then c.toNat - 87
  else if 'A' ≤ c && c ≤ 'Z' then c.toNat - 55
  else 99

/-- The value of digits in a base, if every character is a digit of it. -/
def digitsValue (base : Nat) : List Char → Nat → Option Nat
  | [], v => some v
  | c :: r, v => if digitValue c < base then digitsValue base r (v * base + digitValue c) else none

/-- The magnitude of an unsigned integer text with an optional base prefix: `0b`, `0o`,
`0x` (with at least one more character), or a leading `0` for octal. -/
def unsignedValue (cs : List Char) : Option Nat :=
  match cs with
  | [] => none
  | '0' :: p :: d :: r =>
    if p = 'b' || p = 'B' then digitsValue 2 (d :: r) 0
    else if p = 'o' || p = 'O' then digitsValue 8 (d :: r) 0
    else if p = 'x' || p = 'X' then digitsValue 16 (d :: r) 0
    else digitsValue 8 (p :: d :: r) 0
  | '0' :: r => digitsValue 8 r 0
  | r => digitsValue 10 r 0

/-- Whether a text is an integer of 64 bits: signed, or unsigned below `2^64` when it
has no sign. -/
def isIntegerText (cs : List Char) : Bool :=
  match cs with
  | '+' :: r => (unsignedValue r).any (· < Nat.pow 2 63)
  | '-' :: r => (unsignedValue r).any (· ≤ Nat.pow 2 63)
  | r => (unsignedValue r).any (· < Nat.pow 2 64)

/-- The parts of a decimal float: digits before and after the point, and the exponent;
`none` if the text is not one. At least one digit stands before or after the point. -/
def decimalParts (cs : List Char) : Option (List Char × List Char × Int) :=
  let body := match cs with
    | '+' :: r => r
    | '-' :: r => r
    | r => r
  let whole := body.takeWhile Char.isDigit
  let rest := body.dropWhile Char.isDigit
  let (frac, rest) := match rest with
    | '.' :: r => (r.takeWhile Char.isDigit, r.dropWhile Char.isDigit)
    | r => ([], r)
  if whole.isEmpty && frac.isEmpty then none
  else
    match rest with
    | [] => some (whole, frac, 0)
    | e :: r =>
      if e = 'e' || e = 'E' then
        let (neg, ds) := match r with
          | '+' :: d => (false, d)
          | '-' :: d => (true, d)
          | d => (false, d)
        match digitsValue 10 ds 0 with
        | some v => if ds.isEmpty then none else some (whole, frac, if neg then -(v : Int) else v)
        | none => none
      else none

/-- Whether a decimal with digits `m` and exponent `e` (its value is `m · 10^e`) rounds
above the largest finite double, that is, reaches `2^1024 - 2^970`. -/
def decimalOverflows (m : Nat) (e : Int) : Bool :=
  let limit := Nat.pow 2 970 * (Nat.pow 2 54 - 1)
  if m = 0 then false
  else
    let d := (Nat.toDigits 10 m).length
    if (d : Int) + e ≥ 310 then true
    else if (d : Int) + e ≤ 308 then false
    else if e ≥ 0 then m * Nat.pow 10 e.toNat ≥ limit
    else m ≥ limit * Nat.pow 10 (-e).toNat

/-- Whether a decimal float text reads as a finite double. -/
def isFiniteDecimal (cs : List Char) : Bool :=
  match decimalParts cs with
  | none => false
  | some (whole, frac, e) =>
    let m := (digitsValue 10 (whole ++ frac) 0).getD 0
    !decimalOverflows m (e - frac.length)

/-- Whether every underscore of a number text stands between two digits, after an
optional sign. -/
def underscoresBetweenDigits (cs : List Char) : Bool :=
  let body := match cs with
    | '+' :: r => r
    | '-' :: r => r
    | r => r
  let (last, ok) := body.foldl (fun (prev, ok) c =>
    if c.isDigit then ('0', ok)
    else if c = '_' then ('_', ok && prev == '0')
    else ('!', ok && prev != '_')) ('^', true)
  ok && last != '_'

/-- Whether a text that starts with `.` reads as a finite double: a decimal float whose
digits may be grouped by underscores between them. -/
def isFiniteDecimalGrouped (cs : List Char) : Bool :=
  underscoresBetweenDigits cs && isFiniteDecimal (cs.filter (· ≠ '_'))

/-! ## Timestamps -/

/-- Whether a year is a leap year. -/
def isLeap (y : Nat) : Bool := y % 4 = 0 && (y % 100 ≠ 0 || y % 400 = 0)

/-- The number of days of a month. -/
def daysInMonth (m y : Nat) : Nat :=
  if m = 2 then (if isLeap y then 29 else 28)
  else if m = 4 || m = 6 || m = 9 || m = 11 then 30
  else 31

/-- A number of one or two digits at the start of a text, and the rest. -/
def shortNumber : List Char → Option (Nat × List Char)
  | a :: b :: r =>
    if a.isDigit then
      if b.isDigit then some ((a.toNat - 48) * 10 + (b.toNat - 48), r) else some (a.toNat - 48, b :: r)
    else none
  | [a] => if a.isDigit then some (a.toNat - 48, []) else none
  | [] => none

/-- A number of exactly two digits at the start of a text, and the rest. -/
def twoDigits : List Char → Option (Nat × List Char)
  | a :: b :: r => if a.isDigit && b.isDigit then some ((a.toNat - 48) * 10 + (b.toNat - 48), r) else none
  | _ => none

/-- What follows the seconds of a time: an optional fraction (a point or comma and
digits), and the rest. -/
def dropFraction : List Char → List Char
  | s :: d :: r => if (s = '.' || s = ',') && d.isDigit then r.dropWhile Char.isDigit else s :: d :: r
  | r => r

/-- The rest of a text after a time `h:m:s` with an optional fraction; hours below 24,
minutes and seconds below 60. -/
def afterTime (cs : List Char) : Option (List Char) := do
  let (h, r) ← shortNumber cs
  let r ← match r with | ':' :: r => some r | _ => none
  let (m, r) ← shortNumber r
  let r ← match r with | ':' :: r => some r | _ => none
  let (s, r) ← shortNumber r
  if h < 24 && m < 60 && s < 60 then some (dropFraction r) else none

/-- Whether a text is a time zone: `Z`, or a sign, two-digit hours, a colon and two-digit
minutes. -/
def isZone : List Char → Bool
  | ['Z'] => true
  | sign :: r =>
    (sign = '+' || sign = '-') &&
      match twoDigits r with
      | some (h, ':' :: r) =>
        match twoDigits r with
        | some (m, []) => h ≤ 24 && m ≤ 60
        | _ => false
      | _ => false
  | [] => false

/-- Whether a text is a timestamp: a date `YYYY-M-D` with a valid month and day, alone,
followed by `T` or `t`, a time and a zone, or followed by blanks and a time. -/
def isTimestamp (s : String) : Bool :=
  let cs := s.toList
  let year := cs.take 4
  match cs.drop 4 with
  | '-' :: r =>
    (year.length = 4 && year.all Char.isDigit) &&
      match shortNumber r with
      | some (month, '-' :: r) =>
        match shortNumber r with
        | some (day, tail) =>
          let y := (digitsValue 10 year 0).getD 0
          let dateOk := 1 ≤ month && month ≤ 12 && 1 ≤ day && day ≤ daysInMonth month y
          dateOk &&
            match tail with
            | [] => true
            | t :: r =>
              if t = 'T' || t = 't' then
                match afterTime r with
                | some z => isZone z
                | none => false
              else if t = ' ' then
                afterTime (r.dropWhile (· = ' ')) == some []
              else false
        | none => false
      | _ => false
  | _ => false

/-! ## Tags -/

/-- The texts that read as null. -/
def nullTexts : List String := ["", "~", "null", "Null", "NULL"]

/-- The texts that read as a boolean. -/
def boolTexts : List String := ["true", "True", "TRUE", "false", "False", "FALSE"]

/-- The texts that read as an infinite or undefined float. -/
def specialFloatTexts : List String :=
  [".nan", ".NaN", ".NAN", ".inf", ".Inf", ".INF", "+.inf", "+.Inf", "+.INF", "-.inf", "-.Inf", "-.INF"]

/-- Whether a character may start a text that reads as something other than a string. -/
def hintsValue (c : Char) : Bool :=
  c.isDigit || "+-.~yYnNtTfFoO".toList.contains c

/-- What a text reads as when the tag `asked` is asked for (`""` for none): the tag it
gets. -/
def readTag (asked s : String) : String :=
  let cs := s.toList
  match cs.head? with
  | none => "!!null"
  | some c =>
    if !hintsValue c || asked = "!!str" || asked = "!!binary" then "!!str"
    else if nullTexts.contains s then "!!null"
    else if boolTexts.contains s then "!!bool"
    else if specialFloatTexts.contains s then "!!float"
    else if c = '.' then (if isFiniteDecimalGrouped cs then "!!float" else "!!str")
    else if c.isDigit || c = '+' || c = '-' then
      if (asked = "" || asked = "!!timestamp") && isTimestamp s then "!!timestamp"
      else
        let plain := cs.filter (· ≠ '_')
        if isIntegerText plain then "!!int"
        else if isFiniteDecimal plain then "!!float"
        else "!!str"
    else "!!str"

/-- The tag of a plain scalar without an explicit tag. -/
def implicitTag (s : String) : String := if s = "<<" then "!!merge" else readTag "" s

/-- Tags whose kind a scalar must read as. -/
def isCheckedTag (t : String) : Bool :=
  ["", "!!str", "!!bool", "!!int", "!!float", "!!timestamp", "!!null"].contains t

/-- What a scalar with tag `t` reads as: the tag it gets, or the message that it cannot
read as that tag. -/
def readAs (t s : String) : Except String String :=
  if !isCheckedTag t then .ok t
  else
    let got := readTag t s
    if t = "" || t = got || t = "!!str" || (t = "!!float" && got = "!!int") then .ok got
    else .error ("cannot decode " ++ got ++ " `" ++ s ++ "` as a " ++ t)

example : implicitTag "1_000" = "!!int" ∧ implicitTag "0x10" = "!!int" ∧ implicitTag "1e3" = "!!float" ∧
    implicitTag "1.10" = "!!float" ∧ implicitTag "2024-01-01" = "!!timestamp" ∧
    implicitTag "08" = "!!float" ∧ implicitTag "1e999" = "!!str" ∧ implicitTag "yes" = "!!str" ∧
    implicitTag "~" = "!!null" ∧ implicitTag "-.inf" = "!!float" ∧ implicitTag ".1_2e1_0" = "!!float" ∧
    implicitTag "._5" = "!!str" ∧ implicitTag ".5_" = "!!str" := by
  decide +kernel

end HelpMan.Yaml
