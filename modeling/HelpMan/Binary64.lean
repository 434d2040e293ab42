/-!
# Double-precision numbers: reading decimal text and writing digits

A `Binary64` is a double-precision floating-point number: a sign and a `Magnitude`, which
is `mantissa * 2 ^ exponent` (`mantissa < 2 ^ 53`, `exponent ≥ -1074`), infinity, or not a
number.

Reading (`readPrefix`) takes the longest prefix of a text that spells a number, after
blanks and a sign: decimal digits with an optional point and exponent, hexadecimal digits
after `0x` with an optional binary exponent after `p`, `inf`, `infinity` or `nan` in any
case. Its exact value is rounded to the nearest binary64 (`nearest`), a tie going to the
even mantissa. A value beyond the largest finite number reads as infinity, and that, like
an inexact result below the smallest normal number, is a range error.

Writing works on the exact value as well. `fixedDigits` rounds it to a number of places
and `scientificDigits` to a number of significant digits, with the power of ten of the
first; a tie goes to the even last digit. `format` lays the digits out the way the `f`,
`e` and `g` conversions of C's `printf` do (`Layout`): sign, `#`, zero padding and width,
`inf` and `nan` for the other magnitudes, and capitals for `F`, `E` and `G`; the `a`
conversion writes a number in hexadecimal (`hexBody`).

The same reading serves other binary formats (`Precision`): extended precision is what
the programs of the system read numbers into when they print them.
-/

namespace HelpMan

/-- What a binary64 number is, apart from its sign. -/
inductive Magnitude where
  /-- The value `mantissa * 2 ^ exponent`. -/
  | finite (mantissa : Nat) (exponent : Int)
  | infinity
  | nan
  deriving DecidableEq, Repr

/-- A binary64 number: its sign and its magnitude. -/
structure Binary64 where
  negative : Bool
  magnitude : Magnitude
  deriving DecidableEq, Repr

namespace Binary64

/-! ## Exact arithmetic -/

/-- The nearest natural number to `n / d`, a tie going to the even one. -/
def roundDiv (n d : Nat) : Nat :=
  let q := n / d
  let r := n % d
  if 2 * r > d then q + 1
  else if 2 * r < d then q
  else if q % 2 = 1 then q + 1 else q

/-- The fraction `num / (den * 2 ^ e)` as a numerator and a denominator. -/
def scaleByTwo (num den : Nat) (e : Int) : Nat × Nat :=
  if e ≥ 0 then (num, den * Nat.pow 2 e.toNat) else (num * Nat.pow 2 (-e).toNat, den)

/-- The fraction `num / (den * 10 ^ e)` as a numerator and a denominator. -/
def scaleByTen (num den : Nat) (e : Int) : Nat × Nat :=
  if e ≥ 0 then (num, den * Nat.pow 10 e.toNat) else (num * Nat.pow 10 (-e).toNat, den)

/-- A binary floating-point format: the bits of its significand, the exponent of its least
step, the greatest exponent of a number with a full significand, and how far from zero a
power of ten may go before reading it needs no arithmetic. -/
structure Precision where
  bits : Nat
  least : Int
  most : Int
  reach : Int
  /-- How many bits of the mantissa the `a` conversion writes after the point: those
  after the first hexadecimal digit. -/
  hexFraction : Nat

/-- Double precision: 53 bits, down to `2 ^ -1074`, up to `(2 ^ 53 - 1) * 2 ^ 971`; its
hexadecimal form has the leading bit before the point. -/
def Precision.double : Precision := ⟨53, -1074, 971, 400, 52⟩

/-- Extended precision: 64 bits with the leading one written, down to `2 ^ -16445`, up to
`(2 ^ 64 - 1) * 2 ^ 16320`; its hexadecimal form has the four leading bits before the
point. -/
def Precision.extended : Precision := ⟨64, -16445, 16320, 5000, 60⟩

/-- The magnitude of a format nearest to the value `num / den`, and whether reading it is
a range error: the value is beyond the largest finite number, or below the smallest
normal one and not exact. -/
def nearestIn (p : Precision) (num den : Nat) : Magnitude × Bool :=
  if num = 0 then (.finite 0 0, false) else
  -- `num / den` lies in `[2 ^ (a - b - 1), 2 ^ (a - b + 1))`, so the guess scales it into
  -- `[2 ^ (bits - 2), 2 ^ bits)`, and one step down brings it to `[2 ^ (bits - 1), 2 ^ bits)`
  let guess : Int := (num.log2 : Int) - (den.log2 : Int) - (p.bits - 1 : Nat)
  let e := match scaleByTwo num den guess with
    | (n, d) => if n < Nat.pow 2 (p.bits - 1) * d then guess - 1 else guess
  let e := max e p.least
  let (n, d) := scaleByTwo num den e
  let m := roundDiv n d
  let (m, e) := if m = Nat.pow 2 p.bits then (Nat.pow 2 (p.bits - 1), e + 1) else (m, e)
  if e > p.most then (.infinity, true)
  else (.finite m e, m < Nat.pow 2 (p.bits - 1) && n % d ≠ 0)

/-- The double-precision magnitude nearest to the value `num / den`, and whether reading
it is a range error. -/
def nearest (num den : Nat) : Magnitude × Bool := nearestIn .double num den

/-- The exact value of a finite magnitude as a numerator and a denominator. -/
def fraction (m : Nat) (e : Int) : Nat × Nat := scaleByTwo m 1 (-e)

/-- The magnitude of a format nearest to `d * 10 ^ e`; far beyond the range it is
infinity or zero without computing the power. -/
def ofDecimalIn (p : Precision) (d : Nat) (e : Int) : Magnitude × Bool :=
  let k : Int := (toString d).length
  if d = 0 then (.finite 0 0, false)
  else if e + k > p.reach then (.infinity, true)
  else if e + k < -p.reach then (.finite 0 0, true)
  else match scaleByTen d 1 (-e) with
    | (n, den) => nearestIn p n den

/-- The magnitude of a format nearest to `h * 2 ^ e`; far beyond the range it is infinity
or zero without computing the power. -/
def ofBinaryIn (p : Precision) (h : Nat) (e : Int) : Magnitude × Bool :=
  let k : Int := h.log2
  if h = 0 then (.finite 0 0, false)
  else if e + k > p.most + p.bits + 2 then (.infinity, true)
  else if e + k < p.least - 2 then (.finite 0 0, true)
  else match scaleByTwo h 1 (-e) with
    | (n, den) => nearestIn p n den

/-! ## Reading -/

/-- Whether a character is a blank that number readers skip before a number. -/
def isSpace (c : Char) : Bool :=
  c = ' ' || c = '\t' || c = '\n' || c = '\x0b' || c = '\x0c' || c = '\r'

/-- The value of a hexadecimal digit. -/
def digitValue? (c : Char) : Option Nat :=
  if c.isDigit then some (c.toNat - 48)
  else if 'a' ≤ c && c ≤ 'f' then some (c.toNat - 87)
  else if 'A' ≤ c && c ≤ 'F' then some (c.toNat - 55)
  else none

/-- The digits of a base at the start of a text, and the text after them. -/
def digitRun (base : Nat) : List Char → List Nat × List Char
  | [] => ([], [])
  | c :: cs =>
    match digitValue? c with
    | some d =>
      if d < base then
        let (ds, rest) := digitRun base cs
        (d :: ds, rest)
      else ([], c :: cs)
    | none => ([], c :: cs)

/-- The number that digits of a base spell. -/
def digitsValue (base : Nat) (ds : List Nat) : Nat := ds.foldl (fun v d => v * base + d) 0

/-- An exponent after its letter: an optional sign and decimal digits, and the text after
it; `none` when no digit follows. -/
def exponentPart (cs : List Char) : Option (Int × List Char) :=
  let (negative, cs) := match cs with
    | '-' :: r => (true, r)
    | '+' :: r => (false, r)
    | r => (false, r)
  match digitRun 10 cs with
  | ([], _) => none
  | (ds, rest) =>
    let v : Int := digitsValue 10 ds
    some (if negative then -v else v, rest)

/-- An optional exponent after one of two letters, zero when there is none. -/
def optionalExponent (letters : List Char) (cs : List Char) : Int × List Char :=
  match cs with
  | c :: rest =>
    if letters.contains c then
      match exponentPart rest with
      | some r => r
      | none => (0, cs)
    else (0, cs)
  | [] => (0, [])

/-- Whether a text starts with a word, in any case of its letters. -/
def startsWithWord (cs : List Char) (word : String) : Bool :=
  (cs.take word.length).map Char.toLower == word.toList

/-- The part of `nan(...)` after `nan`: the parenthesised letters, digits and
underscores, if they are closed. -/
def nanTail (cs : List Char) : List Char :=
  match cs with
  | '(' :: rest =>
    let inner := rest.takeWhile fun c => c.isAlphanum || c = '_'
    match rest.drop inner.length with
    | ')' :: after => after
    | _ => cs
  | _ => cs

/-- Digits with an optional point in a base: the value of all the digits, how many come
after the point, and the text after them; `none` without any digit. -/
def mantissaPart (base : Nat) (cs : List Char) : Option (Nat × Nat × List Char) :=
  let (whole, rest) := digitRun base cs
  let (frac, rest) := match rest with
    | '.' :: more => digitRun base more
    | _ => ([], rest)
  if whole.isEmpty && frac.isEmpty then none
  else some (digitsValue base (whole ++ frac), frac.length, rest)

/-- An unsigned number of a format at the start of a text: its magnitude, whether it is a
range error, and the text after it. -/
def unsignedPrefixIn (p : Precision) (cs : List Char) : Option (Magnitude × Bool × List Char) :=
  if startsWithWord cs "infinity" then some (.infinity, false, cs.drop 8)
  else if startsWithWord cs "inf" then some (.infinity, false, cs.drop 3)
  else if startsWithWord cs "nan" then some (.nan, false, nanTail (cs.drop 3))
  else
    let hex := match cs with
      | '0' :: x :: rest =>
        if x = 'x' || x = 'X' then
          (mantissaPart 16 rest).map fun (h, places, rest) =>
            let (x, rest) := optionalExponent ['p', 'P'] rest
            let (v, range) := ofBinaryIn p h (x - 4 * Int.ofNat places)
            (v, range, rest)
        else none
      | _ => none
    match hex with
    | some r => some r
    | none =>
      (mantissaPart 10 cs).map fun (d, places, rest) =>
        let (x, rest) := optionalExponent ['e', 'E'] rest
        let (v, range) := ofDecimalIn p d (x - Int.ofNat places)
        (v, range, rest)

/-- Reads the longest prefix of a text that spells a number of a format, as C's `strtod`
and `strtold` do: the number, whether it is a range error, and the text after it; `none`
if no prefix spells one. -/
def readPrefixIn (p : Precision) (text : List Char) : Option (Binary64 × Bool × List Char) :=
  let cs := text.dropWhile isSpace
  let (negative, cs) := match cs with
    | '-' :: r => (true, r)
    | '+' :: r => (false, r)
    | r => (false, r)
  (unsignedPrefixIn p cs).map fun (m, range, rest) => (⟨negative, m⟩, range, rest)

/-- Reads the longest prefix of a text that spells a double-precision number. -/
def readPrefix (text : List Char) : Option (Binary64 × Bool × List Char) := readPrefixIn .double text

/-! ## Writing -/

/-- The decimal digits of a natural number. -/
def decimalDigits (n : Nat) : List Char := (toString n).toList

/-- `num / den` rounded to `places` decimal places: the digits before the point and the
`places` digits after it. -/
def fixedDigits (num den places : Nat) : List Char × List Char :=
  let scale := Nat.pow 10 places
  let n := roundDiv (num * scale) den
  let frac := if places = 0 then [] else
    let ds := decimalDigits (n % scale)
    List.replicate (places - ds.length) '0' ++ ds
  (decimalDigits (n / scale), frac)

/-- The power of ten of the leading digit of a positive `num / den`. -/
def decimalExponent (num den : Nat) : Int :=
  -- with `a` and `b` digits, `num / den` lies strictly between `10 ^ (a - b - 1)` and
  -- `10 ^ (a - b + 1)`
  let k : Int := ((decimalDigits num).length : Int) - (decimalDigits den).length
  match scaleByTen num den k with
  | (n, d) => if n ≥ d then k else k - 1

/-- `num / den` rounded to `places + 1` significant digits: the digits, and the power of
ten of the first. Zero has zeros for digits and the power zero. -/
def scientificDigits (num den places : Nat) : List Char × Int :=
  if num = 0 then (List.replicate (places + 1) '0', 0) else
  let x := decimalExponent num den
  let n := match scaleByTen num den (x - places) with
    | (n, d) => roundDiv n d
  if n = Nat.pow 10 (places + 1) then (decimalDigits (n / 10), x + 1) else (decimalDigits n, x)

/-- How `printf` lays out a number: the conversion letter (`f`, `e` or `g`, or a capital
for capital letters), the flags, the width and the precision. -/
structure Layout where
  conversion : Char
  leftAlign : Bool
  plusSign : Bool
  spaceSign : Bool
  alternate : Bool
  zeroPad : Bool
  width : Nat
  precision : Option Nat

/-- Digits before and after a point; without digits after it, the point is written only
in the alternate form. -/
def pointed (whole frac : List Char) (alternate : Bool) : List Char :=
  if frac.isEmpty && !alternate then whole else whole ++ '.' :: frac

/-- Digits without the zeros at their end. -/
def dropTrailingZeros (ds : List Char) : List Char := (ds.reverse.dropWhile (· = '0')).reverse

/-- An exponent as `e+05`: its letter, its sign and at least two digits. -/
def exponentText (upper : Bool) (x : Int) : List Char :=
  let ds := decimalDigits x.natAbs
  (if upper then 'E' else 'e') :: (if x < 0 then '-' else '+') :: (if ds.length < 2 then '0' :: ds else ds)

/-- The digits of a finite `num / den` without its sign, for the conversion of a layout.
`f` writes `precision` places; `e` writes one digit, `precision` places and the
exponent; `g` writes `precision` significant digits (at least one) the way of `f` when
the exponent is at least -4 and below the precision, and the way of `e` otherwise,
dropping zeros at the end of the places unless the form is alternate. -/
def finiteBody (l : Layout) (num den : Nat) : List Char :=
  let upper := l.conversion.isUpper
  let precision := l.precision.getD 6
  match l.conversion.toLower with
  | 'f' =>
    let (whole, frac) := fixedDigits num den precision
    pointed whole frac l.alternate
  | 'e' =>
    let (ds, x) := scientificDigits num den precision
    pointed (ds.take 1) (ds.drop 1) l.alternate ++ exponentText upper x
  | _ =>
    let p := if precision = 0 then 1 else precision
    let (ds, x) := scientificDigits num den (p - 1)
    let trim (frac : List Char) := if l.alternate then frac else dropTrailingZeros frac
    if -4 ≤ x && x < p then
      let (whole, frac) := fixedDigits num den (p - 1 - x).toNat
      pointed whole (trim frac) l.alternate
    else pointed (ds.take 1) (trim (ds.drop 1)) l.alternate ++ exponentText upper x

/-- The hexadecimal digits of `v`, in capitals when asked, at least `n` of them. -/
def hexDigits (upper : Bool) (v n : Nat) : List Char :=
  let ds := (Nat.toDigits 16 v).map fun c => if upper then c.toUpper else c
  List.replicate (n - ds.length) '0' ++ ds

/-- The digits of a finite `m * 2 ^ e` in the `a` conversion, whose last `fracBits` bits
(a multiple of four) are written after the point: the bits before them as the digit
before the point, those after it as hexadecimal digits without the zeros at their end, or
rounded to `precision` digits with a tie going to the even digit; then `p` and the power
of two that the first digit is scaled by. A carry out of the digits after the point adds
one to the first digit; a carry out of a first digit `f` makes it `1` and the power four
greater. -/
def hexBody (fracBits : Nat) (l : Layout) (m : Nat) (e : Int) : List Char :=
  let upper := l.conversion.isUpper
  let count := fracBits / 4
  let lead := m / Nat.pow 2 fracBits
  let frac := m % Nat.pow 2 fracBits
  let power : Int := if m = 0 then 0 else e + fracBits
  let trimmed := if frac = 0 then [] else dropTrailingZeros (hexDigits upper frac count)
  let (lead, digits, power) : Nat × List Char × Int := match l.precision with
    | none => (lead, trimmed, power)
    | some p =>
      if p ≥ trimmed.length then (lead, trimmed ++ List.replicate (p - trimmed.length) '0', power)
      else
        let unit := Nat.pow 16 (count - p)
        let q := frac / unit
        let r := frac % unit
        let up := 2 * r > unit || (2 * r = unit && (if p = 0 then lead else q) % 2 = 1)
        if !up then (lead, hexDigits upper q p, power)
        else if q + 1 < Nat.pow 16 p then (lead, hexDigits upper (q + 1) p, power)
        else if lead < 15 then (lead + 1, hexDigits upper 0 p, power)
        else (1, hexDigits upper 0 p, power + 4)
  let leadDigit := hexDigits upper lead 1
  let x := decimalDigits power.natAbs
  leadDigit ++ (if digits.isEmpty && !l.alternate then [] else '.' :: digits) ++
    (if upper then 'P' else 'p') :: (if power < 0 then '-' else '+') :: x

example : hexBody 60 ⟨'a', false, false, false, false, false, 0, none⟩ (Nat.pow 2 63) (-63) = "8p-3".toList := by
  decide +kernel

example : hexBody 52 ⟨'a', false, false, false, false, false, 0, none⟩ (Nat.pow 2 52) (-52) = "1p+0".toList := by
  decide +kernel

/-- A number laid out: the sign (`-`, or `+` or a space when asked), the body, and
padding to the width, with spaces on the right for `-`, with zeros after the sign for
`0` when the number is finite, and with spaces on the left otherwise. Infinity and not a
number are `inf` and `nan`, in capitals for a capital conversion. The `a` conversion
writes the number in the hexadecimal form of the precision `p`. -/
def formatIn (p : Precision) (x : Binary64) (l : Layout) : List Char :=
  let upper := l.conversion.isUpper
  let sign := if x.negative then ['-'] else if l.plusSign then ['+'] else if l.spaceSign then [' '] else []
  let (body, finite) : List Char × Bool := match x.magnitude with
    | .infinity => ((if upper then "INF" else "inf").toList, false)
    | .nan => ((if upper then "NAN" else "nan").toList, false)
    | .finite m e =>
      if l.conversion.toLower = 'a' then (hexBody p.hexFraction l m e, true)
      else
        let (num, den) := fraction m e
        (finiteBody l num den, true)
  let lead := if finite && l.conversion.toLower = 'a' then ['0', if l.conversion.isUpper then 'X' else 'x'] else []
  let fill := l.width - (sign.length + lead.length + body.length)
  if l.leftAlign then sign ++ lead ++ body ++ List.replicate fill ' '
  else if l.zeroPad && finite then sign ++ lead ++ List.replicate fill '0' ++ body
  else List.replicate fill ' ' ++ sign ++ lead ++ body

/-- A number laid out (see `formatIn`), in double precision. -/
def format (x : Binary64) (l : Layout) : List Char := formatIn .double x l

end Binary64

end HelpMan
