import HelpMan.Text.Quoted

/-!
# Formatted messages

A message is written from a format and a list of arguments, each a text (of type
`string`) or an integer (of type `int64`). In the format, `%` starts a verb:

* flags `#`, `0`, `+`, `-` and space (`readFlags`), then optionally an argument index
  `[n]` (`readIndex`), a width (digits, or `*` to take it from an argument), a precision
  (`.` and digits or `*`), and the verb's letter;
* `%%` is a percent sign;
* a text is written by `s` and `v` as it is, by `q` quoted (`#q` between backquotes when it
  can be, `+q` with only ASCII), by `x` and `X` as the hex of its bytes, and by `#v`
  quoted; the precision cuts it to as many characters;
* an integer is written by `d` and `v` in decimal, `b` binary, `o` and `O` octal, `x` and
  `X` hex, `c` as the character it stands for, `q` as that character quoted, and `U` as
  `U+` and at least four hex digits; the precision asks for as many digits, and `0` pads
  with zeros after the sign;
* `T` writes the argument's type; the width pads what a verb writes, with spaces on the
  left, or on the right after `-`.

Whatever does not fit is written into the message so that nothing is lost: a verb that
does not suit its argument gives `%!d(string=x)`, a verb with no argument left gives
`%!d(MISSING)`, a bad index `%!d(BADINDEX)`, a bad `*` width or precision `%!(BADWIDTH)`
or `%!(BADPREC)`, a format that ends before its verb `%!(NOVERB)`, and arguments left over
are listed at the end as `%!(EXTRA string=x, int64=3)`, unless an index was used.
-/

namespace HelpMan.Text

/-- An argument of a formatted message. -/
inductive Arg where
  | text (s : String)
  | int (n : Int)
  deriving DecidableEq, Repr

/-- The type of an argument, as messages name it. -/
def Arg.typeName : Arg → String
  | .text _ => "string"
  | .int _ => "int64"

/-- How a verb writes its argument: its flags, width and precision. `sharpV` is the `#`
flag given to `v` (or `w`), which writes a text quoted. -/
structure Spec where
  sharp : Bool
  zero : Bool
  plus : Bool
  minus : Bool
  space : Bool
  sharpV : Bool
  width : Option Nat
  prec : Option Nat
  deriving DecidableEq, Repr

/-- A character repeated. -/
def fill (c : Char) (n : Nat) : String := String.ofList (List.replicate n c)

/-- The character an integer stands for; an integer that is no code point stands for the
replacement character. -/
def charOfInt (n : Int) : Char :=
  if 0 ≤ n ∧ n ≤ 0x10FFFF ∧ ¬ (0xD800 ≤ n ∧ n ≤ 0xDFFF) then Char.ofNat n.toNat
  else Char.ofNat 0xFFFD

/-- The digits of a number in a base, small or capital letters above nine. -/
def baseDigits (base : Nat) (upper : Bool) (u : Nat) : List Char :=
  (Nat.toDigits base u).map fun c => if upper then c.toUpper else c

/-- Whether a text can be written between backquotes: it has no backquote, no delete, no
control character but the tab, and no byte order mark. -/
def canBackquote (s : String) : Bool :=
  s.toList.all fun c =>
    if c.toNat ≥ 0x80 then c.toNat != 0xFEFF
    else (c.toNat ≥ 0x20 || c = '\t') && c != '`' && c.toNat != 0x7F

namespace Spec

/-- No flags, width or precision. -/
def plain : Spec := ⟨false, false, false, false, false, false, none, none⟩

/-- A text padded to the width, counted in characters: on the right under `-`, otherwise
on the left, with zeros when `zeros` allows it and the `0` flag is given. -/
def pad (f : Spec) (zeros : Bool) (s : String) : String :=
  match f.width with
  | none => s
  | some w =>
    let n := w - s.length
    if f.minus then s ++ fill ' ' n
    else fill (if zeros && f.zero then '0' else ' ') n ++ s

/-- A text cut to the precision, counted in characters. -/
def truncate (f : Spec) (s : String) : String :=
  match f.prec with
  | some p => String.ofList (s.toList.take p)
  | none => s

/-- A text written plainly. -/
def text (f : Spec) (s : String) : String := f.pad true (f.truncate s)

/-- A text written quoted: between backquotes under `#` when it can be, otherwise
escaped between double quotes, with only ASCII under `+`. -/
def quoted (f : Spec) (s : String) : String :=
  let s := f.truncate s
  if f.sharp && canBackquote s then f.pad true ("`" ++ s ++ "`")
  else f.pad true (if f.plus then quoteAscii s else quote s)

/-- A text written as the hex of its bytes, as many as the precision allows: under `#`
after `0x`, and under the space flag with the bytes apart (each after `0x` under `#`). -/
def textHex (f : Spec) (upper : Bool) (s : String) : String :=
  let bytes := s.toUTF8.toList
  let bytes := match f.prec with
    | some p => bytes.take p
    | none => bytes
  let x := if upper then "X" else "x"
  let hex (b : UInt8) : String := String.ofList (baseDigits 16 upper (b.toNat / 16) ++ baseDigits 16 upper (b.toNat % 16))
  match bytes with
  | [] => fill (if f.zero then '0' else ' ') (f.width.getD 0)
  | b :: bs =>
    let sep := if f.space then " " ++ (if f.sharp then "0" ++ x else "") else ""
    let body := (if f.sharp then "0" ++ x else "") ++ hex b ++ String.join (bs.map fun c => sep ++ hex c)
    let gap := f.width.getD 0 - body.length
    if f.minus then body ++ fill ' ' gap else fill (if f.zero then '0' else ' ') gap ++ body

/-- An integer in a base: at least as many digits as the precision (or, under `0` with a
width and no precision, as fill the width after the sign), with the prefix `#` asks for,
`0o` for `O`, and its sign (`+` or a space for positive numbers under those flags). A zero
precision writes nothing for zero. -/
def integer (f : Spec) (n : Int) (base : Nat) (upper : Bool) (verb : Char) : String :=
  let neg := decide (n < 0)
  let u := n.natAbs
  if f.prec == some 0 && u == 0 then fill ' ' (f.width.getD 0)
  else
    let least : Nat := match f.prec, f.width with
      | some p, _ => p
      | none, some w => if f.zero && !f.minus then (if neg || f.plus || f.space then w - 1 else w) else 0
      | none, none => 0
    let ds := baseDigits base upper u
    let ds := List.replicate (least - ds.length) '0' ++ ds
    let ds :=
      if !f.sharp then ds
      else if base == 2 then '0' :: 'b' :: ds
      else if base == 8 then (if ds.head? == some '0' then ds else '0' :: ds)
      else if base == 16 then '0' :: (if upper then 'X' else 'x') :: ds
      else ds
    let ds := if verb == 'O' then '0' :: 'o' :: ds else ds
    let sign := if neg then "-" else if f.plus then "+" else if f.space then " " else ""
    f.pad false (sign ++ String.ofList ds)

/-- An integer as a code point: `U+` and at least four capital hex digits (more if the
precision asks), and under `#` the character itself between apostrophes when it is
printable. A negative integer is taken modulo 2^64. -/
def unicode (f : Spec) (n : Int) : String :=
  let u : Nat := if n < 0 then Nat.pow 2 64 - n.natAbs else n.toNat
  let least := match f.prec with
    | some p => max p 4
    | none => 4
  let ds := baseDigits 16 true u
  let ds := List.replicate (least - ds.length) '0' ++ ds
  let c := Char.ofNat u
  let tail := if f.sharp && u ≤ 0x10FFFF && isPrintable c then " '" ++ c.toString ++ "'" else ""
  f.pad false ("U+" ++ String.ofList ds ++ tail)

/-- An argument written by `v`: an integer in decimal, a text plainly (quoted under `#v`). -/
def value (f : Spec) : Arg → String
  | .int n => f.integer n 10 false 'v'
  | .text s => if f.sharpV then f.quoted s else f.text s

/-- A verb that does not suit its argument, with the argument's type and value. -/
def bad (f : Spec) (verb : Char) (a : Arg) : String :=
  "%!" ++ verb.toString ++ "(" ++ a.typeName ++ "=" ++ f.value a ++ ")"

/-- An argument written by a verb. -/
def write (f : Spec) (verb : Char) (a : Arg) : String :=
  if verb = 'T' then f.text a.typeName
  else
    match a with
    | .int n =>
      if verb = 'v' || verb = 'd' then f.integer n 10 false verb
      else if verb = 'b' then f.integer n 2 false verb
      else if verb = 'o' || verb = 'O' then f.integer n 8 false verb
      else if verb = 'x' then f.integer n 16 false verb
      else if verb = 'X' then f.integer n 16 true verb
      else if verb = 'c' then f.pad true (charOfInt n).toString
      else if verb = 'q' then f.pad true (if f.plus then quoteCharAscii (charOfInt n) else quoteChar (charOfInt n))
      else if verb = 'U' then f.unicode n
      else f.bad verb a
    | .text s =>
      if verb = 'v' then f.value a
      else if verb = 's' then f.text s
      else if verb = 'x' then f.textHex false s
      else if verb = 'X' then f.textHex true s
      else if verb = 'q' then f.quoted s
      else f.bad verb a

/-- The spec of `v` (and `w`): `#` and `+` become the forms of `v` (quoting a text, and
nothing more for these arguments). -/
def forValue (f : Spec) (verb : Char) : Spec :=
  if verb = 'v' || verb = 'w' then { f with sharpV := f.sharp, sharp := false, plus := false } else f

end Spec

/-! ## Reading a verb -/

/-- Reads the flags at the start of a verb. -/
def readFlags : List Char → Spec → List Char × Spec
  | [], f => ([], f)
  | c :: rest, f =>
    if c = '#' then readFlags rest { f with sharp := true }
    else if c = '0' then readFlags rest { f with zero := !f.minus }
    else if c = '+' then readFlags rest { f with plus := true }
    else if c = '-' then readFlags rest { f with minus := true, zero := false }
    else if c = ' ' then readFlags rest { f with space := true }
    else (c :: rest, f)

/-- Reads decimal digits after the value `num` read so far: the number, if any digit was
read, and the rest; `none` when the number grows past a million before its last digit. -/
def readDigits : List Char → Nat → Bool → Option (Option Nat × List Char)
  | [], num, seen => some (if seen then some num else none, [])
  | c :: rest, num, seen =>
    if c.isDigit then
      if num > 1000000 then none else readDigits rest (num * 10 + (c.toNat - 48)) true
    else some (if seen then some num else none, c :: rest)

/-- Reads an argument index `[n]` at the start of the rest, if there is a `[`: the rest
after it, and the argument it names counting from zero when `n` is a number from one to
the number of arguments, or else whether it was at least well formed. An opening bracket
without a closing one is passed over alone. -/
def readIndex (count : Nat) : List Char → Option (List Char × Except Bool Nat)
  | '[' :: rest =>
    if rest.length < 2 then some (rest, .error false)
    else
      match rest.findIdx? (· = ']') with
      | none => some (rest, .error false)
      | some j =>
        let inside := rest.take j
        let after := rest.drop (j + 1)
        match readDigits inside 0 false with
        | some (some num, []) =>
          if 1 ≤ num && num - 1 < count then some (after, .ok (num - 1)) else some (after, .error true)
        | _ => some (after, .error false)
  | _ => none

/-- The state of reading one verb past its flags: the spec, the next argument, whether
every index was good, whether any index was given, whether the last part read was an
index, what was written so far, and the rest of the format. -/
structure VerbState where
  spec : Spec
  next : Nat
  good : Bool
  reordered : Bool
  afterIndex : Bool
  written : String
  rest : List Char

/-- Reads an argument index, if the rest starts with one. -/
def VerbState.index (count : Nat) (v : VerbState) : VerbState :=
  match readIndex count v.rest with
  | none => { v with afterIndex := false }
  | some (rest, .ok i) => { v with next := i, rest, afterIndex := true, reordered := true }
  | some (rest, .error ok) => { v with rest, afterIndex := ok, good := false, reordered := true }

/-- An integer taken from the next argument for a `*` width or precision, and the
argument after it; only an integer of at most a million either way counts. -/
def intArg (args : List Arg) (next : Nat) : Option Int × Nat :=
  match args[next]? with
  | some (.int n) => (if n.natAbs > 1000000 then none else some n, next + 1)
  | some _ => (none, next + 1)
  | none => (none, next)

/-- Reads the width: a `*`, or digits. -/
def VerbState.width (args : List Arg) (v : VerbState) : VerbState :=
  match v.rest with
  | '*' :: rest =>
    let (w, next) := intArg args v.next
    let v := { v with rest, next, afterIndex := false }
    match w with
    | none => { v with written := v.written ++ "%!(BADWIDTH)" }
    | some w =>
      if w < 0 then { v with spec := { v.spec with width := some w.natAbs, minus := true, zero := false } }
      else { v with spec := { v.spec with width := some w.toNat } }
  | cs =>
    match readDigits cs 0 false with
    | none => { v with rest := [] }
    | some (w, rest) =>
      { v with rest, spec := { v.spec with width := w }, good := v.good && !(v.afterIndex && w.isSome) }

/-- Reads the precision: a `.` followed by something, then an index, and a `*` or
digits (none meaning zero). -/
def VerbState.precision (args : List Arg) (v : VerbState) : VerbState :=
  match v.rest with
  | '.' :: c :: more =>
    let v := { v with rest := c :: more, good := v.good && !v.afterIndex }
    let v := v.index args.length
    match v.rest with
    | '*' :: rest =>
      let (p, next) := intArg args v.next
      let v := { v with rest, next, afterIndex := false }
      match p with
      | some p =>
        if p < 0 then { v with written := v.written ++ "%!(BADPREC)", spec := { v.spec with prec := none } }
        else { v with spec := { v.spec with prec := some p.toNat } }
      | none => { v with written := v.written ++ "%!(BADPREC)", spec := { v.spec with prec := none } }
    | cs =>
      match readDigits cs 0 false with
      | none => { v with rest := [], spec := { v.spec with prec := some 0 } }
      | some (p, rest) => { v with rest, spec := { v.spec with prec := some (p.getD 0) } }
  | _ => v

/-- What one verb gives: what it writes, the next argument, whether an index was given,
and the rest of the format, or `none` when the format ended before the verb. -/
structure Written where
  text : String
  next : Nat
  reordered : Bool
  rest : Option (List Char)

/-- Writes a verb that has more than flags before its letter, or whose argument is
missing. -/
def slowVerb (args : List Arg) (f : Spec) (next : Nat) (reordered : Bool) (cs : List Char) : Written :=
  let count := args.length
  let v : VerbState := ⟨f, next, true, reordered, false, "", cs⟩
  let v := v.index count
  let v := v.width args
  let v := v.precision args
  let v := if v.afterIndex then v else v.index count
  match v.rest with
  | [] => ⟨v.written ++ "%!(NOVERB)", v.next, v.reordered, none⟩
  | c :: rest =>
    let here :=
      if c = '%' then some "%"
      else if !v.good then some ("%!" ++ c.toString ++ "(BADINDEX)")
      else none
    match here with
    | some t => ⟨v.written ++ t, v.next, v.reordered, some rest⟩
    | none =>
      match args[v.next]? with
      | none => ⟨v.written ++ "%!" ++ c.toString ++ "(MISSING)", v.next, v.reordered, some rest⟩
      | some a => ⟨v.written ++ (v.spec.forValue c).write c a, v.next + 1, v.reordered, some rest⟩

/-- The arguments left over, unless an index was used, or nothing. -/
def extraArgs (args : List Arg) (next : Nat) (reordered : Bool) : String :=
  match args.drop next with
  | [] => ""
  | left =>
    if reordered then ""
    else "%!(EXTRA " ++ ", ".intercalate (left.map fun a => a.typeName ++ "=" ++ Spec.plain.value a) ++ ")"

/-- Writes the rest of a format with the arguments from `next` on. -/
def formatFrom (args : List Arg) : Nat → List Char → Nat → Bool → String
  | 0, _, next, reordered => extraArgs args next reordered
  | fuel + 1, cs, next, reordered =>
    let (lit, rest) := cs.span (· ≠ '%')
    String.ofList lit ++
      match rest with
      | [] => extraArgs args next reordered
      | _ :: afterPercent =>
        let (cs, f) := readFlags afterPercent Spec.plain
        let fast : Option (Char × List Char × Arg) := match cs, args[next]? with
          | c :: more, some a => if 'a' ≤ c && c ≤ 'z' then some (c, more, a) else none
          | _, _ => none
        match fast with
        | some (c, more, a) => (f.forValue c).write c a ++ formatFrom args fuel more (next + 1) reordered
        | none =>
          let w := slowVerb args f next reordered cs
          w.text ++
            match w.rest with
            | some more => formatFrom args fuel more w.next w.reordered
            | none => extraArgs args w.next w.reordered

/-- A formatted message. -/
def format (fmt : String) (args : List Arg) : String := formatFrom args (fmt.length + 1) fmt.toList 0 false

example : format "%s-%d %q 100%%" [.text "a", .int (-4), .text "x\"y"] = "a--4 \"x\\\"y\" 100%" := by
  decide +kernel

end HelpMan.Text
