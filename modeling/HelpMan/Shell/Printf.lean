import HelpMan.Tools.Basic
import HelpMan.Binary64
import HelpMan.Text.Utf8
import HelpMan.Clock.Format

/-!
# The shell's `printf` and `echo`

Both read byte strings and write bytes. `printf` walks its format byte by byte:

* a backslash escape writes one byte: `\\`, `\a`, `\b`, `\e`, `\f`, `\n`, `\r`, `\t`, `\v`, or
  one to three octal digits (the value modulo 256); before any other byte the backslash
  is written as it is;
* `%%` writes `%`, and any other `%` starts a conversion: flags from `#-+ 0`, a width
  (or `*`, taken from the arguments, where a negative width aligns left), a precision
  after `.` (a negative one counts as none), and one of `s b c d i o u x X e E f F g G a A`;
* `%b` writes its argument with the escapes of `echo`, where `\c` ends all output and an
  octal escape may start with an extra `0`.

Conversions take the arguments in order; a missing argument reads as empty or zero. The
format is used again while arguments are left and the last pass took one.

Integers are read as C's `strtoimax` and `strtoumax` read them, in base 10, 16 after
`0x`, or 8 after `0`; a value outside the 64-bit range is cut to its nearest end and
reported, and an unsigned conversion takes a negative value modulo `2 ^ 64`. Other numbers
are read as binary64 numbers (`Binary64.readPrefix`) and written as C writes them
(`Binary64.formatIn`), in hexadecimal for `a` and `A`. An argument that starts with a quote stands for the code of the byte
after it. An argument that is not a number, or not wholly one, is reported and reads as
what it starts with.

`echo` writes its arguments with spaces between them and a line feed after them, with
escapes as in `%b`; a first argument `-n` drops the line feed.

The program `printf` of the system (`printfGnu`) differs in its escapes, its conversions
and its messages:

* the escapes add `\e`, `\"`, `\xHH` (one or two hexadecimal digits), `\uHHHH` and
  `\UHHHHHHHH` (a character written in UTF-8), and `\c`, which ends all output; in `%b`
  an octal escape may start with an extra `0`;
* the flag `'` and the length letters `h l L j t z` are read and have no effect,
  `%q` writes its argument quoted for the shell, and numbers are read and written in
  extended precision;
* numbers are read in extended precision (`Binary64.Precision.extended`), so that their
  digits past those of a double are the ones of the closer value;
* a problem names the argument in quotation marks, and a format used up without taking
  an argument while some are left is warned about.
-/

namespace HelpMan.Shell

/-- The bytes of a byte string. -/
def bytesOf (s : String) : List UInt8 := Text.rawBytes s

/-- Whether a byte is an octal digit. -/
def isOctal (b : UInt8) : Bool := 48 ≤ b && b ≤ 55

/-- Whether a byte is a decimal digit. -/
def isDecimal (b : UInt8) : Bool := 48 ≤ b && b ≤ 57

/-- The value of up to `n` octal digits at the start, and the bytes after them. -/
def octalRun : Nat → List UInt8 → Nat → Nat × List UInt8
  | 0, bs, v => (v, bs)
  | _ + 1, [], v => (v, [])
  | n + 1, b :: bs, v => if isOctal b then octalRun n bs (v * 8 + (b.toNat - 48)) else (v, b :: bs)

/-- The byte that the escape after a backslash stands for, and the bytes after it; a
backslash stands for itself before a byte that starts no escape. -/
def escapeAt (bs : List UInt8) : UInt8 × List UInt8 :=
  match bs with
  | b :: rest =>
    if isOctal b then
      let (v, after) := octalRun 3 bs 0
      (UInt8.ofNat v, after)
    else if b = 92 then (92, rest)
    else if b = 97 then (7, rest)
    else if b = 98 then (8, rest)
    else if b = 101 then (27, rest)
    else if b = 102 then (12, rest)
    else if b = 110 then (10, rest)
    else if b = 114 then (13, rest)
    else if b = 116 then (9, rest)
    else if b = 118 then (11, rest)
    else (92, bs)
  | [] => (92, [])

/-- Expands the escapes of `echo` and `%b`: the bytes, and whether `\c` ended the output. -/
def echoEscapes : Nat → List UInt8 → List UInt8 × Bool
  | 0, _ => ([], false)
  | _ + 1, [] => ([], false)
  | fuel + 1, b :: rest =>
    if b = 92 then
      match rest with
      | 99 :: _ => ([], true)
      | 48 :: d :: more =>
        let (v, after) := if isOctal d then escapeAt (d :: more) else escapeAt (48 :: d :: more)
        let (out, stop) := echoEscapes fuel after
        (v :: out, stop)
      | _ =>
        let (v, after) := escapeAt rest
        let (out, stop) := echoEscapes fuel after
        (v :: out, stop)
    else
      let (out, stop) := echoEscapes fuel rest
      (b :: out, stop)

/-- The value of up to `n` hexadecimal digits at the start, how many there are, and the
bytes after them. -/
def hexRun : Nat → List UInt8 → Nat → Nat × Nat × List UInt8
  | 0, bs, v => (v, 0, bs)
  | _ + 1, [], v => (v, 0, [])
  | n + 1, b :: bs, v =>
    match Binary64.digitValue? (Char.ofNat b.toNat) with
    | some d =>
      let (w, k, rest) := hexRun n bs (v * 16 + d)
      (w, k + 1, rest)
    | none => (v, 0, b :: bs)

/-- A number as `width` hexadecimal digits with leading zeros. -/
def hexPadded (width n : Nat) : String :=
  let ds := Nat.toDigits 16 n
  String.ofList (List.replicate (width - ds.length) '0' ++ ds)

/-- What the escape after a backslash writes in the program `printf` of the system, the
bytes after it, and whether it ends all output (`\c`); an escape that cannot be written
is a message. With `octalZero` (in `%b`) an octal escape may start with an extra `0`. -/
def gnuEscape (octalZero : Bool) (bs : List UInt8) : Except String (List UInt8 × List UInt8 × Bool) :=
  match bs with
  | [] => .ok ([92], [], false)
  | b :: rest =>
    if b = 120 then
      let (v, n, after) := hexRun 2 rest 0
      if n = 0 then .error "missing hexadecimal number in escape" else .ok ([UInt8.ofNat v], after, false)
    else if isOctal b then
      let start := if octalZero && b = 48 then rest else b :: rest
      let (v, after) := octalRun 3 start 0
      .ok ([UInt8.ofNat v], after, false)
    else if b = 99 then .ok ([], rest, true)
    else if b = 101 then .ok ([27], rest, false)
    else if b = 34 || b = 92 then .ok ([b], rest, false)
    else if b = 117 || b = 85 then
      let size := if b = 117 then 4 else 8
      let (v, n, after) := hexRun size rest 0
      if n < size then .error "missing hexadecimal number in escape"
      else if (v < 160 && v ≠ 36 && v ≠ 64 && v ≠ 96) || (55296 ≤ v && v ≤ 57343) then
        .error ("invalid universal character name \\" ++ (Char.ofNat b.toNat).toString ++ hexPadded size v)
      else .ok ((Char.ofNat v).toString.toUTF8.toList, after, false)
    else
      let (v, after) := escapeAt bs
      if v = 92 then .ok ([92, b], rest, false) else .ok ([v], after, false)

/-- Expands the escapes of `%b` in the program `printf` of the system: the bytes, and
whether `\c` ended the output; an escape that cannot be written is a message. -/
def gnuEscapes : Nat → List UInt8 → Except String (List UInt8 × Bool)
  | 0, _ => .ok ([], false)
  | _ + 1, [] => .ok ([], false)
  | fuel + 1, b :: rest =>
    if b = 92 then do
      let (out, after, stop) ← gnuEscape true rest
      if stop then return (out, true)
      let (more, stop) ← gnuEscapes fuel after
      return (out ++ more, stop)
    else do
      let (more, stop) ← gnuEscapes fuel rest
      return (b :: more, stop)

/-- What the escape after a backslash writes in the `bash` dialect, the bytes after it,
and whether it ends all output. In a format an octal escape has at most three digits and
`\c` is no escape; in an argument of `%b` or `echo -e` (`argument`) `\c` ends all output,
`\0` takes up to three more digits, and `\'`, `\"` and `\?` keep their backslash, which
`echo` (`echo`) also keeps before the digits `1` to `7`. -/
def bashEscape (argument echo : Bool) (bs : List UInt8) : List UInt8 × List UInt8 × Bool :=
  match bs with
  | [] => ([92], [], false)
  | b :: rest =>
    if b = 99 && argument then ([], rest, true)
    else if isOctal b then
      if echo && b ≠ 48 then ([92, b], rest, false)
      else
        let (v, after) := octalRun (if argument && b = 48 then 3 else 2) rest (b.toNat - 48)
        ([UInt8.ofNat (v % 256)], after, false)
    else if b = 120 then
      let (v, n, after) := hexRun 2 rest 0
      if n = 0 then ([92, 120], rest, false) else ([UInt8.ofNat v], after, false)
    else if b = 117 || b = 85 then
      let (v, n, after) := hexRun (if b = 117 then 4 else 8) rest 0
      if n = 0 then ([92, b], rest, false)
      else if v < 128 then ([UInt8.ofNat v], after, false)
      else ((Char.ofNat v).toString.toUTF8.toList, after, false)
    else if b = 101 || b = 69 then ([27], rest, false)
    else if b = 39 || b = 34 || b = 63 then (if argument then [92, b] else [b], rest, false)
    else
      let (v, after) := escapeAt bs
      ([v], after, false)

/-- Expands the escapes of `%b` and `echo -e` in the `bash` dialect: the bytes, and
whether `\c` ended the output. -/
def bashEscapes (echo : Bool) : Nat → List UInt8 → List UInt8 × Bool
  | 0, _ => ([], false)
  | _ + 1, [] => ([], false)
  | fuel + 1, b :: rest =>
    if b = 92 then
      let (out, after, stop) := bashEscape true echo rest
      if stop then (out, true)
      else
        let (more, stop) := bashEscapes echo fuel after
        (out ++ more, stop)
    else
      let (more, stop) := bashEscapes echo fuel rest
      (b :: more, stop)

example : (bashEscapes true 20 (bytesOf "a\\tb\\101\\0101\\x41\\c!")).1 = bytesOf "a\tb\\101AA" := by decide +kernel

/-- A conversion of a format. -/
structure Conversion where
  flags : List UInt8
  width : Option Nat
  precision : Option Nat
  kind : UInt8

/-- The digits of a number in a base, most significant first; a base below two gives
the number itself. -/
def digitsIn (base : Nat) (n : Nat) : List Nat :=
  if n < base ∨ base < 2 then [n] else digitsIn base (n / base) ++ [n % base]
termination_by n
decreasing_by exact Nat.div_lt_self (by omega) (by omega)

/-- The byte of a digit. -/
def digitByte (upper : Bool) (d : Nat) : UInt8 :=
  if d < 10 then UInt8.ofNat (48 + d) else UInt8.ofNat ((if upper then 55 else 87) + d)

/-- Bytes padded to a width: spaces on the left, or on the right for `-`. -/
def pad (c : Conversion) (body : List UInt8) : List UInt8 :=
  let fill := List.replicate ((c.width.getD 0) - body.length) (32 : UInt8)
  if c.flags.contains 45 then body ++ fill else fill ++ body

/-- Writes a number: its sign and prefix, its digits to the precision, and padding with
zeros after the sign when asked and no precision is given. -/
def formatNumber (c : Conversion) (negative : Bool) (magnitude : Nat) : List UInt8 :=
  let base := if c.kind = 111 then 8 else if c.kind = 120 || c.kind = 88 then 16 else 10
  let signed := c.kind = 100 || c.kind = 105
  let digits := (digitsIn base magnitude).map (digitByte (c.kind = 88))
  let digits := if c.precision == some 0 && magnitude = 0 then [] else digits
  let digits := List.replicate ((c.precision.getD 0) - digits.length) 48 ++ digits
  let digits := if c.kind = 111 && c.flags.contains 35 && digits.head? != some 48 then 48 :: digits else digits
  let sign : List UInt8 :=
    if negative then [45]
    else if signed && c.flags.contains 43 then [43]
    else if signed && c.flags.contains 32 then [32]
    else []
  let prefixBytes : List UInt8 :=
    if c.flags.contains 35 && magnitude ≠ 0 then
      (if c.kind = 120 then [48, 120] else if c.kind = 88 then [48, 88] else [])
    else []
  let head := sign ++ prefixBytes
  if c.flags.contains 48 && !c.flags.contains 45 && c.precision.isNone then
    head ++ List.replicate ((c.width.getD 0) - (head.length + digits.length)) 48 ++ digits
  else pad c (head ++ digits)

/-- Why a number argument does not read as a number. -/
inductive NumberProblem where
  /-- It does not start with a number. -/
  | notNumeric
  /-- Only a part of it is a number. -/
  | partly
  /-- It is beyond the range of its conversion. -/
  | range
  deriving DecidableEq, Repr

/-- How a number argument reads: its value and, if it is not wholly a number, why. -/
structure NumberRead where
  value : Int
  problem : Option NumberProblem

/-- The digits of a base at the start, with their value. -/
def digitsValue (base : Nat) : List Char → Nat → Nat × Nat
  | [], v => (v, 0)
  | c :: cs, v =>
    let d := if c.isDigit then c.toNat - 48
      else if 'a' ≤ c && c ≤ 'f' then c.toNat - 87
      else if 'A' ≤ c && c ≤ 'F' then c.toNat - 55
      else 99
    if d < base then
      let (w, n) := digitsValue base cs (v * base + d)
      (w, n + 1)
    else (v, 0)

/-- Reads a number argument as C's `strtol` does with base 0. -/
def readNumber (s : String) : NumberRead :=
  match s.toList with
  | q :: rest =>
    if q = '\'' || q = '"' then ⟨((rest.head?.map fun c => (bytesOf c.toString).headD 0).getD 0).toNat, none⟩
    else
      let cs := (q :: rest).dropWhile Binary64.isSpace
      let (negative, cs) := match cs with
        | '-' :: r => (true, r)
        | '+' :: r => (false, r)
        | r => (false, r)
      let (base, body, lead) : Nat × List Char × Nat := match cs with
        | '0' :: x :: r => if (x = 'x' || x = 'X') && (digitsValue 16 r 0).2 > 0 then (16, r, 0) else (8, x :: r, 1)
        | ['0'] => (8, [], 1)
        | r => (10, r, 0)
      let (v, used) := digitsValue base body 0
      let value : Int := if negative then -(v : Int) else v
      if used + lead = 0 then ⟨0, some .notNumeric⟩
      else if used < body.length then ⟨value, some .partly⟩
      else ⟨value, none⟩
  | [] => ⟨0, none⟩

/-- The state of a `printf` run: the arguments left, whether any was taken in this pass,
the problems to report, and whether the run is the program of the system rather than
the shell's own command. -/
structure PrintfState where
  args : List String
  took : Bool
  problems : List String
  gnu : Bool
  /-- Whether the run is the command of the `bash` dialect. -/
  bash : Bool
  /-- The bytes written so far. -/
  written : Nat := 0
  /-- For each problem, the bytes written before it was found. -/
  offsets : List Nat := []

/-- Takes the next argument, or the empty text. -/
def PrintfState.next (st : PrintfState) : String × PrintfState :=
  match st.args with
  | a :: rest => (a, { st with args := rest, took := true })
  | [] => ("", st)

/-- The message of a problem with a number argument. -/
def NumberProblem.message (gnu bash : Bool) (arg : String) : NumberProblem → String
  | .notNumeric =>
    if bash then arg ++ ": invalid number"
    else if gnu then Tools.quote arg ++ ": expected a numeric value" else arg ++ ": expected numeric value"
  | .partly =>
    if bash then arg ++ ": invalid number"
    else if gnu then Tools.quote arg ++ ": value not completely converted" else arg ++ ": not completely converted"
  | .range => (if gnu then Tools.quote arg else arg) ++ ": Numerical result out of range"

/-- The state with a problem of an argument noted. -/
def PrintfState.note (st : PrintfState) (arg : String) : Option NumberProblem → PrintfState
  | some p => { st with problems := st.problems ++ [p.message st.gnu st.bash arg], offsets := st.offsets ++ [st.written] }
  | none => st

/-- The number of signed 64-bit integers at or above zero, `2 ^ 63`. -/
def signedLimit : Nat := 9223372036854775808

/-- The number of unsigned 64-bit integers, `2 ^ 64`. -/
def unsignedLimit : Nat := 18446744073709551616

/-- Takes a signed integer argument, cut to the 64-bit range with a problem noted. -/
def PrintfState.signed (st : PrintfState) : Int × PrintfState :=
  let (a, st) := st.next
  let r := readNumber a
  let v := if r.value ≥ (signedLimit : Int) then (signedLimit : Int) - 1
    else if r.value < -(signedLimit : Int) then -(signedLimit : Int) else r.value
  (v, st.note a (r.problem.orElse fun _ => if v = r.value then none else some .range))

/-- Takes an unsigned integer argument: a negative one counts modulo `2 ^ 64`, and one
beyond the range is the largest with a problem noted. -/
def PrintfState.unsigned (st : PrintfState) : Nat × PrintfState :=
  let (a, st) := st.next
  let r := readNumber a
  let m := r.value.natAbs
  let (v, beyond) := if m ≥ unsignedLimit then (unsignedLimit - 1, true)
    else if r.value < 0 then ((unsignedLimit - m) % unsignedLimit, false) else (m, false)
  (v, st.note a (r.problem.orElse fun _ => if beyond then some .range else none))

/-- Takes a floating-point argument; a quote stands for the code of the byte after it. -/
def PrintfState.float (st : PrintfState) : Binary64 × PrintfState :=
  let (a, st) := st.next
  let zero : Binary64 := ⟨false, .finite 0 0⟩
  match a.toList with
  | [] => (zero, st)
  | q :: rest =>
    if q = '\'' || q = '"' then
      (⟨false, .finite ((rest.head?.map fun c => (bytesOf c.toString).headD 0).getD 0).toNat 0⟩, st)
    else
      match Binary64.readPrefixIn (if st.gnu then .extended else .double) (q :: rest) with
      | none => (zero, st.note a (some .notNumeric))
      | some (x, range, after) =>
        if !after.isEmpty then (x, st.note a (some .partly))
        else (x, st.note a (if range then some .range else none))

/-- The flags, width and precision of a conversion, and the bytes after them; a
negative width from the arguments adds the flag `-`. -/
def conversionHead (bs : List UInt8) (st : PrintfState) :
    List UInt8 × Option Nat × Option Nat × List UInt8 × PrintfState :=
  let flags := bs.takeWhile fun b => b = 35 || b = 45 || b = 43 || b = 32 || b = 48 || (st.gnu && b = 39)
  let bs := bs.drop flags.length
  let (flags, width, bs, st) : List UInt8 × Option Nat × List UInt8 × PrintfState := match bs with
    | 42 :: rest =>
      let (n, st) := st.signed
      (if n < 0 then flags ++ [45] else flags, some n.natAbs, rest, st)
    | _ =>
      let ds := bs.takeWhile isDecimal
      (flags, if ds.isEmpty then none else some (ds.foldl (fun v d => v * 10 + (d.toNat - 48)) 0),
        bs.drop ds.length, st)
  let (precision, bs, st) : Option Nat × List UInt8 × PrintfState := match bs with
    | 46 :: 42 :: rest =>
      let (n, st) := st.signed
      (if n < 0 then none else some n.toNat, rest, st)
    | 46 :: rest =>
      let ds := rest.takeWhile isDecimal
      (some (ds.foldl (fun v d => v * 10 + (d.toNat - 48)) 0), rest.drop ds.length, st)
    | _ => (none, bs, st)
  (flags, width, precision, bs, st)

/-- An argument quoted for the shell, as `%q` writes it: as it is when no character in it
is special, and otherwise as `Tools.quoteAlways` quotes it. -/
def shellQuoted (s : String) : String :=
  if !s.isEmpty && Tools.quoteIfNeeded s == s then s else Tools.quoteAlways s

/-- Whether a byte needs the quoting `$'...'` to be read back: a control character or a
byte outside ASCII. -/
def needsAnsi (c : Char) : Bool := c.toNat < 32 || c.toNat ≥ 127

/-- A byte in `$'...'`: a letter escape where there is one, three octal digits for other
bytes that need it, and a backslash before `'` and `\`. -/
def ansiChar (c : Char) : List Char :=
  let n := c.toNat
  if n = 7 then ['\\', 'a'] else if n = 8 then ['\\', 'b'] else if n = 27 then ['\\', 'E']
  else if n = 12 then ['\\', 'f'] else if n = 10 then ['\\', 'n'] else if n = 13 then ['\\', 'r']
  else if n = 9 then ['\\', 't'] else if n = 11 then ['\\', 'v']
  else if c = '\'' || c = '\\' then ['\\', c]
  else if needsAnsi c then ['\\', Char.ofNat (48 + n / 64 % 8), Char.ofNat (48 + n / 8 % 8), Char.ofNat (48 + n % 8)]
  else [c]

/-- Whether a character is written as it is inside quotes: it is no control character
(of the C0 or C1 set, or DEL). -/
def printableChar (c : Char) : Bool :=
  let n := c.toNat
  32 ≤ n && n != 127 && !(0x80 ≤ n && n < 0xA0)

/-- The pieces of a byte text read as UTF-8, from the marks of `Text.decodeMarked`: each
character with its bytes, and each byte that starts no character alone. -/
def piecesFrom : List (Option Char) → List Char → List (Option Char × List Char)
  | [], _ => []
  | m :: ms, bytes =>
    let n := match m with
      | some c => c.utf8Size
      | none => 1
    (m, bytes.take n) :: piecesFrom ms (bytes.drop n)

/-- The pieces of a byte text read as UTF-8. -/
def utf8Pieces (s : String) : List (Option Char × List Char) :=
  piecesFrom (Text.decodeMarked (s.toList.map fun c => c.toNat.toUInt8)) s.toList

/-- Whether a byte text needs the quoting `$'...'` to be read back: it holds a control
character or bytes that are not UTF-8. -/
def needsAnsiText (s : String) : Bool :=
  (utf8Pieces s).any fun (m, _) => match m with
    | some c => !printableChar c
    | none => true

/-- A text in `$'...'`: a character outside ASCII that is printable stays as its bytes, and
every other byte is written as `ansiChar` writes it. -/
def quoteAnsi (s : String) : String :=
  "$'" ++ String.ofList ((utf8Pieces s).flatMap fun (m, bytes) => match m with
    | some c => if c.toNat ≥ 0xA0 then bytes else bytes.flatMap ansiChar
    | none => bytes.flatMap ansiChar) ++ "'"

/-- A text in single quotes, each `'` in it written `'\''`. -/
def quoteSingle (s : String) : String :=
  "'" ++ String.ofList (s.toList.flatMap fun c => if c = '\'' then ['\'', '\\', '\'', '\''] else [c]) ++ "'"

/-- A text quoted so that the shell reads it back, as `@Q` quotes it: in `$'...'` when it
holds a byte that needs it, and otherwise in single quotes. -/
def quoteReusable (s : String) : String := if needsAnsiText s then quoteAnsi s else quoteSingle s

/-- A text in double quotes, with a backslash before `"`, `\`, `$` and a grave accent, as
`declare -p` writes values; in `$'...'` when it holds a byte that needs it. -/
def quoteDouble (s : String) : String :=
  if needsAnsiText s then quoteAnsi s
  else "\"" ++ String.ofList (s.toList.flatMap fun c =>
    if c = '"' || c = '\\' || c = '$' || c = '`' then ['\\', c] else [c]) ++ "\""

/-- The characters that `%q` of the `bash` dialect writes after a backslash. -/
def backslashed (c : Char) : Bool := " \t\n!\"$&'()*,;<>?[\\]^`\x7b|\x7d".toList.contains c

/-- An argument quoted for the shell as `%q` of the `bash` dialect writes it: `''` when it
is empty, in `$'...'` when it holds a byte that needs it, and otherwise with a backslash
before each special character, and before a `#` or `~` that starts it. -/
def bashQuoted (s : String) : String :=
  if s.isEmpty then "''"
  else if needsAnsiText s then quoteAnsi s
  else
    match s.toList with
    | c :: rest =>
      let first := if backslashed c || c = '#' || c = '~' then ['\\', c] else [c]
      let after := rest.zip (c :: rest)
      String.ofList (first ++ after.flatMap fun (d, before) =>
        if backslashed d || (d = '~' && (before = ':' || before = '=')) then ['\\', d] else [d])
    | [] => "''"

example : bashQuoted "a b" = "a\\ b" ∧ bashQuoted "it's" = "it\\'s" ∧ quoteReusable "a'b" = "'a'\\''b'" := by
  decide +kernel

/-- How a pass over the format ended. -/
inductive PassEnd where
  /-- The format was used up. -/
  | done
  /-- `\c` in a `%b` argument ended all output. -/
  | stopped
  /-- The format is broken: the message. -/
  | broken (message : String)

/-- One pass over the format: the bytes written, how the pass ended, and the state. -/
def formatPass : Nat → List UInt8 → PrintfState → List UInt8 × PassEnd × PrintfState
  | 0, _, st => ([], .done, st)
  | _ + 1, [], st => ([], .done, st)
  | fuel + 1, b :: rest, st =>
    let cont (out : List UInt8) (bs : List UInt8) (st : PrintfState) :=
      let (more, e, st) := formatPass fuel bs { st with written := st.written + out.length }
      (out ++ more, e, st)
    if b = 92 then
      if st.bash then
        let (out, after, _) := bashEscape false false rest
        cont out after st
      else if st.gnu then
        match gnuEscape false rest with
        | .error m => ([], .broken m, st)
        | .ok (out, after, stop) => if stop then (out, .stopped, st) else cont out after st
      else
        let (v, after) := escapeAt rest
        cont [v] after st
    else if b = 37 then
      match rest with
      | 37 :: after => cont [37] after st
      | _ =>
        let (flags, width, precision, bs, st) := conversionHead rest st
        let bs := if st.gnu then bs.dropWhile fun b => [104, 108, 76, 106, 116, 122].contains b else bs
        let spec := Text.byteString (37 :: rest.take (rest.length - bs.length + 1))
        let invalid := if st.gnu then ": invalid conversion specification" else ": invalid directive"
        let broken (k : Option UInt8) : String :=
          if st.bash then
            match k with
            | some k => "`" ++ Text.byteString [k] ++ "': invalid format character"
            | none => "`%': missing format character"
          else if k.isNone && !st.gnu then "missing format character" else spec ++ invalid
        match bs with
        | [] => ([], .broken (broken none), st)
        | k :: after =>
          let c : Conversion := ⟨flags, width, precision, k⟩
          if k = 115 then
            let (a, st) := st.next
            let body := bytesOf a
            cont (pad c (match precision with | some p => body.take p | none => body)) after st
          else if k = 98 then
            let (a, st) := st.next
            let expanded := if st.bash then .ok (bashEscapes false ((bytesOf a).length + 1) (bytesOf a))
              else if st.gnu then gnuEscapes ((bytesOf a).length + 1) (bytesOf a)
              else .ok (echoEscapes ((bytesOf a).length + 1) (bytesOf a))
            match expanded with
            | .error m => ([], .broken m, st)
            | .ok (body, stop) =>
              let body := match precision with | some p => body.take p | none => body
              if stop then (pad c body, .stopped, st) else cont (pad c body) after st
          else if k = 113 && (st.gnu || st.bash) then
            let (a, st) := st.next
            let body := bytesOf (if st.bash then bashQuoted a else shellQuoted a)
            cont (pad c (match precision with | some p => if st.bash then body.take p else body | none => body)) after st
          else if k = 81 && st.bash then
            -- `%Q`: the precision cuts the argument before it is quoted
            let (a, st) := st.next
            let cut := match precision with | some p => Text.byteString ((bytesOf a).take p) | none => a
            cont (pad c (bytesOf (bashQuoted cut))) after st
          else if k = 40 && st.bash then
            -- `%(format)T`: a moment, in seconds since the epoch, by a format of dates
            let layout := after.takeWhile (· != 41)
            match after.drop layout.length with
            | 41 :: 84 :: more =>
              let (t, st) := if st.args.isEmpty then ((0 : Int), st) else st.signed
              let layout := if layout.isEmpty then "%X" else Text.byteString layout
              let body := bytesOf (Clock.formatMoment layout t)
              cont (pad c (match precision with | some p => body.take p | none => body)) more st
            | _ => ([], .broken (broken (some k)), st)
          else if k = 99 then
            let (a, st) := st.next
            cont (pad c [(bytesOf a).headD 0]) after st
          else if k = 100 || k = 105 then
            let (n, st) := st.signed
            cont (formatNumber c (n < 0) n.natAbs) after st
          else if k = 111 || k = 117 || k = 120 || k = 88 then
            let (n, st) := st.unsigned
            cont (formatNumber c false n) after st
          else if [101, 69, 102, 70, 103, 71].contains k || k = 97 || k = 65 then
            let (x, st) := st.float
            let l : Binary64.Layout := ⟨Char.ofNat k.toNat, flags.contains 45, flags.contains 43,
              flags.contains 32, flags.contains 35, flags.contains 48, width.getD 0, precision⟩
            cont (bytesOf (String.ofList (Binary64.formatIn (if st.gnu then .extended else .double) x l))) after st
          else ([], .broken (broken (some k)), st)
    else cont [b] rest st

/-- What `printf` wrote, and the problems it reports. -/
structure Printed where
  out : List UInt8
  problems : List String
  /-- Whether the format was broken. -/
  failed : Bool
  /-- Messages that do not change the status. -/
  warnings : List String
  /-- For each problem with an argument, the bytes written before it was found. -/
  offsets : List Nat := []

/-- Runs `printf` with a format and arguments; `fuel` bounds the passes. -/
def printfPasses : Nat → List UInt8 → PrintfState → Printed
  | 0, _, st => ⟨[], st.problems, false, [], st.offsets⟩
  | fuel + 1, fmt, st =>
    let (out, e, st) := formatPass (fmt.length + 1) fmt { st with took := false }
    match e with
    | .stopped => ⟨out, st.problems, false, [], st.offsets⟩
    | .broken m => ⟨out, st.problems ++ [m], true, [], st.offsets⟩
    | .done =>
      if st.took && !st.args.isEmpty then
        let r := printfPasses fuel fmt st
        ⟨out ++ r.out, r.problems, r.failed, r.warnings, r.offsets⟩
      else
        let warnings := match st.args with
          | a :: _ => if st.gnu && !st.took then ["warning: ignoring excess arguments, starting with " ++ Tools.quote a] else []
          | [] => []
        ⟨out, st.problems, false, warnings, st.offsets⟩

/-- Runs the shell's `printf`. -/
def printf (format : String) (args : List String) : Printed :=
  printfPasses (args.length + 1) (bytesOf format) { args, took := false, problems := [], gnu := false, bash := false }

/-- Runs the program `printf` of the system. -/
def printfGnu (format : String) (args : List String) : Printed :=
  printfPasses (args.length + 1) (bytesOf format) { args, took := false, problems := [], gnu := true, bash := false }

/-- Runs the `printf` of the `bash` dialect. -/
def printfBash (format : String) (args : List String) : Printed :=
  printfPasses (args.length + 1) (bytesOf format) { args, took := false, problems := [], gnu := false, bash := true }

/-- Runs `echo`. -/
def echo (args : List String) : List UInt8 :=
  let (newline, args) := match args with
    | "-n" :: rest => (false, rest)
    | rest => (true, rest)
  let (out, stop) := echoEscapes ((bytesOf (" ".intercalate args)).length + 1) (bytesOf (" ".intercalate args))
  if stop then out else out ++ (if newline then [10] else [])

/-- Runs `echo` in the `bash` dialect. The first words made of `-` and the letters `n`,
`e` and `E` are options: `n` drops the line feed, `e` expands escapes and `E` (the
default) does not, the last of the two counting. -/
def echoBash (args : List String) : List UInt8 :=
  let isOption (a : String) : Bool :=
    match a.toList with
    | '-' :: c :: cs => (c :: cs).all fun d => d = 'n' || d = 'e' || d = 'E'
    | _ => false
  let options := (args.takeWhile isOption).flatMap String.toList
  let text := bytesOf (" ".intercalate (args.dropWhile isOption))
  let lineEnd : List UInt8 := if options.contains 'n' then [] else [10]
  if (options.filter fun c => c = 'e' || c = 'E').getLast? == some 'e' then
    let (out, stop) := bashEscapes true (text.length + 1) text
    if stop then out else out ++ lineEnd
  else text ++ lineEnd

example : (printf "summary:\\nargs=%s count=%d\\n" ["help deploy", "2"]).out =
    bytesOf "summary:\nargs=help deploy count=2\n" := by decide +kernel

example : (printfGnu "\\x41|%b\\n" ["\\x42"]).out = bytesOf "A|B\n" := by decide +kernel

end HelpMan.Shell

