import HelpMan.Binary64
import HelpMan.Tools.Basic

/-!
# `od`: bytes written out

`od` writes its input in blocks of sixteen bytes (or `-w` bytes): each block on a line
per format, after the offset of the block (in octal, decimal or hexadecimal, or none
with `-An`), and a last line with the offset of the end. A block equal to the one before
is written as a single `*` unless `-v` is given.

A format (`-t`, or the short options `-a -b -c -d -f -h -i -l -o -s -x` and their
capital forms) names what a unit of the block is written as: a character (`c`, with C's
escapes and octal for bytes that do not print), the name of an ASCII character (`a`), a
signed, unsigned, octal or hexadecimal number of 1, 2, 4 or 8 bytes, least significant
first, or a floating-point number of 4, 8 or 16 bytes (`f`), written with the fewest
significant digits that read back as the same number (`shortestText`). Every unit is
right aligned in a field as wide as its widest value, and the fields of all formats are
spread so that each format fills the same width. A format with `z` after it adds the
block's printable bytes between `>` and `<` at the end of its line.

With `-S` (`--strings`), `od` writes instead the strings of its input: runs of at least
that many printable bytes ended by a zero byte, each after its offset (`dumpStrings`).
Skipping past the end of the input (`-j`) is an error.
-/

namespace HelpMan.Tools

/-- A format of `od`: the kind letter (`c a d u o x f`), the size of a unit in bytes, and
whether the printable bytes of each block follow its line. -/
structure DumpFormat where
  kind : Char
  size : Nat
  trailer : Bool
  deriving DecidableEq, Repr

/-- The width of the widest value of a format. -/
def DumpFormat.width (f : DumpFormat) : Nat :=
  match f.kind, f.size with
  | 'c', _ | 'a', _ => 3
  | 'f', 4 => 15
  | 'f', 8 => 24
  | 'f', _ => 29
  | 'd', 1 => 4
  | 'd', 2 => 6
  | 'd', 4 => 11
  | 'd', _ => 20
  | 'u', 1 => 3
  | 'u', 2 => 5
  | 'u', 4 => 10
  | 'u', _ => 20
  | 'o', 1 => 3
  | 'o', 2 => 6
  | 'o', 4 => 11
  | 'o', _ => 22
  | _, s => 2 * s

/-- The names of the ASCII control characters, and `sp` and `del`. -/
def asciiNames : List String :=
  ["nul", "soh", "stx", "etx", "eot", "enq", "ack", "bel", "bs", "ht", "nl", "vt", "ff", "cr", "so", "si", "dle", "dc1",
   "dc2", "dc3", "dc4", "nak", "syn", "etb", "can", "em", "sub", "esc", "fs", "gs", "rs", "us", "sp"]

/-- Digits of a number in a base, at least `width` of them, with leading zeros. -/
def digitsPadded (base width n : Nat) : String :=
  let ds := (Nat.toDigits base n)
  String.ofList (List.replicate (width - ds.length) '0' ++ ds)

/-! ## Floating-point units -/

/-- A binary floating-point format: the bits of its significands (the leading one
included), the exponents of the least and the greatest numbers `m * 2 ^ e` it holds, the
exponent of its least normal number, and the significant digits that writing starts
from and ends at. -/
structure FloatKind where
  bits : Nat
  least : Int
  most : Int
  normal : Int
  digits : Nat
  bound : Nat

/-- The formats of 4, 8 and 16 bytes: single, double and extended precision. -/
def FloatKind.ofSize : Nat → FloatKind
  | 4 => ⟨24, -149, 104, -126, 6, 9⟩
  | 8 => ⟨53, -1074, 971, -1022, 15, 17⟩
  | _ => ⟨64, -16445, 16320, -16382, 18, 21⟩

/-- A number of an interchange format from its bits, with `eb` exponent bits and `fb`
fraction bits: infinity and not a number at the greatest exponent, numbers below the
normal ones at exponent zero. -/
def interchange (eb fb : Nat) (v : Nat) : Binary64 :=
  let negative := v / Nat.pow 2 (eb + fb) % 2 == 1
  let ex : Nat := v / Nat.pow 2 fb % Nat.pow 2 eb
  let frac : Nat := v % Nat.pow 2 fb
  let bias : Int := Nat.pow 2 (eb - 1) - 1
  if ex = Nat.pow 2 eb - 1 then ⟨negative, if frac = 0 then .infinity else .nan⟩
  else if ex = 0 then ⟨negative, .finite frac (1 - bias - fb)⟩
  else ⟨negative, .finite (frac + Nat.pow 2 fb) ((ex : Int) - bias - fb)⟩

/-- A number of the extended format from the first ten of its bytes: a 64-bit
significand with its leading bit written, then the sign and a 15-bit exponent. A
significand without its leading bit above exponent zero is not a number. -/
def extended (v : Nat) : Binary64 :=
  let sig : Nat := v % Nat.pow 2 64
  let se : Nat := v / Nat.pow 2 64 % Nat.pow 2 16
  let negative := se / Nat.pow 2 15 == 1
  let ex : Nat := se % Nat.pow 2 15
  if ex = Nat.pow 2 15 - 1 then ⟨negative, if sig = Nat.pow 2 63 then .infinity else .nan⟩
  else if ex = 0 then ⟨negative, .finite sig (-16445)⟩
  else if sig < Nat.pow 2 63 then ⟨negative, .nan⟩
  else ⟨negative, .finite sig ((ex : Int) - 16446)⟩

/-- The number a unit of a floating-point format holds. -/
def floatOf (size : Nat) (v : Nat) : Binary64 :=
  match size with
  | 4 => interchange 8 23 v
  | 8 => interchange 11 52 v
  | _ => extended v

/-- The number of a format nearest to `num / den`, as `m * 2 ^ e` with `m` below
`2 ^ bits` and `e` at least the least exponent, a tie going to the even `m`; `none` when
it is beyond the greatest number. -/
def FloatKind.nearest (k : FloatKind) (num den : Nat) : Option (Nat × Int) :=
  if num = 0 then some (0, k.least) else
  let guess : Int := (num.log2 : Int) - (den.log2 : Int) - (k.bits - 1 : Nat)
  let e := match Binary64.scaleByTwo num den guess with
    | (n, d) => if n < Nat.pow 2 (k.bits - 1) * d then guess - 1 else guess
  let e := max e k.least
  let (n, d) := Binary64.scaleByTwo num den e
  let m := Binary64.roundDiv n d
  let (m, e) := if m = Nat.pow 2 k.bits then (Nat.pow 2 (k.bits - 1), e + 1) else (m, e)
  if e > k.most then none else some (m, e)

/-- Whether writing a number with `p` significant digits reads back as the same number. -/
def FloatKind.readsBack (k : FloatKind) (m : Nat) (e : Int) (p : Nat) : Bool :=
  if m = 0 then true else
  let (num, den) := Binary64.fraction m e
  let (ds, x) := Binary64.scientificDigits num den (p - 1)
  let (n, d) := Binary64.scaleByTen ((String.ofList ds).toNat?.getD 0) 1 ((p - 1 : Nat) - x)
  k.nearest n d == some (m, e)

/-- A number written as `%.*g` with the least precision, from the format's digits (or
one, below its normal numbers) up to its bound, that reads back as the same number. -/
def shortestText (k : FloatKind) (x : Binary64) : String :=
  let text (p : Nat) : String := String.ofList (Binary64.format x ⟨'g', false, false, false, false, false, 0, some p⟩)
  let start := match x.magnitude with
    | .finite m e =>
      let (num, den) := Binary64.fraction m e
      if num * Nat.pow 2 k.normal.natAbs < den then 1 else k.digits
    | _ => k.digits
  let rec go : Nat → Nat → String
    | 0, p => text p
    | fuel + 1, p =>
      let done := match x.magnitude with
        | .finite m e => k.readsBack m e p
        | .infinity => true
        | .nan => false
      if p ≥ k.bound || done then text p else go fuel (p + 1)
  go k.bound start

/-! ## Units -/

/-- The text of one unit in a format, before alignment. -/
def DumpFormat.show (f : DumpFormat) (unit : List UInt8) : String :=
  let value := unit.foldr (fun b v => v * 256 + b.toNat) 0
  match f.kind with
  | 'c' =>
    match value with
    | 0 => "\\0"
    | 7 => "\\a"
    | 8 => "\\b"
    | 12 => "\\f"
    | 10 => "\\n"
    | 13 => "\\r"
    | 9 => "\\t"
    | 11 => "\\v"
    | v => if 32 ≤ v && v < 127 then (Char.ofNat v).toString else digitsPadded 8 3 v
  | 'a' =>
    let v := value % 128
    if v < 33 then asciiNames.getD v "" else if v == 127 then "del" else (Char.ofNat v).toString
  | 'd' =>
    let half := Nat.pow 2 (8 * f.size - 1)
    if value ≥ half then "-" ++ toString (2 * half - value) else toString value
  | 'u' => toString value
  | 'o' => digitsPadded 8 f.width value
  | 'f' => shortestText (FloatKind.ofSize f.size) (floatOf f.size value)
  | _ => digitsPadded 16 f.width value

/-- Reads a list of formats after `-t` (the whole of which is `spec`): kind letters each
with an optional size (digits, `C S I L` for integers, `F D L` for floating point) and an
optional `z`. The message tells the first letter that names no format, or a size that no
number has. -/
def readFormats (spec : String) : Nat → List Char → Except String (List DumpFormat)
  | 0, _ => .ok []
  | _ + 1, [] => .ok []
  | fuel + 1, k :: rest =>
    let next (n : Nat) (r : List Char) : Except String (List DumpFormat) :=
      let (z, r) := match r with
        | 'z' :: more => (true, more)
        | more => (false, more)
      (readFormats spec fuel r).map (⟨k, n, z⟩ :: ·)
    if k == 'c' || k == 'a' then next 1 rest
    else if k == 'f' then
      match rest with
      | 'F' :: r => next 4 r
      | 'D' :: r => next 8 r
      | 'L' :: r => next 16 r
      | _ =>
        let ds := rest.takeWhile Char.isDigit
        if ds.isEmpty then next 8 rest
        else
          let n := ((String.ofList ds).toNat?.getD 0)
          if [4, 8, 16].contains n then next n (rest.drop ds.length)
          else .error ("invalid type string " ++ quote spec ++ ";\nthis system doesn't provide a " ++ toString n ++
            "-byte floating point type")
    else if "duox".toList.contains k then
      match rest with
      | 'C' :: r => next 1 r
      | 'S' :: r => next 2 r
      | 'I' :: r => next 4 r
      | 'L' :: r => next 8 r
      | _ =>
        let ds := rest.takeWhile Char.isDigit
        if ds.isEmpty then next 4 rest
        else
          let n := ((String.ofList ds).toNat?.getD 0)
          if [1, 2, 4, 8].contains n then next n (rest.drop ds.length)
          else .error ("invalid type string " ++ quote spec ++ ";\nthis system doesn't provide a " ++ toString n ++
            "-byte integral type")
    else .error ("invalid character '" ++ k.toString ++ "' in type string " ++ quote spec)

/-- The options of `od`. -/
def odSpec : Spec :=
  ⟨"A:aBbcDdeFfHhIij:LlN:OoS:st:vw::Xx",
   [⟨"address-radix", .required, 'A'⟩, ⟨"skip-bytes", .required, 'j'⟩, ⟨"read-bytes", .required, 'N'⟩,
    ⟨"format", .required, 't'⟩, ⟨"output-duplicates", .nothing, 'v'⟩, ⟨"width", .optional, 'w'⟩,
    ⟨"strings", .optional, 'S'⟩, ⟨"endian", .required, '\x01'⟩, ⟨"traditional", .nothing, '\x02'⟩]⟩

/-- The formats a short option stands for. -/
def shortFormats (c : Char) : List DumpFormat :=
  match c with
  | 'a' => [⟨'a', 1, false⟩]
  | 'b' => [⟨'o', 1, false⟩]
  | 'c' => [⟨'c', 1, false⟩]
  | 'd' => [⟨'u', 2, false⟩]
  | 'f' => [⟨'f', 4, false⟩]
  | 'h' | 'x' => [⟨'x', 2, false⟩]
  | 'i' => [⟨'d', 4, false⟩]
  | 'l' | 'I' | 'L' => [⟨'d', 8, false⟩]
  | 'o' | 'B' => [⟨'o', 2, false⟩]
  | 's' => [⟨'d', 2, false⟩]
  | 'D' => [⟨'u', 4, false⟩]
  | 'e' | 'F' => [⟨'f', 8, false⟩]
  | 'H' | 'X' => [⟨'x', 4, false⟩]
  | 'O' => [⟨'o', 4, false⟩]
  | _ => []

/-- The printable bytes of a block between `>` and `<`, a dot for each other byte. -/
def trailerText (block : List UInt8) : String :=
  "  >" ++ String.ofList (block.map fun b => if 32 ≤ b.toNat && b.toNat < 127 then Char.ofNat b.toNat else '.') ++ "<"

/-- The fields of one format for a block of `perBlock` bytes of which `block` are given:
each unit right aligned, with the room left spread over the fields; with `big` the first
byte of a unit is its most significant. -/
def dumpFields (f : DumpFormat) (big : Bool) (perBlock : Nat) (room : Nat) (block : List UInt8) : String :=
  let fields := perBlock / f.size
  let present := (block.length + f.size - 1) / f.size
  let padded := block ++ List.replicate (present * f.size - block.length) 0
  let units := (List.range present).map fun i => (padded.drop (i * f.size)).take f.size
  let pad := room - f.width * fields
  let (text, _) := (units.zip (List.range present)).foldl (fun (text, remaining) (u, k) =>
    let i := fields - k
    let nextPad := pad * (i - 1) / fields
    let shown := f.show (if big then u.reverse else u)
    (text ++ String.ofList (List.replicate (remaining - nextPad + f.width - shown.length) ' ') ++ shown, nextPad))
    ("", pad)
  text

/-- An offset in a radix, as `od` writes it. -/
def offsetText (radix : Char) (n : Nat) : String :=
  match radix with
  | 'd' => digitsPadded 10 7 n
  | 'x' => digitsPadded 16 6 n
  | 'n' => ""
  | _ => digitsPadded 8 7 n

/-- How `od` writes offsets: in a radix, and with a label between parentheses that runs
from another start (the old form's second offset). -/
structure Addressing where
  radix : Char
  label : Option Int

/-- Whether offsets are written at all. -/
def Addressing.shown (a : Addressing) : Bool := a.radix != 'n' || a.label.isSome

/-- The text of an offset: in the radix, then its label; a label alone in octal when no
radix is wanted. -/
def Addressing.text (a : Addressing) (n : Nat) : String :=
  match a.label with
  | none => offsetText a.radix n
  | some shift =>
    let labelled := (n + shift).toNat
    if a.radix == 'n' then "(" ++ offsetText 'o' labelled ++ ")"
    else offsetText a.radix n ++ " (" ++ offsetText a.radix labelled ++ ")"

/-- Writes the blocks of some bytes from an offset: each block as a line per format,
and a `*` for a run of blocks equal to the one before. -/
def dumpBlocks (formats : List DumpFormat) (big : Bool) (at_ : Addressing) (perBlock room : Nat) (all : Bool) :
    Nat → List UInt8 → Nat → Option (List UInt8) → Bool → String
  | 0, _, _, _, _ => ""
  | _ + 1, [], _, _, _ => ""
  | fuel + 1, bs, offset, previous, starred =>
    let block := bs.take perBlock
    let rest := bs.drop perBlock
    if !all && previous == some block && block.length == perBlock then
      (if starred then "" else "*\n") ++ dumpBlocks formats big at_ perBlock room all fuel rest (offset + block.length) previous true
    else
      let lead := at_.text offset
      let lines := (formats.zip (List.range formats.length)).map fun (f, i) =>
        let fields := perBlock / f.size
        let blank := (perBlock - block.length) / f.size
        let trailer := if f.trailer then
            String.ofList (List.replicate (blank * f.width + (room - f.width * fields) * blank / fields) ' ') ++
              trailerText block
          else ""
        (if i == 0 then lead else String.ofList (List.replicate lead.length ' ')) ++ dumpFields f big perBlock room block ++
          trailer ++ "\n"
      String.join lines ++ dumpBlocks formats big at_ perBlock room all fuel rest (offset + block.length) (some block) false

/-- Whether a byte is printable. -/
def printableByte (b : UInt8) : Bool := 32 ≤ b.toNat && b.toNat < 127

/-- The offset of a string: a negative one wraps around 2 ^ 64. -/
def wrapOffset (n : Int) : Nat := if n < 0 then (Nat.pow 2 64 - n.natAbs) else n.toNat

/-- The strings of `od -S`, each with its offset, from the offset `address` on; `limit` is
the offset the reading stops at, if any. A run of `least` printable bytes starts a
string, which goes on over printable bytes up to a zero byte; a string that reaches the
limit ends there, and one that reaches the end of the input is not written. -/
def dumpStrings (least : Nat) (limit : Option Nat) : Nat → List UInt8 → Nat → List (Nat × List UInt8)
  | 0, _, _ => []
  | fuel + 1, bs, address =>
    let stop := match limit with
      | some e => e < least || e - least ≤ address
      | none => false
    if stop then [] else
    let head := bs.take least
    let firstBad := head.findIdx? (fun b => !printableByte b)
    if head.length < least && firstBad.isNone then []
    else
      match firstBad with
      | some i => dumpStrings least limit fuel (bs.drop (i + 1)) (address + i + 1)
      | none =>
        let rest := bs.drop least
        let address := address + least
        let room := match limit with
          | some e => e - address
          | none => rest.length + 1
        let run := (rest.take room).takeWhile printableByte
        let after := rest.drop run.length
        let string := head ++ run
        if run.length ≥ room then
          let address := address + run.length
          (wrapOffset ((address : Int) - string.length - 1), string) :: dumpStrings least limit fuel after address
        else
          match after with
          | [] => []
          | 0 :: more =>
            let address := address + run.length + 1
            (address - string.length - 1, string) :: dumpStrings least limit fuel more address
          | _ :: more => dumpStrings least limit fuel more (address + run.length + 1)

/-- The multipliers a count of `od` may end with. -/
def odMultipliers : List Char := "bEGKkMmPTYZ0".toList

/-- Reads an offset of the old form: an optional `+`, then octal digits, decimal ones when
a `.` follows them, or hexadecimal ones after `0x`; then `b` for blocks of 512 bytes or
`B` for 1024. -/
def oldOffset? (s : String) : Option Nat :=
  let cs := match s.toList with
    | '+' :: r => r
    | r => r
  if s.isEmpty then none
  else if cs.contains '.' then
    let ds := cs.takeWhile (· != '.')
    (readCount 10 ['B', 'b'] (String.ofList (ds ++ cs.drop (ds.length + 1)))).toOption
  else
    match cs with
    | '0' :: x :: _ => if x == 'x' || x == 'X' then (readCount 16 ['B', 'b'] (String.ofList cs)).toOption
      else (readCount 8 ['B', 'b'] (String.ofList cs)).toOption
    | _ => (readCount 8 ['B', 'b'] (String.ofList cs)).toOption

/-- Where `od` starts and what it reads: the offset to skip to, the label's start when
one is given, and the files; or the message when the operands are too many. -/
def odOperands (traditional modern : Bool) (operands : List String) (skip : Nat) :
    Except String (Nat × Option Nat × List String) :=
  let result : Nat × Option Nat × List String :=
    if modern && !traditional then (skip, none, operands)
    else
      match operands with
      | [a] =>
        match (if traditional || a.startsWith "+" then oldOffset? a else none) with
        | some n => (n, none, [])
        | none => (skip, none, operands)
      | [a, b] =>
        let digitFirst := b.toList.head?.any Char.isDigit
        match (if traditional || b.startsWith "+" || digitFirst then oldOffset? b else none) with
        | some o2 =>
          match (if traditional then oldOffset? a else none) with
          | some o1 => (o1, some o2, [])
          | none => (o2, none, [a])
        | none => (skip, none, operands)
      | [a, b, c] =>
        match (if traditional then (oldOffset? b).bind fun o1 => (oldOffset? c).map (o1, ·) else none) with
        | some (o1, o2) => (o1, some o2, [a])
        | none => (skip, none, operands)
      | _ => (skip, none, operands)
  match result with
  | (_, _, _ :: extra :: _) =>
    if traditional then
      .error ("od: extra operand " ++ quote extra ++ "\nod: compatibility mode supports at most one file\n" ++
        tryHelp "od")
    else .ok result
  | _ => .ok result

/-- The byte order `--endian` names: big or little, by a whole word or the start of one. -/
def endianOf (word : String) : Except String Bool :=
  match ["big", "little"].filter (·.startsWith word) with
  | [w] => .ok (w == "big")
  | _ =>
    let what := if word.isEmpty then "ambiguous" else "invalid"
    .error ("od: " ++ what ++ " argument " ++ quote word ++ " for " ++ quote "--endian" ++ "\n" ++
      "Valid arguments are:\n  - " ++ quote "big" ++ "\n  - " ++ quote "little" ++ "\n" ++ tryHelp "od")

/-- What the options of `od` ask for, read in order: the formats, the radix of offsets,
the counts, the width and the byte order. -/
structure DumpOptions where
  formats : List DumpFormat
  radix : Char
  skip : Nat
  limit : Option Nat
  strings : Option Nat
  width : Option Nat
  big : Bool

/-- Takes one option of `od` into what was asked; the message of the first that does not
read. -/
def DumpOptions.take (d : DumpOptions) : Char × Option String → Except String DumpOptions
  | ('t', v) => (readFormats (v.getD "") ((v.getD "").length + 1) (v.getD "").toList).map
      (fun fs => { d with formats := d.formats ++ fs }) |>.mapError ("od: " ++ · ++ "\n")
  | ('A', v) =>
    let r := ((v.getD "").toList.head?).getD ' '
    if "doxn".toList.contains r then .ok { d with radix := r }
    else .error ("od: invalid output address radix '" ++ r.toString ++ "'; it must be one character from [doxn]\n")
  | ('j', some n) => (readCount 0 odMultipliers n).map (fun k => { d with skip := k }) |>.mapError
      fun p => "od: " ++ p.message "-j" n ++ "\n"
  | ('N', some n) => (readCount 0 odMultipliers n).map (fun k => { d with limit := some k }) |>.mapError
      fun p => "od: " ++ p.message "-N" n ++ "\n"
  | ('S', some n) => (readCount 0 odMultipliers n).map (fun k => { d with strings := some k }) |>.mapError
      fun p => "od: " ++ p.message "-S" n ++ "\n"
  | ('S', none) => .ok { d with strings := some 3 }
  | ('w', some n) => (readCount 10 [] n).map (fun k => { d with width := some k }) |>.mapError
      fun p => "od: " ++ p.message "-w" n ++ "\n"
  | ('w', none) => .ok { d with width := some 32 }
  | ('\x01', v) => (endianOf (v.getD "")).map fun big => { d with big := big }
  | (c, _) => .ok { d with formats := d.formats ++ shortFormats c }

/-- Runs `od`. -/
def od (cx : Context) (args : List String) : Outcome :=
  match Options.read "od" odSpec args with
  | .error e => cx.badUsage "od" e 1
  | .ok o =>
    match o.given.foldlM DumpOptions.take ⟨[], 'o', 0, none, none, none, false⟩ with
    | .error m => cx.failWith m 1
    | .ok d =>
      if d.strings.isSome && !d.formats.isEmpty then cx.failWith "od: no type may be specified when dumping strings\n" 1
      else
      let modern := o.given.any fun (c, _) => "AjNStvw".toList.contains c
      match odOperands (o.has '\x02') modern o.operands d.skip with
      | .error m => cx.failWith m 1
      | .ok (skip, label, operands) =>
      let at_ : Addressing := ⟨d.radix, label.map fun l => (l : Int) - skip⟩
      let formats := if d.formats.isEmpty then [⟨'o', 2, false⟩] else d.formats
      let unit := formats.foldl (fun m f => Nat.lcm m f.size) 1
      let (perBlock, warning) := match d.width with
        | none => (if unit < 16 then unit * (16 / unit) else unit, "")
        | some desired =>
          if desired != 0 && desired % unit == 0 then (desired, "")
          else (unit, "od: warning: invalid width " ++ toString desired ++ "; using " ++ toString unit ++ " instead\n")
      let room := formats.foldl (fun m f => max m ((f.width + 1) * (perBlock / f.size))) 0
      let files := if operands.isEmpty then ["-"] else operands
      let (input, err, status, left, opened) := files.foldl (fun (input, err, status, left, opened) f =>
        match cx.readOn left f (d.limit.map (skip + ·)) with
        | (.ok bs, left) => (input ++ bs, err, status, left, true)
        | (.error fault, left) =>
          (input, err ++ "od: " ++ quoteIfNeeded f ++ ": " ++ fault.reason ++ "\n", 1, left, opened))
        (([] : List UInt8), "", 0, cx.stdin, false)
      let unread := cx.leftAfter files left
      let err := warning ++ err
      -- with no input that opens there is nothing to dump, not even the last offset
      if !opened then ⟨pieces [(2, bytes err)], status, cx.workspace, false, unread⟩
      else if skip > input.length then
        cx.failWith (err ++ "od: cannot skip past end of combined input\n") 1
      else
      let input := input.drop skip
      match d.strings with
      | some least =>
        let found := dumpStrings least (d.limit.map (skip + ·)) (input.length + 1) input skip
        let lines := found.map fun (n, s) =>
          (if at_.shown then at_.text n ++ " " else "") ++ String.ofList (s.map fun b => Char.ofNat b.toNat) ++ "\n"
        ⟨pieces [(2, bytes err), (1, bytes (String.join lines))], status, cx.workspace, false, unread⟩
      | none =>
      let input := match d.limit with
        | some n => input.take n
        | none => input
      let body := dumpBlocks formats d.big at_ perBlock room (o.has 'v') (input.length + 1) input skip none false
      let tail := if at_.shown then at_.text (skip + input.length) ++ "\n" else ""
      ⟨pieces [(2, bytes err), (1, bytes (body ++ tail))], status, cx.workspace, false, unread⟩

example : (od ⟨Workspace.prepare [] [] [], [], some [97, 10], none, [], false, "od", false, 0o022⟩ ["-An", "-c"]).out = bytes "   a  \\n\n" := by decide +kernel

end HelpMan.Tools
