/-!
# UTF-8

A sequence of bytes is UTF-8 when it is a concatenation of well-formed encodings of code
points: one byte below `0x80`; a lead byte `0xC2`–`0xDF` and one continuation byte; a
lead byte `0xE0`–`0xEF` and two, where after `0xE0` the second byte is at least `0xA0`
(no overlong forms) and after `0xED` at most `0x9F` (no surrogates); a lead byte
`0xF0`–`0xF4` and three, where after `0xF0` the second byte is at least `0x90` and after
`0xF4` at most `0x8F` (nothing above `U+10FFFF`). Continuation bytes are `0x80`–`0xBF`.

The reader takes one byte at a time (`step`), between encodings or inside one.
`firstInvalid` gives the offset of the first place where no encoding starts: the lead
byte of the encoding that a byte cut short, or the byte itself between encodings.
`decode` reads valid bytes into characters, and `decodeLossy` reads any bytes, putting
the replacement character for each byte where no encoding starts.
-/

namespace HelpMan.Text

/-- A continuation byte. -/
def isCont (b : UInt8) : Bool := 0x80 ≤ b && b ≤ 0xBF

/-- The bounds that the byte after a lead byte must lie in. -/
def secondRange (lead : UInt8) : UInt8 × UInt8 :=
  if lead = 0xE0 then (0xA0, 0xBF)
  else if lead = 0xED then (0x80, 0x9F)
  else if lead = 0xF0 then (0x90, 0xBF)
  else if lead = 0xF4 then (0x80, 0x8F)
  else (0x80, 0xBF)

/-- Whether `b` may follow the lead byte `lead`. -/
def secondOk (lead b : UInt8) : Bool :=
  let (lo, hi) := secondRange lead
  lo ≤ b && b ≤ hi

/-- What the reader holds between two bytes. -/
inductive Pending where
  /-- Between encodings. -/
  | between
  /-- Inside the encoding that started at offset `start`: `left` continuation bytes are
  still to come, the next within `lo`–`hi`; `acc` holds the bits read so far and `seen`
  counts the continuation bytes read. -/
  | inside (start : Nat) (lo hi : UInt8) (left acc seen : Nat)
  deriving DecidableEq, Repr

/-- What one byte does: it completes a character, leaves the reader inside an
encoding, or shows that no encoding starts where the current one started. -/
inductive Step where
  | char (c : Char)
  | more (p : Pending)
  | refused
  deriving DecidableEq, Repr

/-- A byte read between encodings, at offset `off`. -/
def leadStep (off : Nat) (b : UInt8) : Step :=
  if b < 0x80 then .char (Char.ofNat b.toNat)
  else if b < 0xC2 then .refused
  else if b < 0xE0 then .more (.inside off 0x80 0xBF 1 (b.toNat % 32) 0)
  else if b < 0xF0 then
    let (lo, hi) := secondRange b
    .more (.inside off lo hi 2 (b.toNat % 16) 0)
  else if b < 0xF5 then
    let (lo, hi) := secondRange b
    .more (.inside off lo hi 3 (b.toNat % 8) 0)
  else .refused

/-- A byte read in state `p`, at offset `off`. -/
def step (p : Pending) (off : Nat) (b : UInt8) : Step :=
  match p with
  | .between => leadStep off b
  | .inside start lo hi left acc seen =>
    if lo ≤ b && b ≤ hi then
      let acc := acc * 64 + b.toNat % 64
      if left ≤ 1 then .char (Char.ofNat acc) else .more (.inside start 0x80 0xBF (left - 1) acc (seen + 1))
    else .refused

/-- Where the encoding that the reader is in started, or `off` between encodings. -/
def Pending.start : Pending → Nat → Nat
  | .between, off => off
  | .inside start .., _ => start

/-- The offset of the first place where no encoding starts, reading from state `p` at
offset `off`. -/
def firstInvalidFrom (p : Pending) (off : Nat) : List UInt8 → Option Nat
  | [] =>
    match p with
    | .between => none
    | .inside start .. => some start
  | b :: rest =>
    match step p off b with
    | .char _ => firstInvalidFrom .between (off + 1) rest
    | .more q => firstInvalidFrom q (off + 1) rest
    | .refused => some (p.start off)

/-- The offset of the first place where no encoding starts, if there is one. -/
def firstInvalid (bs : List UInt8) : Option Nat := firstInvalidFrom .between 0 bs

/-- The characters read from state `p`, up to the first place where no encoding starts. -/
def decodeFrom (p : Pending) : List UInt8 → List Char
  | [] => []
  | b :: rest =>
    match step p 0 b with
    | .char c => c :: decodeFrom .between rest
    | .more q => decodeFrom q rest
    | .refused => []

/-- The characters of valid bytes. -/
def decode (bs : List UInt8) : List Char := decodeFrom .between bs

/-- The replacement character. -/
def replacement : Char := Char.ofNat 0xFFFD

/-- The characters of any bytes read from state `p`: every byte where no encoding starts
gives one replacement character. An encoding cut short leaves its lead byte and the
continuation bytes read so far, each of which starts no encoding, and the byte that cut
it is read again between encodings. -/
def decodeLossyFrom (p : Pending) : List UInt8 → List Char
  | [] =>
    match p with
    | .between => []
    | .inside _ _ _ _ _ seen => List.replicate (seen + 1) replacement
  | b :: rest =>
    match p with
    | .between =>
      match leadStep 0 b with
      | .char c => c :: decodeLossyFrom .between rest
      | .more q => decodeLossyFrom q rest
      | .refused => replacement :: decodeLossyFrom .between rest
    | .inside start lo hi left acc seen =>
      match step (.inside start lo hi left acc seen) 0 b with
      | .char c => c :: decodeLossyFrom .between rest
      | .more q => decodeLossyFrom q rest
      | .refused =>
        List.replicate (seen + 1) replacement ++
          match leadStep 0 b with
          | .char c => c :: decodeLossyFrom .between rest
          | .more q => decodeLossyFrom q rest
          | .refused => replacement :: decodeLossyFrom .between rest

/-- The characters of any bytes, with a replacement character for each byte where no
encoding starts. -/
def decodeLossy (bs : List UInt8) : List Char := decodeLossyFrom .between bs

/-- The characters of any bytes read from state `p`, with `none` for each byte where no
encoding starts: `decodeLossyFrom` with the replacements told apart from the characters. -/
def decodeMarkedFrom (p : Pending) : List UInt8 → List (Option Char)
  | [] =>
    match p with
    | .between => []
    | .inside _ _ _ _ _ seen => List.replicate (seen + 1) none
  | b :: rest =>
    match p with
    | .between =>
      match leadStep 0 b with
      | .char c => some c :: decodeMarkedFrom .between rest
      | .more q => decodeMarkedFrom q rest
      | .refused => none :: decodeMarkedFrom .between rest
    | .inside start lo hi left acc seen =>
      match step (.inside start lo hi left acc seen) 0 b with
      | .char c => some c :: decodeMarkedFrom .between rest
      | .more q => decodeMarkedFrom q rest
      | .refused =>
        List.replicate (seen + 1) none ++
          match leadStep 0 b with
          | .char c => some c :: decodeMarkedFrom .between rest
          | .more q => decodeMarkedFrom q rest
          | .refused => none :: decodeMarkedFrom .between rest

/-- The characters of any bytes, with `none` for each byte where no encoding starts. -/
def decodeMarked (bs : List UInt8) : List (Option Char) := decodeMarkedFrom .between bs

example : firstInvalid [0x6F, 0x6B, 0xFF] = some 2 ∧ firstInvalid [0xE2, 0x82, 0xAC] = none ∧
    firstInvalid [0xF0, 0x9F, 0x98, 0x80, 0xF0, 0x9F, 0x98] = some 4 ∧
    firstInvalid [0xED, 0xA0, 0x80] = some 0 ∧ firstInvalid [0x7F, 0xC2, 0x80, 0xFF] = some 3 := by
  decide +kernel

/-! ## Byte strings

A byte string is a `String` whose characters all lie below 256, each standing for the
byte of its value. Programs that work on bytes rather than characters (the shell, the
tools of the system) keep their texts as byte strings, so that cutting, counting and
matching them goes by bytes; a text enters as the byte string of its UTF-8 encoding and
leaves as the bytes of its characters. -/

/-- The byte string of bytes. -/
def byteString (bs : List UInt8) : String := String.ofList (bs.map fun b => Char.ofNat b.toNat)

/-- The bytes of a byte string: the low byte of each character. -/
def rawBytes (s : String) : List UInt8 := s.toList.map fun c => c.toNat.toUInt8

/-- The byte string of a text's UTF-8 encoding. -/
def utf8Bytes (s : String) : String := byteString s.toUTF8.toList

/-- The text that a byte string encodes, with a replacement character for each byte
where no encoding starts. -/
def ofByteString (s : String) : String := String.ofList (decodeLossy (rawBytes s))

example : rawBytes (utf8Bytes "é") = [0xC3, 0xA9] ∧ (utf8Bytes "é").length = 2 ∧
    ofByteString (utf8Bytes "aé€") = "aé€" := by
  decide +kernel

example : decode [0xE2, 0x82, 0xAC, 0x41] = [Char.ofNat 0x20AC, 'A'] ∧
    decodeLossy [0x61, 0xE2, 0x82, 0x41, 0xFF] = ['a', replacement, replacement, 'A', replacement] := by
  decide +kernel

end HelpMan.Text
