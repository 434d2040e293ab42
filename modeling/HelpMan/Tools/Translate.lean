import HelpMan.Tools.Basic

/-!
# `tr`: bytes translated, deleted or squeezed

`tr SET1 SET2` writes its input with each byte of `SET1` replaced by the byte at the same
place in `SET2`, which is lengthened by repeating its last byte. `-d` deletes the bytes of
`SET1` instead, and `-s` squeezes each run of a byte of the last set given into one byte.
`-c` takes the bytes that are not in `SET1`, in order, for `SET1`; `-t` cuts `SET1` to
the length of `SET2`. Everything is a byte.

A set is read in two steps. `unescape` reads its escapes (`\n`, `\t`, `\\`, octal
digits, ...), marking the bytes they write, which never take part in a construct.
`readItems` then reads the constructs: classes `[:alpha:]`, equivalences `[=c=]`, repeats
`[c*n]` and `[c*]` (which fills the second set up to the length of the first), and ranges
`a-z`. The sets are then checked against each other in a fixed order, and a translation
walks them side by side (`walkPairs`), where `[:lower:]` and `[:upper:]` must meet.
-/

namespace HelpMan.Tools

/-- The bytes of a class of the C locale, by name. -/
def classBytes (name : String) : Option (List UInt8) :=
  let all := (List.range 256).map UInt8.ofNat
  let pick (p : UInt8 → Bool) := some (all.filter p)
  let upper (b : UInt8) := 65 ≤ b && b ≤ 90
  let lower (b : UInt8) := 97 ≤ b && b ≤ 122
  let digit (b : UInt8) := 48 ≤ b && b ≤ 57
  let graph (b : UInt8) := 33 ≤ b && b ≤ 126
  match name with
  | "alnum" => pick fun b => upper b || lower b || digit b
  | "alpha" => pick fun b => upper b || lower b
  | "blank" => pick fun b => b = 32 || b = 9
  | "cntrl" => pick fun b => b < 32 || b = 127
  | "digit" => pick digit
  | "graph" => pick graph
  | "lower" => pick lower
  | "print" => pick fun b => 32 ≤ b && b ≤ 126
  | "punct" => pick fun b => graph b && !(upper b || lower b || digit b)
  | "space" => pick fun b => b = 32 || (9 ≤ b && b ≤ 13)
  | "upper" => pick upper
  | "xdigit" => pick fun b => digit b || (65 ≤ b && b ≤ 70) || (97 ≤ b && b ≤ 102)
  | _ => none

/-- A byte of a set once its escapes are read, and whether an escape wrote it: a byte
written by an escape is never part of a bracket, a class or a range. -/
abbrev Marked := UInt8 × Bool

/-- Whether a byte is an octal digit. -/
def isOctal (b : UInt8) : Bool := 48 ≤ b && b ≤ 55

/-- Reads the escapes of a set: `\\`, `\a` `\b` `\f` `\n` `\r` `\t` `\v`, one to three
octal digits (while the value stays below 256), and a backslash before any other byte
for that byte. Gives the bytes, marked, and the warnings: a backslash that ends the set
stands for itself, and a third octal digit that would pass 255 is a byte of its own. -/
def unescape : Nat → List UInt8 → List Marked × String
  | 0, _ => ([], "")
  | _ + 1, [] => ([], "")
  | fuel + 1, 92 :: rest =>
    let more (b : UInt8) (after : List UInt8) (note : String) : List Marked × String :=
      let (ms, notes) := unescape fuel after
      ((b, true) :: ms, note ++ notes)
    match rest with
    | [] => ([(92, false)], "tr: warning: an unescaped backslash at end of string is not portable\n")
    | c :: after =>
      if isOctal c then
        let d1 := c.toNat - 48
        match after with
        | c2 :: after2 =>
          if isOctal c2 then
            let v := 8 * d1 + (c2.toNat - 48)
            match after2 with
            | c3 :: after3 =>
              if isOctal c3 then
                if 8 * v + (c3.toNat - 48) < 256 then more (UInt8.ofNat (8 * v + (c3.toNat - 48))) after3 ""
                else
                  let digits := String.ofList ([c, c2, c3].map fun d => Char.ofNat d.toNat)
                  more (UInt8.ofNat v) after2 ("tr: warning: the ambiguous octal escape \\" ++ digits ++
                    " is being\n\tinterpreted as the 2-byte sequence \\0" ++ (digits.take 2).toString ++ ", " ++
                    (digits.drop 2).toString ++ "\n")
              else more (UInt8.ofNat v) after2 ""
            | [] => more (UInt8.ofNat v) after2 ""
          else more (UInt8.ofNat d1) after ""
        | [] => more (UInt8.ofNat d1) after ""
      else
        match [(92, 92), (97, 7), (98, 8), (102, 12), (110, 10), (114, 13), (116, 9), (118, 11)].lookup c with
        | some v => more v after ""
        | none => more c after ""
  | fuel + 1, c :: rest =>
    let (ms, notes) := unescape fuel rest
    ((c, false) :: ms, notes)

/-- An item of a set: a byte, a range of bytes, a class of the C locale by name, the
class of a byte that collates as it does (the byte alone), or a byte repeated a number of
times, where `0` stands for as many times as it takes to make the second set as long as
the first. -/
inductive SetItem where
  | byte (b : UInt8)
  | range (first last : UInt8)
  | named (name : String)
  | same (b : UInt8)
  | repeated (b : UInt8) (count : Nat)
  deriving DecidableEq, Repr

/-- A byte as messages show it: itself when it prints, a backslash escape otherwise. -/
def printable (b : UInt8) : String :=
  match [(92, "\\"), (7, "\\a"), (8, "\\b"), (12, "\\f"), (10, "\\n"), (13, "\\r"), (9, "\\t"),
      (11, "\\v")].lookup b with
  | some s => s
  | none =>
    if 32 ≤ b && b ≤ 126 then (Char.ofNat b.toNat).toString
    else
      let n := b.toNat
      "\\" ++ String.ofList ([n / 64, n / 8 % 8, n % 8].map fun d => Char.ofNat (48 + d))

/-- A byte as the message on a reversed range shows it: itself when it prints, three
octal digits otherwise. -/
def printableEnd (b : UInt8) : String :=
  if 32 ≤ b && b ≤ 126 then (Char.ofNat b.toNat).toString
  else
    let n := b.toNat
    "\\" ++ String.ofList ([n / 64, n / 8 % 8, n % 8].map fun d => Char.ofNat (48 + d))

/-- Whether a marked byte is a given byte that no escape wrote. -/
def isPlain (m : Marked) (b : UInt8) : Bool := m.1 == b && !m.2

/-- The text between `[:` (or `[=`) and the first `:]` (or `=]`) after it that no escape
wrote, and what follows that. -/
def closingDelim (delim : UInt8) : List Marked → Option (List Marked × List Marked)
  | [] => none
  | [_] => none
  | m :: n :: rest =>
    if isPlain m delim && isPlain n 93 then some ([], rest)
    else (closingDelim delim (n :: rest)).map fun (inner, after) => (m :: inner, after)

/-- Whether marked bytes start with `*`, digits and `]`, none of them written by an escape. -/
def starDigitsClose (ms : List Marked) : Bool :=
  match ms with
  | m :: rest =>
    isPlain m 42 &&
      match rest.dropWhile fun (b, e) => !e && 48 ≤ b && b ≤ 57 with
      | n :: _ => isPlain n 93
      | [] => false
  | [] => false

/-- Reads the count of a repeat `[c*n]`: blanks, an optional `+`, and digits, octal when
the count starts with `0` and decimal otherwise, with nothing after them. -/
def repeatCount? (ds : List UInt8) : Option Nat :=
  let octal := ds.head? == some 48
  let base := if octal then 8 else 10
  let cs := ds.dropWhile fun b => b == 32 || (9 ≤ b && b ≤ 13)
  let cs := match cs with
    | 43 :: r => r
    | r => r
  if cs.isEmpty || !cs.all (fun d => 48 ≤ d && d.toNat < 48 + base) then none
  else some (cs.foldl (fun v d => v * base + (d.toNat - 48)) 0)

/-- A repeat `[c*n]` or `[c*]` at the bytes after a `[`: the byte, the count and what
follows the `]`; `none` when the bytes do not start with a byte and `*`, or no `]` comes
before a byte written by an escape, and the message when the count does not read. -/
def bracketedRepeat (ms : List Marked) : Except String (Option (UInt8 × Nat × List Marked)) :=
  match ms with
  | (c, _) :: star :: rest =>
    if !isPlain star 42 then .ok none
    else
      let body := rest.takeWhile fun (b, e) => !e && b != 93
      match rest.drop body.length with
      | (93, false) :: after =>
        let ds := body.map Prod.fst
        if ds.isEmpty then .ok (some (c, 0, after))
        else
          match repeatCount? ds with
          | some n => .ok (some (c, n, after))
          | none =>
            .error ("tr: invalid repeat count " ++ quote (String.join (ds.map printable)) ++ " in [c*n] construct\n")
      | _ => .ok none
  | _ => .ok none

/-- Reads the items of a set from its marked bytes: `[:name:]`, `[=c=]`, `[c*n]` and
`[c*]`, ranges `a-z`, and single bytes; the last two bytes are single bytes. The message
of a class that does not exist, an equivalence of more than one byte, a repeat count that
does not read or a range whose ends are reversed. -/
def readItems : Nat → List Marked → Except String (List SetItem)
  | 0, _ => .ok []
  | fuel + 1, ms =>
    match ms with
    | a :: b :: c :: rest =>
      let single : Except String (List SetItem) :=
        if isPlain b 45 then
          if c.1 < a.1 then
            .error ("tr: range-endpoints of '" ++ printableEnd a.1 ++ "-" ++ printableEnd c.1 ++
              "' are in reverse collating sequence order\n")
          else (readItems fuel rest).map (.range a.1 c.1 :: ·)
        else (readItems fuel (b :: c :: rest)).map (.byte a.1 :: ·)
      let repeated : Except String (List SetItem) :=
        match bracketedRepeat (b :: c :: rest) with
        | .error e => .error e
        | .ok (some (r, n, after)) => (readItems fuel after).map (.repeated r n :: ·)
        | .ok none => single
      if !isPlain a 91 then single
      else if isPlain b 58 || isPlain b 61 then
        match closingDelim b.1 (c :: rest) with
        | some (inner, after) =>
          let name := inner.map Prod.fst
          if name.isEmpty then
            .error (if b.1 == 58 then "tr: missing character class name '[::]'\n"
              else "tr: missing equivalence class character '[==]'\n")
          else if b.1 == 58 then
            if (classBytes (Text.byteString name)).isSome then
              (readItems fuel after).map (.named (Text.byteString name) :: ·)
            else if starDigitsClose (c :: rest) then repeated
            else .error ("tr: invalid character class " ++ quote (String.join (name.map printable)) ++ "\n")
          else
            match name with
            | [x] => (readItems fuel after).map (.same x :: ·)
            | _ =>
              if starDigitsClose (c :: rest) then repeated
              else .error ("tr: " ++ String.join (name.map printable) ++
                ": equivalence class operand must be a single character\n")
        | none => repeated
      else repeated
    | _ => .ok (ms.map fun m => .byte m.1)

/-- The bytes of an item, in order; a repeat that fills gets `fill` bytes. -/
def SetItem.bytesWith (fill : Nat) : SetItem → List UInt8
  | .byte b | .same b => [b]
  | .range a b => (List.range (b.toNat - a.toNat + 1)).map fun k => UInt8.ofNat (a.toNat + k)
  | .named n => (classBytes n).getD []
  | .repeated b n => List.replicate (if n == 0 then fill else n) b

/-- Whether an item is a repeat that fills. -/
def SetItem.fills : SetItem → Bool
  | .repeated _ 0 => true
  | _ => false

/-- The case of an item: `upper` or `lower` for those classes, none for others. -/
def SetItem.caseClass : SetItem → Option String
  | .named n => if n == "upper" || n == "lower" then some n else none
  | _ => none

/-- A byte of a set as it is read, with the item it comes from and whether it is the
first byte of that item. -/
structure SetByte where
  byte : UInt8
  item : SetItem
  first : Bool

/-- The bytes of a set's items, each with its item, the repeat that fills getting `fill`
bytes. -/
def setStream (items : List SetItem) (fill : Nat) : List SetByte :=
  items.flatMap fun it => (it.bytesWith fill).zipIdx.map fun (b, k) => ⟨b, it, k == 0⟩

/-- Walks two sets side by side as the translation does, from the starts of items
(`new1`, `new2`): a pair of bytes is mapped, except where the second set starts a case
class, which must meet the start of a case class in the first; there the whole classes
are passed over together, mapping lower case to upper case (or upper to lower) when
they differ. Gives the pairs and case changes in order, or the message of a case class
that does not meet one. -/
def walkPairs : Nat → List SetByte → List SetByte → Bool → Bool →
    Except String (List (Sum (UInt8 × UInt8) (String × String)))
  | 0, _, _, _, _ => .ok []
  | _ + 1, [], _, _, _ => .ok []
  | _ + 1, _, [], _, _ => .ok []
  | fuel + 1, x :: xs, y :: ys, new1, new2 =>
    let class2 := if new2 then y.item.caseClass else none
    let class1 := if new1 then x.item.caseClass else none
    if class2.isSome && class1.isNone then .error "tr: misaligned [:upper:] and/or [:lower:] construct\n"
    else
      match class2, class1 with
      | some c2, some c1 =>
        let rest1 := xs.dropWhile fun b => !b.first
        let rest2 := ys.dropWhile fun b => !b.first
        let step : Sum (UInt8 × UInt8) (String × String) := if c1 == c2 then .inl (x.byte, y.byte) else .inr (c1, c2)
        (walkPairs fuel rest1 rest2 true true).map (step :: ·)
      | _, _ =>
        let nextNew (bs : List SetByte) : Bool := match bs with
          | b :: _ => b.first
          | [] => true
        (walkPairs fuel xs ys (nextNew xs) (nextNew ys)).map (.inl (x.byte, y.byte) :: ·)

/-- The byte a translation table gives for a byte: the last pair or case change that
covers it decides. -/
def translateByte (steps : List (Sum (UInt8 × UInt8) (String × String))) (b : UInt8) : UInt8 :=
  steps.foldl (fun v st => match st with
    | .inl (a, c) => if a == b then c else v
    | .inr (c1, _) =>
      if c1 == "lower" && 97 ≤ b && b ≤ 122 then b - 32
      else if c1 == "upper" && 65 ≤ b && b ≤ 90 then b + 32
      else v) b

/-- Bytes with each run of a byte of `squeezed` cut to one byte. -/
def squeeze (squeezed : List UInt8) : List UInt8 → Option UInt8 → List UInt8
  | [], _ => []
  | b :: rest, last =>
    if last == some b && squeezed.contains b then squeeze squeezed rest last
    else b :: squeeze squeezed rest (some b)

/-- The options of `tr`, which come before its sets. -/
def trSpec : Spec :=
  ⟨"+AcCdst", [⟨"complement", .nothing, 'c'⟩, ⟨"delete", .nothing, 'd'⟩, ⟨"squeeze-repeats", .nothing, 's'⟩,
    ⟨"truncate-set1", .nothing, 't'⟩]⟩

/-- Runs `tr` on standard input once its operands are checked; a closed standard input
cannot be read. -/
def translated (cx : Context) (notes : String) (out : List UInt8) : Outcome :=
  if cx.input.isNone then cx.failWith (notes ++ "tr: read error: Bad file descriptor\n") 1
  else ⟨pieces [(2, bytes notes), (1, out)], 0, cx.workspace, false, some []⟩

/-- The byte that lengthens the second set to the length of the first: the last byte of
its last item, or the last member of a class. -/
def extensionByte : SetItem → UInt8
  | .byte b | .same b | .repeated b _ => b
  | .range _ b => b
  | .named n => ((classBytes n).getD []).getLastD 0

/-- Runs `tr`: reads its sets (the warnings on their escapes come first), checks them
against each other, then deletes, squeezes or translates its input. -/
def tr (cx : Context) (args : List String) : Outcome :=
  match Options.read "tr" trSpec args with
  | .error e => cx.badUsage "tr" e 1
  | .ok o =>
    let delete := o.has 'd'
    let squeezing := o.has 's'
    let complement := o.has 'c' || o.has 'C'
    let truncate := o.has 't'
    let least := if delete == squeezing then 2 else 1
    let most := if delete && !squeezing then 1 else 2
    let n := o.operands.length
    if n = 0 then cx.missingOperand "tr" 1
    else if n < least then
      cx.badUsage "tr" ("tr: missing operand after " ++ quote (o.operands.getLastD "") ++ "\n" ++
        (if squeezing then "Two strings must be given when both deleting and squeezing repeats.\n"
         else "Two strings must be given when translating.\n")) 1
    else if most < n then
      cx.badUsage "tr" ("tr: extra operand " ++ quote (o.operands.getD most "") ++ "\n" ++
        (if n = 2 then "Only one string may be given when deleting without squeezing repeats.\n" else "")) 1
    else
      let text1 := bytes (o.operands.getD 0 "")
      let text2 := bytes (o.operands.getD 1 "")
      let (marked1, notes1) := unescape (text1.length + 1) text1
      match readItems (marked1.length + 1) marked1 with
      | .error e => cx.failWith (notes1 ++ e) 1
      | .ok items1 =>
      let (marked2, notes2) := if n = 2 then unescape (text2.length + 1) text2 else ([], "")
      match readItems (marked2.length + 1) marked2 with
      | .error e => cx.failWith (notes1 ++ notes2 ++ e) 1
      | .ok items2 =>
      let notes := notes1 ++ notes2
      let fail (e : String) : Outcome := cx.failWith (notes ++ e) 1
      let translating := n = 2 && !delete
      let stream1 := setStream items1 0
      let bytes1 := stream1.map (·.byte)
      let all := (List.range 256).map UInt8.ofNat
      let others := all.filter (!bytes1.contains ·)
      let length1 := if complement then others.length else bytes1.length
      let fixed2 := (setStream items2 0).length
      let fills2 := (items2.filter SetItem.fills).length
      let stream2 := setStream items2 (if fills2 == 1 && fixed2 ≤ length1 then length1 - fixed2 else 0)
      let isNamed (it : SetItem) : Bool := it matches .named _
      if items1.any SetItem.fills then fail "tr: the [c*] repeat construct may not appear in string1\n"
      else if fills2 > 1 then fail "tr: only one [c*] repeat construct may appear in string2\n"
      else if !translating then
        if fills2 > 0 then fail "tr: the [c*] construct may appear in string2 only when translating\n"
        else
          let set1 := if complement then others else bytes1
          let input := cx.stdin
          if delete then
            let kept := input.filter (!set1.contains ·)
            translated cx notes (if squeezing then squeeze (stream2.map (·.byte)) kept none else kept)
          else translated cx notes (squeeze set1 input none)
      else if items2.any (· matches .same _) then
        fail "tr: [=c=] expressions may not appear in string2 when translating\n"
      else if items2.any fun it => isNamed it && it.caseClass.isNone then
        fail ("tr: when translating, the only character classes that may appear in\n" ++
          "string2 are 'upper' and 'lower'\n")
      else if !complement && items2.any isNamed && (walkPairs (stream1.length + 1) stream1 stream2 true true).toOption.isNone then
        fail "tr: misaligned [:upper:] and/or [:lower:] construct\n"
      else if length1 > stream2.length && !truncate && stream2.isEmpty then
        fail "tr: when not truncating set1, string2 must be non-empty\n"
      else
        let stream2 := if length1 > stream2.length && !truncate then
            stream2 ++ (List.replicate (length1 - stream2.length) (extensionByte (items2.getLastD (.byte 0)))).map
              fun b => ⟨b, .repeated b 1, false⟩
          else stream2
        let bytes2 := stream2.map (·.byte)
        let same := match bytes2 with
          | b :: rest => rest.all (· == b)
          | [] => false
        if complement && items1.any isNamed && !(bytes2.length == length1 && same) then
          fail ("tr: when translating with complemented character classes,\n" ++
            "string2 must map all characters in the domain to one\n")
        else
          let steps : List (Sum (UInt8 × UInt8) (String × String)) :=
            if complement then (others.zip bytes2).map .inl
            else ((walkPairs (stream1.length + 1) stream1 stream2 true true).toOption).getD []
          let mapped := cx.stdin.map (translateByte steps)
          translated cx notes (if squeezing then squeeze bytes2 mapped none else mapped)

example : (tr ⟨Workspace.prepare [] [] [], [], some (bytes "abc\n"), none, [], false, "tr", false, 0o022⟩ ["-c", "a", "x"]).out = bytes "axxx" := by decide +kernel

end HelpMan.Tools
