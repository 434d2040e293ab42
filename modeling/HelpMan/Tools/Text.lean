import HelpMan.Tools.Basic
import HelpMan.Binary64
import HelpMan.Text.Printable

/-!
# Programs that copy and count text

`cat`, `head`, `tail`, `wc` and `tee`, as the programs of the system behave. Each reads its files
in order (`-`, and no file at all, is standard input), reports a file it cannot read
with its name and the reason, goes on with the others, and fails with status 1 at the
end if one could not be read.

- `cat` may number lines (`-n`, `-b`), squeeze runs of empty lines (`-s`), and show line
  ends, tabs and bytes that do not print (`-E`, `-T`, `-v`).
- `head` and `tail` cut by lines or bytes; a count may carry a multiplier suffix (`k` is
  1024, `kB` 1000, ...), `head` takes a count with `-` as "all but the last", `tail` one
  with `+` as "from this one on". Several files get a header each.
- `wc` counts lines, words, characters, bytes and the longest line; the columns are as
  wide as the digits of the total size of the regular files read, and at least seven
  when standard input is among them.
-/

namespace HelpMan.Tools

/-! ## Counts with multipliers -/

/-- The multiplier a suffix of a count stands for. -/
def suffixValue (s : String) : Option Nat :=
  let powers : List (Char × Nat) :=
    [('K', 1), ('k', 1), ('M', 2), ('m', 2), ('G', 3), ('T', 4), ('P', 5), ('E', 6), ('Z', 7), ('Y', 8), ('R', 9),
     ('Q', 10)]
  match s.toList with
  | [] => some 1
  | ['b'] => some 512
  | [c] => (powers.lookup c).map (Nat.pow 1024)
  | [c, 'B'] => (powers.lookup c).map (Nat.pow 1000)
  | [c, 'i', 'B'] => (powers.lookup c).map (Nat.pow 1024)
  | _ => none

/-- Reads a count: digits and a multiplier suffix. -/
def countOf? (s : String) : Option Nat :=
  let cs := s.toList
  let cs := match cs with
    | '+' :: r => r
    | r => r
  let ds := cs.takeWhile Char.isDigit
  if ds.isEmpty then none
  else (suffixValue (String.ofList (cs.drop ds.length))).map fun m => digitsNat ds * m

example : countOf? "1k" = some 1024 ∧ countOf? "2kB" = some 2000 ∧ countOf? "x" = none := by decide +kernel

/-! ## cat -/

/-- How `cat` shows what it copies. -/
structure CatStyle where
  numberAll : Bool
  numberNonblank : Bool
  squeeze : Bool
  showEnds : Bool
  showTabs : Bool
  showNonprinting : Bool

/-- Where `cat` stands while it copies: the number of the next line, whether it is at the
start of a line, and whether the line before was empty. -/
structure CatState where
  next : Nat
  atStart : Bool
  blankBefore : Bool

/-- A byte shown with `-v`: control characters as `^X`, `127` as `^?`, and bytes from 128
on as `M-` and the byte below 128. -/
def showByte (b : UInt8) : List UInt8 :=
  let low (c : Nat) : List UInt8 :=
    if c < 32 then [94, UInt8.ofNat (c + 64)] else if c == 127 then [94, 63] else [UInt8.ofNat c]
  if b.toNat ≥ 128 then [77, 45] ++ low (b.toNat - 128) else low b.toNat

/-- A line number as `cat` writes it: right-aligned in six columns, then a tab. -/
def lineNumber (n : Nat) : List UInt8 :=
  let s := toString n
  bytes (String.ofList (List.replicate (6 - s.length) ' ') ++ s ++ "\t")

/-- Copies the lines of one file in a style, from a state. -/
def catLines (st : CatStyle) : List (List UInt8) → CatState → List UInt8 × CatState
  | [], s => ([], s)
  | l :: ls, s =>
    let ended := l.getLast? == some 10
    let body := if ended then l.dropLast else l
    let empty := body.isEmpty && ended && s.atStart
    if st.squeeze && empty && s.blankBefore then catLines st ls s
    else
      let numbered := s.atStart && (if st.numberNonblank then !empty else st.numberAll)
      let front := if numbered then lineNumber s.next else []
      let shown := body.flatMap fun b =>
        if b == 9 then (if st.showTabs then [94, 73] else [9])
        else if st.showNonprinting then showByte b else [b]
      let back := if ended then (if st.showEnds then [36, 10] else [10]) else []
      let s' : CatState := ⟨if numbered then s.next + 1 else s.next, ended, if s.atStart then empty else s.blankBefore && body.isEmpty⟩
      let (rest, s'') := catLines st ls s'
      (front ++ shown ++ back ++ rest, s'')

/-- The options of `cat`. -/
def catSpec : Spec :=
  ⟨"AbeEnstTuv", [⟨"show-all", .nothing, 'A'⟩, ⟨"number-nonblank", .nothing, 'b'⟩, ⟨"show-ends", .nothing, 'E'⟩,
    ⟨"number", .nothing, 'n'⟩, ⟨"squeeze-blank", .nothing, 's'⟩, ⟨"show-tabs", .nothing, 'T'⟩,
    ⟨"show-nonprinting", .nothing, 'v'⟩]⟩

/-- The message of a file that cannot be read, by a program that names files as they are
when they need no quotes. -/
def readProblem (name file : String) (f : Fault) : String := name ++ ": " ++ quoteIfNeeded file ++ ": " ++ f.reason ++ "\n"

/-- Runs `cat`; reading a closed standard input fails, and so does closing it at the end. -/
def cat (cx : Context) (args : List String) : Outcome :=
  match Options.read "cat" catSpec args with
  | .error e => cx.badUsage "cat" e 1
  | .ok o =>
    let has (c : Char) := o.has c
    let st : CatStyle := ⟨has 'n', has 'b', has 's', has 'E' || has 'A' || has 'e', has 'T' || has 'A' || has 't',
      has 'v' || has 'A' || has 'e' || has 't'⟩
    let plain := !(st.numberAll || st.numberNonblank || st.squeeze || st.showEnds || st.showTabs || st.showNonprinting)
    let files := if o.operands.isEmpty then ["-"] else o.operands
    let (writes, status, _, left) := files.foldl (fun (writes, status, s, left) f =>
      match cx.readOn left f none with
      | (.ok bs, left) =>
        if plain then (writes ++ [(1, bs)], status, s, left)
        else
          let (shown, s) := catLines st (splitLines 10 bs) s
          (writes ++ [(1, shown)], status, s, left)
      | (.error fault, left) => (writes ++ [(2, bytes (readProblem "cat" f fault))], 1, s, left))
      (([] : List (Nat × List UInt8)), 0, (⟨1, true, false⟩ : CatState), cx.stdin)
    if files.contains "-" && cx.input.isNone then
      ⟨pieces (writes ++ [(2, bytes "cat: closing standard input: Bad file descriptor\n")]), 1, cx.workspace, false, none⟩
    else ⟨pieces writes, status, cx.workspace, false, cx.leftAfter files left⟩

/-! ## head and tail -/

/-- How `head` or `tail` cuts: by lines or bytes, the count, whether the count is taken
from the other end (`head -n -N`, `tail -n +N`), the headers, and the line end. -/
structure Cut where
  lines : Bool
  count : Nat
  fromOtherEnd : Bool
  headers : Option Bool
  lineEnd : UInt8

/-- The largest count that `head` and `tail` read, `2^64 - 1`. -/
def countLimit : Nat := Nat.pow 2 64 - 1

/-- Reads a count of `head` or `tail`, with its sign; the message when it does not read,
which names the count without a leading `-`, and says when it is too large. -/
def Cut.readCount (name : String) (lines : Bool) (text : String) : Except String (Nat × Bool) :=
  let (other, rest) := match text.toList with
    | '-' :: r => (name == "head", String.ofList r)
    | '+' :: r => (name == "tail", String.ofList r)
    | _ => (false, text)
  let shown := if text.startsWith "-" then rest else text
  let problem := name ++ ": invalid number of " ++ (if lines then "lines" else "bytes") ++ ": " ++ quote shown
  match countOf? rest with
  | some n =>
    if n ≤ countLimit then .ok (n, other) else .error (problem ++ ": Value too large for defined data type\n")
  | none => .error (problem ++ "\n")

/-- The options of `head` and `tail`. A digit is an option letter of `tail` only to be
refused outside the old form. -/
def cutSpec (name : String) : Spec :=
  if name == "head" then
    ⟨"c:n:qvz", [⟨"bytes", .required, 'c'⟩, ⟨"lines", .required, 'n'⟩, ⟨"quiet", .nothing, 'q'⟩,
      ⟨"silent", .nothing, 'q'⟩, ⟨"verbose", .nothing, 'v'⟩, ⟨"zero-terminated", .nothing, 'z'⟩]⟩
  else
    ⟨"c:n:fFqs:vz0123456789", [⟨"bytes", .required, 'c'⟩, ⟨"follow", .optional, 'f'⟩, ⟨"lines", .required, 'n'⟩,
      ⟨"max-unchanged-stats", .required, '\x01'⟩, ⟨"-disable-inotify", .nothing, '\x02'⟩,
      ⟨"pid", .required, '\x03'⟩, ⟨"-presume-input-pipe", .nothing, '\x04'⟩, ⟨"quiet", .nothing, 'q'⟩,
      ⟨"retry", .nothing, '\x05'⟩, ⟨"silent", .nothing, 'q'⟩, ⟨"sleep-interval", .required, 's'⟩,
      ⟨"verbose", .nothing, 'v'⟩, ⟨"zero-terminated", .nothing, 'z'⟩]⟩

/-- Whether a text is a whole decimal count, blanks before it allowed, at most `limit`. -/
def decimalAtMost (limit : Nat) (s : String) : Option Bool :=
  let cs := s.toList.dropWhile Binary64.isSpace
  if cs.isEmpty || !cs.all Char.isDigit then none else some (digitsNat cs ≤ limit)

/-- The first problem among the options of `head` or `tail`, as they are met: a count
that does not read, a digit outside the old form, a word of `--follow`, a number of
seconds, a process or a number of checks that does not read. -/
def cutOptionProblem (name : String) : List (Char × Option String) → Option String
  | [] => none
  | (c, v) :: rest =>
    let next := cutOptionProblem name rest
    match c, v with
    | 'n', some t | 'c', some t =>
      match Cut.readCount name (c == 'n') t with
      | .error e => some e
      | .ok _ => next
    | 'f', some w =>
      match argmatch name "--follow" [("descriptor", "descriptor"), ("name", "name")] w with
      | .error e => some e
      | .ok _ => next
    | 's', some t =>
      match Binary64.readPrefix t.toList with
      | some (x, range, []) =>
        if x.negative && x.magnitude != .finite 0 0 || x.magnitude == .nan || (range && x.magnitude == .infinity) then
          some (name ++ ": invalid number of seconds: " ++ quote t ++ "\n")
        else next
      | _ => some (name ++ ": invalid number of seconds: " ++ quote t ++ "\n")
    | '\x03', some t =>
      match decimalAtMost 2147483647 t with
      | some true => next
      | some false => some (name ++ ": invalid PID: " ++ quote t ++ ": Numerical result out of range\n")
      | none => some (name ++ ": invalid PID: " ++ quote t ++ "\n")
    | '\x01', some t =>
      match decimalAtMost (Nat.pow 2 64 - 1) t with
      | some true => next
      | some false => some (name ++ ": invalid maximum number of unchanged stats between opens: " ++ quote t ++
          ": Numerical result out of range\n")
      | none => some (name ++ ": invalid maximum number of unchanged stats between opens: " ++ quote t ++ "\n")
    | d, none => if d.isDigit then some (name ++ ": option used in invalid context -- " ++ d.toString ++ "\n") else next
    | _, _ => next

/-- The warnings of `tail` about options that only matter when following. -/
def followWarnings (o : Options) : String :=
  let following := o.has 'f' || o.has 'F'
  (if (o.has '\x05' || o.has 'F') && !following then
    "tail: warning: --retry ignored; --retry is useful only when following\n" else "") ++
  (if o.has '\x03' && !following then "tail: warning: PID ignored; --pid=PID is useful only when following\n" else "")

/-- The arguments of `head` or `tail` with a first argument `-NUM...` of the old form
written as options. -/
def oldForm (name : String) (args : List String) : Except String (List String) :=
  match args with
  | a :: rest =>
    match a.toList with
    | '-' :: d :: more =>
      if !d.isDigit then .ok args
      else
        let ds := (d :: more).takeWhile Char.isDigit
        let letters := (d :: more).drop ds.length
        let count := String.ofList ds
        let lines := !letters.any fun c => c == 'c' || c == 'b' || c == 'k' || c == 'm'
        let suffix := match letters.find? fun c => c == 'b' || c == 'k' || c == 'm' with
          | some c => c.toString
          | none => ""
        match letters.find? fun c => !"cbklmqvz".toList.contains c with
        | some c => .error (name ++ ": invalid trailing option -- " ++ c.toString ++ "\n")
        | none =>
          let flags := (letters.filter fun c => c == 'q' || c == 'v' || c == 'z').map fun c => "-" ++ c.toString
          .ok ((if lines then ["-n", count] else ["-c", count ++ suffix]) ++ flags ++ rest)
    | _ => .ok args
  | [] => .ok []

/-- The arguments of `tail` with an old-form first argument written as options: `+N`
(from the start) or `-N` (from the end), then `b` (blocks of 512 bytes), `c` (bytes) or
`l` (lines, the default), then `f`; the count is 10 units when no digits are given. The
old form is read only when at most one argument follows it, and that one is no option. -/
def tailOldForm (args : List String) : List String :=
  let single := match args with
    | [_] => true
    | [_, f] => !(f.startsWith "-" && f.length > 1)
    | _ => false
  match args with
  | a :: rest =>
    let signed : Option (Bool × List Char) := match a.toList with
      | '+' :: p => some (true, p)
      | '-' :: 'c' :: [] => none
      | '-' :: [] => none
      | '-' :: p => some (false, p)
      | _ => none
    match signed with
    | some (fromStart, body) =>
      let ds := body.takeWhile Char.isDigit
      let (unit, after) : Char × List Char := match body.drop ds.length with
        | 'b' :: r => ('b', r)
        | 'c' :: r => ('c', r)
        | 'l' :: r => ('l', r)
        | r => ('l', r)
      let after := match after with
        | 'f' :: r => r
        | r => r
      if !single || !after.isEmpty then args
      else
        let count := if ds.isEmpty then (if unit == 'b' then "5120" else "10")
          else String.ofList ds ++ (if unit == 'b' then "b" else "")
        let sign := if fromStart then "+" else ""
        (if unit == 'l' then ["-n", sign ++ count] else ["-c", sign ++ count]) ++ rest
    | none => args
  | [] => []

/-- What `head` or `tail` keeps of some bytes. -/
def Cut.pick (c : Cut) (name : String) (bs : List UInt8) : List UInt8 :=
  if c.lines then
    let ls := splitLines c.lineEnd bs
    let kept := if name == "head" then (if c.fromOtherEnd then ls.take (ls.length - c.count) else ls.take c.count)
      else if c.fromOtherEnd then ls.drop (c.count - 1) else ls.drop (ls.length - c.count)
    kept.flatten
  else if name == "head" then (if c.fromOtherEnd then bs.take (bs.length - c.count) else bs.take c.count)
  else if c.fromOtherEnd then bs.drop (c.count - 1) else bs.drop (bs.length - c.count)

/-- How many bytes `head` takes from standard input that has `bs` left to read, which
comes from a regular file when `regular`. Cutting from the other end reads it all; a
count of bytes reads just those. Lines are read in blocks of 8192 bytes: from a regular
file the part past the last line kept is given back, from a pipe it is not. -/
def Cut.taken (c : Cut) (regular : Bool) (bs : List UInt8) : Nat :=
  if c.fromOtherEnd then bs.length
  else if c.lines then
    let upTo := (c.pick "head" bs).length
    if regular then upTo else min bs.length ((upTo + 8191) / 8192 * 8192)
  else min c.count bs.length

/-- Runs `head` or `tail`. -/
def cut (name : String) (cx : Context) (args : List String) : Outcome :=
  let args? : Except String (List String) :=
    if name == "head" then oldForm name args else .ok (tailOldForm args)
  match args? with
  | .error e => cx.badUsage name e 1
  | .ok args =>
  let (o, problem) := Options.readSoFar name (cutSpec name) (args.length + 1) args ⟨[], []⟩
  match cutOptionProblem name o.given, problem with
  | some e, _ => cx.failWith e 1
  | none, some e => cx.badUsage name e 1
  | none, none =>
    let lastCount := (o.given.filter fun (c, _) => c == 'n' || c == 'c').getLast?
    let lines := (lastCount.map (·.1)) != some 'c'
    let countText := (lastCount.bind (·.2)).getD "10"
    let warnings := if name == "tail" then followWarnings o else ""
    match Cut.readCount name lines countText with
    | .error e => cx.failWith e 1
    | .ok (count, other) =>
      let headers := ((o.given.filter fun (c, _) => c == 'q' || c == 'v').getLast?).map (·.1 == 'v')
      let c : Cut := ⟨lines, count, other, headers, if o.has 'z' then 0 else 10⟩
      let files := if o.operands.isEmpty then ["-"] else o.operands
      let shown := c.headers.getD (files.length > 1)
      let (writes, status, _, left) := files.foldl (fun (writes, status, first, left) f =>
        let header := if shown then
            bytes ((if first then "" else "\n") ++ "==> " ++ (if f == "-" then "standard input" else f) ++ " <==\n")
          else []
        let (read, left) : Except Fault (List UInt8) × List UInt8 :=
          if Context.isStdin f && cx.input.isSome then
            if cx.inputIsDirectory then (.error .isDir, left)
            else (.ok left, left.drop (if name == "head" then c.taken cx.inputSize.isSome left else left.length))
          else (cx.readUpTo f (if name == "head" && !c.lines && !c.fromOtherEnd then some c.count else none), left)
        match read with
        | .ok bs => (writes ++ [(1, header ++ c.pick name bs)], status, false, left)
        | .error .badDescriptor =>
          let what := if name == "head" then "error reading " else "cannot fstat "
          (writes ++ [(1, header), (2, bytes (name ++ ": " ++ what ++ quoteAlways "standard input" ++
            ": Bad file descriptor\n"))], 1, false, left)
        | .error .isDir =>
          (writes ++ [(1, header), (2, bytes (name ++ ": error reading " ++
            quoteAlways (if f == "-" then "standard input" else f) ++ ": Is a directory\n"))], 1,
            false, left)
        | .error fault =>
          (writes ++ [(2, bytes (name ++ ": cannot open " ++ quoteAlways f ++ " for reading: " ++ fault.reason ++ "\n"))],
            1, first, left))
        (([(2, bytes warnings)] : List (Nat × List UInt8)), 0, true, cx.stdin)
      if files.contains "-" && cx.input.isNone then
        ⟨pieces (writes ++ [(2, bytes (name ++ ": -: Bad file descriptor\n"))]), 1, cx.workspace, false, none⟩
      else ⟨pieces writes, status, cx.workspace, false, cx.leftAfter files left⟩

/-! ## wc -/

/-- Whether a character separates words: white space, ASCII or of Unicode's spaces. -/
def isWordBreak (c : Char) : Bool :=
  let n := c.toNat
  c == ' ' || (9 ≤ n && n ≤ 13) || n == 0x1680 || (0x2000 ≤ n && n ≤ 0x2006) || (0x2008 ≤ n && n ≤ 0x200A) ||
    n == 0x2028 || n == 0x2029 || n == 0x205F || n == 0x3000

/-- What `wc` has counted so far: words, whether a word is open, the column on the line
and the widest line. -/
structure Tally where
  words : Nat := 0
  inWord : Bool := false
  column : Nat := 0
  widest : Nat := 0

/-- The tally after a character: a line end, carriage return or form feed ends the line,
a tab goes on to the next multiple of eight, and these, the space and the vertical tab
end a word; a printable character takes its columns and is in a word; any other
character does nothing. -/
def Tally.add (t : Tally) (c : Char) : Tally :=
  let ended : Tally := { t with words := t.words + (if t.inWord then 1 else 0), inWord := false }
  if c == '\n' || c == '\r' || c == '\x0c' then { ended with column := 0, widest := max t.widest t.column }
  else if c == '\t' then { ended with column := t.column + 8 - t.column % 8 }
  else if c == ' ' then { ended with column := t.column + 1 }
  else if c == '\x0b' then ended
  else if Text.isPrintable c then { t with column := t.column + Text.columnWidth c, inWord := true }
  else t

/-- The counts of `wc` for some bytes: lines, words, characters, bytes and the length of
the longest line. A byte where no character starts is no character and does nothing. -/
def counts (bs : List UInt8) : List Nat :=
  let cs := (Text.decodeMarked bs).filterMap id
  let t := cs.foldl Tally.add {}
  [(bs.filter (· == 10)).length, t.words + (if t.inWord then 1 else 0), cs.length, bs.length,
    max t.widest t.column]

example : counts (bytes "a b\n\tc") = [1, 3, 6, 6, 9] ∧ counts [0xFF, 0xFE, 32, 97, 10] = [1, 1, 3, 5, 2] := by
  decide +kernel

/-- A number right-aligned in a width. -/
def padLeft (width : Nat) (n : Nat) : String :=
  let s := toString n
  String.ofList (List.replicate (width - s.length) ' ') ++ s

/-- The options of `wc`. -/
def wcSpec : Spec :=
  ⟨"clLmw", [⟨"bytes", .nothing, 'c'⟩, ⟨"chars", .nothing, 'm'⟩, ⟨"lines", .nothing, 'l'⟩,
    ⟨"max-line-length", .nothing, 'L'⟩, ⟨"words", .nothing, 'w'⟩]⟩

/-- Runs `wc`: for each input its chosen counts, aligned, and its name; a total after
several. -/
def wc (cx : Context) (args : List String) : Outcome :=
  match Options.read "wc" wcSpec args with
  | .error e => cx.badUsage "wc" e 1
  | .ok o =>
    let chosen := if ['c', 'm', 'l', 'L', 'w'].any o.has then
        ([('l', 0), ('w', 1), ('m', 2), ('c', 3), ('L', 4)].filter fun (c, _) => o.has c).map Prod.snd
      else [0, 1, 3]
    let named := !o.operands.isEmpty
    let files := if named then o.operands else ["-"]
    let (results, left) := files.foldl (fun (results, left) f =>
      let (r, left) := cx.readOn left f none
      (results ++ [(f, r)], left)) (([] : List (String × Except Fault (List UInt8))), cx.stdin)
    -- what the status of each input tells: nothing when it cannot be had, else the size
    -- of a regular file, or none for anything else
    let status (f : String) : Option (Option Nat) :=
      if f == "-" then cx.input.map fun _ => cx.inputSize
      else match cx.kindOf? f with
        | some .file => some (some ((cx.readFile f).toOption.getD []).length)
        | some _ => some none
        | none => none
    let statuses := files.filterMap status
    let regular := statuses.foldl (fun n st => n + st.getD 0) 0
    let minimum := if statuses.any Option.isNone then 7 else 1
    let width := if chosen.length == 1 && files.length == 1 then 1 else max minimum (toString regular).length
    let row (cs : List Nat) (label : String) : String :=
      " ".intercalate (chosen.map fun i => padLeft width (cs.getD i 0)) ++ (if label.isEmpty then "" else " " ++ label) ++ "\n"
    let (writes, status, total) := results.foldl (fun (writes, status, total) (f, r) =>
      let label := if named then f else ""
      let unread (message : String) : List (Nat × List UInt8) :=
        [(2, bytes message), (1, bytes (row [0, 0, 0, 0, 0] label))]
      match r with
      | .ok bs =>
        let cs := counts bs
        let total := (List.zipWith (· + ·) total cs).set 4 (max (total.getD 4 0) (cs.getD 4 0))
        (writes ++ [(1, bytes (row cs label))], status, total)
      | .error .isDir => (writes ++ unread ("wc: " ++ quoteIfNeeded f ++ ": Is a directory\n"), 1, total)
      | .error .badDescriptor =>
        (writes ++ unread ("wc: " ++ quoteIfNeeded (if named then f else "standard input") ++ ": Bad file descriptor\n"),
          1, total)
      | .error fault => (writes ++ [(2, bytes (readProblem "wc" f fault))], 1, total))
      (([] : List (Nat × List UInt8)), 0, [0, 0, 0, 0, 0])
    let writes := if files.length > 1 then writes ++ [(1, bytes (row total "total"))] else writes
    if files.contains "-" && cx.input.isNone then
      ⟨pieces (writes ++ [(2, bytes "wc: -: Bad file descriptor\n")]), 1, cx.workspace, false, none⟩
    else ⟨pieces writes, status, cx.workspace, false, cx.leftAfter files left⟩

/-! ## tee -/

/-- The options of `tee`. -/
def teeSpec : Spec :=
  ⟨"aip", [⟨"append", .nothing, 'a'⟩, ⟨"ignore-interrupts", .nothing, 'i'⟩, ⟨"output-error", .optional, 'p'⟩]⟩

/-- Runs `tee`: opens each file, replacing its content or adding to it with `-a`, then
copies standard input to standard output and to the files; `-` is a file like any other.
A file that cannot be opened is reported first; writing to `/dev/full` fails after the
output, when there is something to write. -/
def tee (cx : Context) (args : List String) : Outcome :=
  match Options.read "tee" teeSpec args with
  | .error e => cx.badUsage "tee" e 1
  | .ok o =>
    let append := o.has 'a'
    let full (f : String) : Bool := match cx.find f with
      | .present loc _ => loc == ["dev", "full"]
      | _ => false
    let (ws, err, status) := o.operands.foldl (fun (ws, err, status) f =>
      let ws := match ws.openAt cx.cwd (Text.ofByteString f) with
        | .ok (some loc) => ws.createFile loc cx.umask
        | _ => ws
      match ws.writeAt cx.cwd (Text.ofByteString f) cx.stdin append with
      | .ok ws => (ws, err, status)
      | .error fault => (ws, err ++ readProblem "tee" f fault, 1)) (cx.workspace, "", 0)
    match cx.input with
    | some input =>
      let late := if input.isEmpty then [] else o.operands.filter full
      let lateErr := String.join (late.map fun f => "tee: " ++ quoteIfNeeded f ++ ": No space left on device\n")
      ⟨pieces [(2, bytes err), (1, input), (2, bytes lateErr)], if late.isEmpty then status else 1, ws, false, some []⟩
    | none => ⟨pieces [(2, bytes (err ++ "tee: read error: Bad file descriptor\n"))], 1, ws, false, none⟩

end HelpMan.Tools
