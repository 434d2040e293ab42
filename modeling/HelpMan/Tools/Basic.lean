import HelpMan.Workspace
import HelpMan.Text.Utf8

/-!
# Programs of the system: what they are given and what they leave

The programs of `/usr/bin` that scripts call are functions of a `Context` (the file
system, the current directory, the bytes on standard input, the environment) and their
arguments, to an `Outcome` (the bytes written to standard output and standard error,
the status, and the file system after them). Arguments and paths are byte strings
(`Text.byteString`): one character per byte.

- `Options.read` reads options as the programs of the system read them: letters after `-` in
  clusters, long names after `--` (any unambiguous prefix will do) with their arguments
  after `=` or in the next word, options and operands in any order unless the
  specification starts with `+`, and `--` ending the options.
- `quote`, `quoteAlways` and `quoteIfNeeded` quote names in messages: `‘name’`, and in
  the shell's quotes `'name'`, always or only when the name holds a character that the
  shell would take specially.
-/

namespace HelpMan.Tools

/-- The bytes of a byte string. -/
def bytes (s : String) : List UInt8 := Text.rawBytes s

/-- What a program of the system is given. -/
structure Context where
  workspace : Workspace
  cwd : Location
  /-- The bytes on standard input; `none` when it is closed. -/
  input : Option (List UInt8)
  /-- The size of the regular file standard input reads from, if it reads from one. -/
  inputSize : Option Nat
  /-- The environment, as byte strings. -/
  env : List (String × String)
  /-- Whether an interruption comes once the file `started` exists. -/
  interrupt : Bool
  /-- The name the program was invoked by, such as its path: its messages call it so. -/
  program : String
  /-- Whether standard input is a directory opened for reading, which cannot be read. -/
  inputIsDirectory : Bool
  /-- The mode bits that new files and directories do not get. -/
  umask : Nat

/-- What a program of the system leaves. -/
structure Outcome where
  /-- What the program wrote, in order: each piece to standard output (1) or standard
  error (2). -/
  writes : List (Nat × List UInt8)
  status : Nat
  workspace : Workspace
  /-- Whether the program was stopped from outside. -/
  stopped : Bool
  /-- What standard input has left to read after the program, when the program read from
  it; `none` when it did not. -/
  unread : Option (List UInt8)

/-- The pieces written to a descriptor, without the empty ones. -/
def pieces (writes : List (Nat × List UInt8)) : List (Nat × List UInt8) := writes.filter (!·.2.isEmpty)

/-- An outcome that writes to standard output, then to standard error. -/
def Outcome.of (out err : List UInt8) (status : Nat) (ws : Workspace) : Outcome :=
  ⟨pieces [(1, out), (2, err)], status, ws, false, none⟩

/-- What a program wrote to standard output. -/
def Outcome.out (o : Outcome) : List UInt8 := (o.writes.filter (·.1 == 1)).flatMap Prod.snd

/-- What a program wrote to standard error. -/
def Outcome.err (o : Outcome) : List UInt8 := (o.writes.filter (·.1 == 2)).flatMap Prod.snd

/-- The size of the buffer in which a program gathers what it writes to standard output. -/
def blockSize : Nat := 4096

/-- One write of a program that buffers its standard output, after the writes so far
left `sent` on their way and `held` in the buffer. A message empties the buffer before it
goes out; a piece for standard output that fits in the buffer stays there; one that does
not fills the buffer, which goes out, and then as many whole blocks as it holds go out
with it, the rest staying behind. -/
def bufferStep (acc : List (Nat × List UInt8) × List UInt8) (w : Nat × List UInt8) :
    List (Nat × List UInt8) × List UInt8 :=
  let (sent, held) := acc
  if w.1 != 1 then (sent ++ [(1, held), w], [])
  else if held.length + w.2.length ≤ blockSize then (sent, held ++ w.2)
  else
    let room := blockSize - held.length
    let rest := w.2.drop room
    let whole := rest.length - rest.length % blockSize
    (sent ++ [(1, held ++ w.2.take room ++ rest.take whole)], rest.drop whole)

/-- The order in which a program's writes arrive when it buffers its standard output, as
the programs of the system do when it is a pipe or a file: what goes to standard error
arrives at once, after what the buffer held; what goes to standard output a block at a
time as the buffer fills, and the rest when the program ends. -/
def buffered (writes : List (Nat × List UInt8)) : List (Nat × List UInt8) :=
  let (sent, held) := writes.foldl bufferStep ([], [])
  pieces (sent ++ [(1, held)])

example : buffered [(1, [97]), (2, [98]), (1, [99])] = [(1, [97]), (2, [98]), (1, [99])] := by decide

/-- A line of a message with the program's name put in: the name that starts it, and the
one in the hint to ask for help. -/
def renameLine (name invoked : String) (line : String) : String :=
  let line := if line.startsWith (name ++ ": ") then invoked ++ ": " ++ (line.drop (name.length + 2)).toString
    else line
  line.replace ("Try '" ++ name ++ " --help'") ("Try '" ++ invoked ++ " --help'")

/-- Messages of a program with its name put in each line. -/
def renamed (name invoked : String) (text : String) : String :=
  if name == invoked then text else "\n".intercalate ((text.splitOn "\n").map (renameLine name invoked))

/-- The outcome of a program invoked by another name than its own, such as its path: its
messages call it by that name. -/
def Outcome.calledAs (o : Outcome) (name invoked : String) : Outcome :=
  if name == invoked then o
  else
    let rename (bs : List UInt8) : List UInt8 := bytes (renamed name invoked (Text.byteString bs))
    { o with writes := o.writes.map fun (fd, bs) => if fd == 2 then (fd, rename bs) else (fd, bs) }

namespace Context

/-- Where a path (a byte string) leads from the current directory. -/
def find (cx : Context) (p : String) : Found := cx.workspace.find cx.cwd (Text.ofByteString p)

/-- The kind of what a path names, if anything. -/
def kindOf? (cx : Context) (p : String) : Option Kind := cx.workspace.kindOf? cx.cwd (Text.ofByteString p)

/-- The bytes on standard input, none when it is closed. -/
def stdin (cx : Context) : List UInt8 := cx.input.getD []

/-- Whether a file operand names standard input: `-`, or the device `/dev/stdin`. -/
def isStdin (p : String) : Bool := p == "-" || p == "/dev/stdin"

/-- The bytes of the file a path names; `-` and `/dev/stdin` are standard input. -/
def readFile (cx : Context) (p : String) : Except Fault (List UInt8) :=
  if isStdin p then (match cx.input with
    | some bs => if cx.inputIsDirectory then .error .isDir else .ok bs
    | none => .error .badDescriptor)
  else cx.workspace.readAt cx.cwd (Text.ofByteString p)

/-- The first bytes of the file a path names, at most `limit` of them when there is a
limit: the devices `/dev/zero` and `/dev/full` give as many zero bytes as asked for, and
none when no limit is set. -/
def readUpTo (cx : Context) (p : String) (limit : Option Nat) : Except Fault (List UInt8) :=
  match cx.find p with
  | .present loc .device =>
    if loc == ["dev", "zero"] || loc == ["dev", "full"] then .ok (List.replicate (limit.getD 0) 0) else .ok []
  | _ => (cx.readFile p).map fun bs => (limit.map bs.take).getD bs

/-- Reads the file a path names, when standard input has `left` to read: standard input
gives all that is left of it. Gives the bytes read and what standard input then has left;
at most `limit` bytes are read from a file. -/
def readOn (cx : Context) (left : List UInt8) (p : String) (limit : Option Nat) :
    Except Fault (List UInt8) × List UInt8 :=
  if isStdin p then
    if cx.input.isSome then (if cx.inputIsDirectory then (.error .isDir, left) else (.ok left, []))
    else (.error .badDescriptor, left)
  else (cx.readUpTo p limit, left)

/-- What standard input has left after a program read its files, when one of them is
standard input and standard input is open. -/
def leftAfter (cx : Context) (files : List String) (left : List UInt8) : Option (List UInt8) :=
  if files.any isStdin && cx.input.isSome then some left else none

/-- The value of a variable of the environment. -/
def getenv (cx : Context) (n : String) : Option String := (cx.env.find? (·.1 == n)).map Prod.snd

/-- An outcome that writes bytes to standard output and changes nothing else. -/
def done (cx : Context) (out : List UInt8) : Outcome := Outcome.of out [] 0 cx.workspace

/-- An outcome that writes a message to standard error. -/
def failWith (cx : Context) (err : String) (status : Nat) : Outcome := Outcome.of [] (bytes err) status cx.workspace

end Context

/-! ## Quoting -/

/-- The left and right quotation marks of the messages, as UTF-8 byte strings. -/
def leftQuote : String := Text.utf8Bytes "‘"

/-- The right quotation mark of the messages. -/
def rightQuote : String := Text.utf8Bytes "’"

/-- A byte below 32 or 127 written as a C escape: a letter for the common ones, three
octal digits for the others. -/
def controlEscape (c : Char) : String :=
  match c with
  | '\x07' => "\\a"
  | '\x08' => "\\b"
  | '\x0c' => "\\f"
  | '\n' => "\\n"
  | '\r' => "\\r"
  | '\t' => "\\t"
  | '\x0b' => "\\v"
  | _ =>
    let n := c.toNat
    String.ofList ['\\', Char.ofNat (48 + n / 64), Char.ofNat (48 + n / 8 % 8), Char.ofNat (48 + n % 8)]

/-- Whether a byte is a control character. -/
def isControl (c : Char) : Bool := c.toNat < 32 || c.toNat == 127

/-- A name between the quotation marks of the messages, `‘name’`, with backslashes and
control characters written as C escapes. -/
def quote (s : String) : String :=
  leftQuote ++ String.join (s.toList.map fun c =>
    if c == '\\' then "\\\\" else if isControl c then controlEscape c else c.toString) ++ rightQuote

/-- Whether a character of a name, at place `i`, stands in double quotes as it is for the
shell and for C alike: letters, digits, blanks and the marks neither takes specially there;
`#` and `~` only at the start, a brace only alone. -/
def plainInDouble (whole : List Char) (i : Nat) (c : Char) : Bool :=
  c.isAlphanum || "%+,-./:]_@ '".toList.contains c || c.toNat ≥ 128 ||
    ((c == '#' || c == '~') && i == 0) || ((c == '{' || c == '}') && whole.length == 1)

/-- A name quoted so that the shell reads it back: in double quotes when it holds a single
quote and nothing else that needs them; otherwise in single quotes, a single quote inside
written `'\\''`. With `escape` each run of control characters is written between `$'`
and `'` as C escapes, outside the single quotes; without it they stand as they are. -/
def quoteShell (escape : Bool) (s : String) : String :=
  let cs := s.toList
  if cs.contains '\'' && (cs.zipIdx.all fun (c, i) => plainInDouble cs i c) then "\"" ++ s ++ "\""
  else
    let (out, _) := cs.foldl (fun (out, escaping) c =>
      if escape && isControl c then (out ++ (if escaping then "" else "'$'") ++ controlEscape c, true)
      else (out ++ (if escaping then "''" else "") ++ (if c == '\'' then "'\\''" else c.toString), false))
      ("'", false)
    out ++ "'"

/-- A name quoted as the messages of the programs quote it: as `quoteShell` does, with
control characters escaped. -/
def quoteAlways (s : String) : String := quoteShell true s

/-- The characters that the shell takes specially anywhere in a word. -/
def shellSpecial : List Char :=
  [' ', '\t', '\n', '!', '"', '$', '&', '\'', '(', ')', '*', ';', '<', '=', '>', '?', '[', '\\', '^', '`', '|']

/-- A name as it is, or quoted by `quoteShell` when it is empty or holds a character that
the shell takes specially (`#` and `~` only at its start, control characters anywhere). -/
def quoteIfNeededWith (escape : Bool) (s : String) : String :=
  let needs := s.isEmpty || s.toList.any (fun c => shellSpecial.contains c || isControl c) ||
    s.startsWith "#" || s.startsWith "~"
  if needs then quoteShell escape s else s

/-- A name as it is, or quoted as the messages of the programs quote it when it needs it. -/
def quoteIfNeeded (s : String) : String := quoteIfNeededWith true s

example : quoteIfNeeded "data.txt" = "data.txt" ∧ quoteIfNeeded "a b" = "'a b'" ∧
    quoteAlways "it's" = "\"it's\"" ∧ quoteAlways "a'b$" = "'a'\\''b$'" ∧
    quoteAlways "\nx" = "''$'\\n''x'" := by decide +kernel

/-! ## Options -/

/-- Whether a long option takes an argument. -/
inductive Takes where
  | nothing
  | required
  | optional
  deriving DecidableEq, Repr

/-- A long option: its name, whether it takes an argument, and the letter it stands for. -/
structure LongOption where
  name : String
  takes : Takes
  key : Char

/-- What the options of a program are: the letters (a letter followed by `:` takes an
argument; a leading `+` stops at the first operand) and the long options. -/
structure Spec where
  letters : String
  longs : List LongOption := []

/-- Options read: each with its argument, in order, and the operands in order. -/
structure Options where
  given : List (Char × Option String)
  operands : List String

namespace Options

/-- Whether an option was given. -/
def has (o : Options) (c : Char) : Bool := o.given.any (·.1 == c)

/-- The argument of the last time an option was given. -/
def last? (o : Options) (c : Char) : Option String :=
  ((o.given.filter (·.1 == c)).getLast?).bind Prod.snd

/-- The arguments of every time an option was given. -/
def all (o : Options) (c : Char) : List String := (o.given.filter (·.1 == c)).filterMap Prod.snd

/-- How an option letter of a specification takes its argument. -/
def letterTakes (letters : List Char) (c : Char) : Option Takes :=
  match letters.dropWhile (· != c) with
  | _ :: ':' :: ':' :: _ => some .optional
  | _ :: ':' :: _ => some .required
  | _ :: _ => some .nothing
  | [] => none

/-- Reads a cluster of option letters after `-`, up to the first problem: the options read,
the arguments after the cluster, and the message of the problem if there is one. -/
def clusterSoFar (name : String) (letters : List Char) : List Char → List String → List (Char × Option String) →
    List (Char × Option String) × List String × Option String
  | [], rest, got => (got, rest, none)
  | c :: cs, rest, got =>
    match (if c == ':' || c == '+' then none else letterTakes letters c) with
    | none => (got, rest, some (name ++ ": invalid option -- '" ++ c.toString ++ "'\n"))
    | some .nothing => clusterSoFar name letters cs rest (got ++ [(c, none)])
    | some .optional => (got ++ [(c, if cs.isEmpty then none else some (String.ofList cs))], rest, none)
    | some .required =>
      if !cs.isEmpty then (got ++ [(c, some (String.ofList cs))], rest, none)
      else
        match rest with
        | a :: more => (got ++ [(c, some a)], more, none)
        | [] => (got, rest, some (name ++ ": option requires an argument -- '" ++ c.toString ++ "'\n"))

/-- Reads a cluster of option letters after `-`. -/
def cluster (name : String) (letters : List Char) (cs : List Char) (rest : List String)
    (got : List (Char × Option String)) : Except String (List (Char × Option String) × List String) :=
  match clusterSoFar name letters cs rest got with
  | (got, rest, none) => .ok (got, rest)
  | (_, _, some e) => .error e

/-- Reads a long option after `--`: its name (or a prefix of only one name, or of names
of the same option) and its argument. -/
def long (name : String) (longs : List LongOption) (text : String) (rest : List String) :
    Except String ((Char × Option String) × List String) :=
  let cs := text.toList
  let typed := String.ofList (cs.takeWhile (· != '='))
  let value : Option String := if cs.contains '=' then some (String.ofList ((cs.dropWhile (· != '=')).drop 1)) else none
  let exact := longs.find? (·.name == typed)
  let candidates := longs.filter (·.name.startsWith typed)
  let chosen : Except String LongOption := match exact with
    | some o => .ok o
    | none =>
      match candidates with
      | [] => .error (name ++ ": unrecognized option '--" ++ text ++ "'\n")
      | o :: more =>
        if more.all (fun p => p.key == o.key && p.takes == o.takes) then .ok o
        else
          .error (name ++ ": option '--" ++ typed ++ "' is ambiguous; possibilities:" ++
            String.join (candidates.map fun p => " '--" ++ p.name ++ "'") ++ "\n")
  match chosen with
  | .error e => .error e
  | .ok o =>
    match o.takes, value with
    | .nothing, some _ => .error (name ++ ": option '--" ++ o.name ++ "' doesn't allow an argument\n")
    | .nothing, none => .ok ((o.key, none), rest)
    | .optional, v => .ok ((o.key, v), rest)
    | .required, some v => .ok ((o.key, some v), rest)
    | .required, none =>
      match rest with
      | a :: more => .ok ((o.key, some a), more)
      | [] => .error (name ++ ": option '--" ++ o.name ++ "' requires an argument\n")

/-- Reads options and operands, options first; a message on standard error for an option
that is not known or misses its argument. -/
def readFrom (name : String) (spec : Spec) : Nat → List String → Options → Except String Options
  | 0, args, o => .ok { o with operands := o.operands ++ args }
  | _ + 1, [], o => .ok o
  | fuel + 1, a :: rest, o =>
    let inOrder := spec.letters.startsWith "+"
    if a == "--" then .ok { o with operands := o.operands ++ rest }
    else
      match a.toList with
      | '-' :: '-' :: cs => do
        let (g, rest) ← long name spec.longs (String.ofList cs) rest
        readFrom name spec fuel rest { o with given := o.given ++ [g] }
      | '-' :: c :: cs => do
        let (given, rest) ← cluster name spec.letters.toList (c :: cs) rest o.given
        readFrom name spec fuel rest { o with given := given }
      | _ =>
        if inOrder then .ok { o with operands := o.operands ++ a :: rest }
        else readFrom name spec fuel rest { o with operands := o.operands ++ [a] }

/-- Reads the options and operands of a program's arguments. -/
def read (name : String) (spec : Spec) (args : List String) : Except String Options :=
  readFrom name spec (args.length + 1) args ⟨[], []⟩

/-- Reads options and operands as `readFrom` does, up to the first problem: what was read
before it, and its message if there is one. A program that acts on each option as it
meets it acts on those before the problem first. -/
def readSoFar (name : String) (spec : Spec) : Nat → List String → Options → Options × Option String
  | 0, args, o => ({ o with operands := o.operands ++ args }, none)
  | _ + 1, [], o => (o, none)
  | fuel + 1, a :: rest, o =>
    let inOrder := spec.letters.startsWith "+"
    if a == "--" then ({ o with operands := o.operands ++ rest }, none)
    else
      match a.toList with
      | '-' :: '-' :: cs =>
        match long name spec.longs (String.ofList cs) rest with
        | .ok (g, rest) => readSoFar name spec fuel rest { o with given := o.given ++ [g] }
        | .error e => (o, some e)
      | '-' :: c :: cs =>
        match clusterSoFar name spec.letters.toList (c :: cs) rest o.given with
        | (given, rest, none) => readSoFar name spec fuel rest { o with given := given }
        | (given, _, some e) => ({ o with given := given }, some e)
      | _ =>
        if inOrder then ({ o with operands := o.operands ++ a :: rest }, none)
        else readSoFar name spec fuel rest { o with operands := o.operands ++ [a] }

end Options

/-- What a program that changes files, and may ask before it does, has done so far. -/
structure Progress where
  workspace : Workspace
  /-- What it wrote, in order, to standard output (1) and standard error (2). -/
  writes : List (Nat × List UInt8) := []
  failed : Bool := false
  /-- What standard input has left after the answers read. -/
  left : List UInt8
  /-- How many bytes of standard input the answers took. -/
  taken : Nat := 0
  /-- Whether it asked anything. -/
  asked : Bool := false

namespace Progress

/-- Writes a message on standard error for something that failed. -/
def fail (r : Progress) (message : String) : Progress :=
  { r with writes := r.writes ++ [(2, bytes message)], failed := true }

/-- Writes a line on standard output. -/
def say (r : Progress) (line : String) : Progress :=
  { r with writes := r.writes ++ [(1, bytes line)] }

/-- Asks a question on standard error and reads the answer, a line of standard input: yes
when it starts with `y` or `Y`, no at the end of the input. -/
def ask (r : Progress) (question : String) : Bool × Progress :=
  let line := r.left.takeWhile (· != 10)
  let used := min r.left.length (line.length + 1)
  (line.head? == some 121 || line.head? == some 89,
   { r with writes := r.writes ++ [(2, bytes question)], left := r.left.drop used, taken := r.taken + used,
            asked := true })

/-- What standard input has left after the answers: past the lines read when it comes
from a regular file, past the blocks of 4096 bytes they were read in from a pipe;
`none` when nothing was asked. -/
def unread (r : Progress) (input : List UInt8) (regular : Bool) : Option (List UInt8) :=
  if !r.asked then none
  else if regular then some r.left
  else some (input.drop ((r.taken + 4095) / 4096 * 4096))

/-- The outcome of a program that ran from a context: status 1 when something failed. -/
def finish (r : Progress) (cx : Context) : Outcome :=
  ⟨pieces r.writes, if r.failed then 1 else 0, r.workspace, false, r.unread cx.stdin cx.inputSize.isSome⟩

end Progress

/-- Names in the order of their bytes. -/
def sortNames (names : List String) : List String := names.mergeSort fun a b => !(b < a)

/-- A path and a name in it, with one `/` between them. -/
def joinPath (dir name : String) : String := if dir.endsWith "/" then dir ++ name else dir ++ "/" ++ name

/-- The line that points to a program's help. -/
def tryHelp (name : String) : String := "Try '" ++ name ++ " --help' for more information.\n"

/-- The list of the words an option takes, as a message shows it: words that stand for
the same on one line. -/
def validChoices (choices : List (String × String)) : String :=
  let step (acc : String × Option String) (c : String × String) : String × Option String :=
    let (out, last) := acc
    if last == some c.2 then (out ++ ", " ++ quote c.1, last) else (out ++ "\n  - " ++ quote c.1, some c.2)
  "Valid arguments are:" ++ (choices.foldl step ("", none)).1 ++ "\n"

/-- The word a program's option with a choice was given, as what it stands for: the word
itself, or the one thing that the words it starts stand for; the message, with the valid
words, when it names nothing or names several things. -/
def argmatch (name option : String) (choices : List (String × String)) (word : String) : Except String String :=
  let problem (what : String) : String :=
    name ++ ": " ++ what ++ " argument " ++ quote word ++ " for " ++ quote option ++ "\n" ++
      validChoices choices ++ tryHelp name
  match choices.find? (·.1 == word) with
  | some c => .ok c.2
  | none =>
    match (choices.filter (·.1.startsWith word)).map (·.2) with
    | [] => .error (problem "invalid")
    | v :: vs => if vs.any (· != v) then .error (problem "ambiguous") else .ok v

/-- The outcome of a program's options that do not read: the message and the line that
points to its help. -/
def Context.badUsage (cx : Context) (name message : String) (status : Nat) : Outcome :=
  cx.failWith (message ++ tryHelp name) status

/-- The outcome of a missing operand. -/
def Context.missingOperand (cx : Context) (name : String) (status : Nat) : Outcome :=
  cx.badUsage name (name ++ ": missing operand\n") status

/-- The outcome of an operand too many. -/
def Context.extraOperand (cx : Context) (name operand : String) (status : Nat) : Outcome :=
  cx.badUsage name (name ++ ": extra operand " ++ quote operand ++ "\n") status

/-- The number that decimal digits spell. -/
def digitsNat (ds : List Char) : Nat := ds.foldl (fun n c => n * 10 + (c.toNat - 48)) 0

/-! ## Counts -/

/-- What is wrong with a count that does not read. -/
inductive CountProblem where
  /-- No number at all. -/
  | invalid
  /-- Something after the number that is no multiplier. -/
  | suffix
  /-- More than `2^64 - 1`. -/
  | tooLarge
  deriving DecidableEq, Repr

/-- The message about the argument of an option (such as `-j`) that does not read as a
count. -/
def CountProblem.message (p : CountProblem) (option arg : String) : String :=
  match p with
  | .invalid => "invalid " ++ option ++ " argument '" ++ arg ++ "'"
  | .suffix => "invalid suffix in " ++ option ++ " argument '" ++ arg ++ "'"
  | .tooLarge => option ++ " argument '" ++ arg ++ "' too large"

/-- The value of a digit in a base, if it is one. -/
def digitIn (base : Nat) (c : Char) : Option Nat :=
  let v := if c.isDigit then some (c.toNat - 48)
    else if 'a' ≤ c && c ≤ 'z' then some (c.toNat - 87)
    else if 'A' ≤ c && c ≤ 'Z' then some (c.toNat - 55)
    else none
  v.filter (· < base)

/-- The power of the base that a multiplier letter stands for. -/
def multiplierPower : Char → Option Nat
  | 'k' | 'K' => some 1
  | 'M' | 'm' => some 2
  | 'G' | 'g' => some 3
  | 'T' | 't' => some 4
  | 'P' => some 5
  | 'E' => some 6
  | 'Z' => some 7
  | 'Y' => some 8
  | 'R' => some 9
  | 'Q' => some 10
  | _ => none

/-- Reads a count as the programs of the system read sizes: blanks, an optional `+`, digits in
`base` (with base 0: octal after a `0`, hexadecimal after `0x`, decimal otherwise), then
one of the multipliers that `suffixes` allows: `b` (512), `B` (1024), `c` (1), `w` (2),
or a letter such as `k`, `M` or `G` for a power of 1024 (of 1000 when `B` follows it,
1024 still when `iB` does, if `suffixes` holds `0`). A multiplier alone counts one of it.
A count above `2^64 - 1` is too large. -/
def readCount (base : Nat) (suffixes : List Char) (s : String) : Except CountProblem Nat :=
  let limit := Nat.pow 2 64 - 1
  let cs := s.toList.dropWhile fun c => c == ' ' || ('\t' ≤ c && c ≤ '\r')
  if cs.head? == some '-' then .error .invalid
  else
    let body := match cs with
      | '+' :: r => r
      | r => r
    let (base, start) : Nat × List Char :=
      if base == 0 || base == 16 then
        match body with
        | '0' :: x :: d :: r =>
          if (x == 'x' || x == 'X') && (digitIn 16 d).isSome then (16, d :: r) else (if base == 0 then 8 else 16, body)
        | '0' :: _ => (if base == 0 then 8 else 16, body)
        | _ => (if base == 0 then 10 else 16, body)
      else (base, body)
    let ds := start.takeWhile fun c => (digitIn base c).isSome
    let read : Option (Nat × List Char) :=
      if ds.isEmpty then
        match s.toList with
        | c :: _ => if suffixes.contains c then some (1, s.toList) else none
        | [] => none
      else some (ds.foldl (fun v c => v * base + (digitIn base c).getD 0) 0, start.drop ds.length)
    match read with
    | none => .error .invalid
    | some (v, []) => if v > limit then .error .tooLarge else .ok v
    | some (v, c :: more) =>
      if !suffixes.contains c then .error .suffix
      else
        let (thousand, more) : Bool × List Char :=
          if suffixes.contains '0' && (multiplierPower c).isSome then
            match more with
            | 'i' :: 'B' :: r => (false, r)
            | 'B' :: r | 'D' :: r => (true, r)
            | r => (false, r)
          else (false, more)
        let scale : Option Nat := match c with
          | 'b' => some 512
          | 'B' => some 1024
          | 'c' => some 1
          | 'w' => some 2
          | _ => (multiplierPower c).map (Nat.pow (if thousand then 1000 else 1024))
        match scale with
        | none => .error .suffix
        | some k =>
          if !more.isEmpty then .error .suffix
          else if v * k > limit then .error .tooLarge
          else .ok (v * k)

example : (readCount 0 "bkKM0".toList "0x10").toOption = some 16 ∧ (readCount 0 "bkKM0".toList "010").toOption = some 8 ∧
    (readCount 0 "bkKM0".toList "2kB").toOption = some 2000 ∧ (readCount 0 "bkKM0".toList "k").toOption = some 1024 ∧
    (readCount 10 [] "1x").toOption = none := by decide +kernel

/-- The lines of bytes, each with its line end when it has one. -/
def linesFrom (sep : UInt8) : Nat → List UInt8 → List (List UInt8)
  | 0, _ => []
  | _ + 1, [] => []
  | fuel + 1, bs =>
    let l := bs.takeWhile (· != sep)
    match bs.drop l.length with
    | [] => [l]
    | _ :: more => (l ++ [sep]) :: linesFrom sep fuel more

/-- The lines of bytes ended by a separator, each with its separator when it has one. -/
def splitLines (sep : UInt8) (bs : List UInt8) : List (List UInt8) := linesFrom sep (bs.length + 1) bs

example : splitLines 10 [97, 10, 98] = [[97, 10], [98]] := by decide

end HelpMan.Tools
