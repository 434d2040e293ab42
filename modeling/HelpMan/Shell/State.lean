import HelpMan.Shell.Syntax
import HelpMan.Shell.Printf
import HelpMan.Shell.Test
import HelpMan.Workspace
import HelpMan.Text.Utf8

/-!
# The state of a running shell

A running shell has variables (some of them exported to the programs it starts),
positional parameters, the functions it defined, the status of the last command, a
table of file descriptors, and what it wrote to its standard output and standard
error. It also knows the working directory, which the commands it runs change.

A file descriptor leads to the shell's standard output or standard error, to a file of
the working directory, or to bytes that are read; what is read is used up, so a second
`read` on the same descriptor gets the next line.

`Flow` says how running goes on after a command: on, or out of the shell (`exit`, a
signal, a stop from outside), or out of loops and functions (`break`, `continue`,
`return`).
-/

namespace HelpMan.Shell

/-- Where a file descriptor leads. -/
inductive Dest where
  | stdout
  | stderr
  /-- A file, by location: what is written is added to its end. -/
  | file (loc : Location)
  /-- Bytes to read, from a pipe or a here-document. -/
  | input (bytes : List UInt8)
  /-- A regular file open for reading: where it is, and the bytes left to read in it. -/
  | source (loc : Location) (rest : List UInt8)
  /-- A device that swallows what is written, such as `/dev/null`. -/
  | discard
  /-- The pipe that a pipeline stage or a command substitution writes into. -/
  | pipe
  /-- No file: writing to it fails. -/
  | closed
  /-- A device that has no space for what is written, such as `/dev/full`: writing to it
  fails. -/
  | full
  /-- A directory opened for reading: it opens, but reading it fails. -/
  | directory
  /-- The input of a coprocess, by number: what is written is kept for it. -/
  | toCoproc (id : Nat)
  /-- The output of a coprocess, by number, which runs when it is first read. -/
  | fromCoproc (id : Nat)
  deriving DecidableEq, Repr

/-- A coprocess not yet run: its number, its command, and what the shell wrote to it. -/
structure Coproc where
  id : Nat
  body : Command
  input : List UInt8 := []

/-- A command run in the background, as the table of jobs keeps it: its job number, its
process number, the status it ended with (and the signal that ended it, if one did),
whether `wait` waited for it, the time by the clock of the run that it ends at when it
sleeps, and its command as written. A job runs at once, but one that sleeps goes on
running, for signals and for `jobs`, until the shell's clock passes its end; one that does
not sleep is reported running until it was waited for. A number is taken again once its
job was waited for. -/
structure Job where
  number : Nat
  pid : Nat
  status : Nat
  signal : Option Nat
  waited : Bool
  ends : Option Nat
  text : String
  /-- Whether the job is not the shell's own but one a shell it was copied from started: its
  process can still be signalled, but the shell neither lists it nor waits for it. -/
  foreign : Bool := false
  /-- Whether the shell took the news of the job's end by a signal while it waited for
  another process, so that waiting for the job later says nothing of it. -/
  reaped : Bool := false
  /-- The clock at which the job started. -/
  since : Nat := 0
  deriving DecidableEq, Repr

/-- Whether the shell knows a job has run to its end by the clock `now`: it was waited for,
or it slept and its end has passed, and if a signal ended it, the shell took the news of
that while it waited for a process. -/
def Job.over (j : Job) (now : Nat) : Bool := j.waited || j.ends.any (· ≤ now) && (j.signal.isNone || j.reaped)

/-- Whether a signal can still reach a job at the clock `now`: it sleeps past it. -/
def Job.alive (j : Job) (now : Nat) : Bool := !j.waited && j.ends.any (now < ·)

/-- Whether a job's process is still there for a signal at the clock `now`: it sleeps past
it, or a signal ended it and the shell has not yet taken the news, so that the process
waits as a zombie. -/
def Job.present (j : Job) (now : Nat) : Bool := j.alive now || !j.waited && !j.reaped && j.signal.isSome

/-- Whether a signal ends a process that does not catch it: all but the null signal and
`CHLD`, `CONT`, `STOP`, `TSTP`, `TTIN`, `TTOU`, `URG` and `WINCH`. -/
def endsProcess (signal : Nat) : Bool := signal != 0 && !([17, 18, 19, 20, 21, 22, 23, 28].contains signal)

/-- A write of a job in the background made after the job slept: it happens at the clock
`time`, so it comes out after what the shell writes before then. -/
structure Later where
  time : Nat
  /-- The jobs it was written within, by process number, the innermost first: a signal that
  ends one of them before `time` comes first, and the write never happens. -/
  jobs : List Nat
  /-- Whether it goes to standard error rather than standard output. -/
  toErr : Bool
  bytes : List UInt8
  deriving DecidableEq, Repr

/-- A function, or a script read by `source`, that the shell is running: its name
(`source` for a script), the line it was called from, and the file it was defined in (for
a script, the file itself). -/
structure Frame where
  name : String
  line : Int
  file : String
  deriving DecidableEq, Repr

/-- Where a new shell has its commands from: the script file it reads, if it reads one
(not a text after `-c` nor its standard input), the path of the shell program, which
the `bash` dialect keeps in `BASH`, and the options of `shopt` its command line turned on
or off. -/
structure Origin where
  script : Option String
  shellPath : String
  shopts : List (String × Bool)
  deriving DecidableEq, Repr

/-- How the shell starts a program: for a command, or by `exec` in its place, under the
name the program is given to see (`exec -a`) when that is not the name it was found by. -/
inductive Launch where
  | command
  | exec (shownAs : Option String)
  deriving DecidableEq, Repr

/-- The value of an array variable of the `bash` dialect: its elements by number, in
order of their numbers, or by text (an associative array) in the order they were made. -/
inductive ArrayValue where
  | indexed (items : List (Nat × String))
  | assoc (items : List (String × String))
  deriving DecidableEq, Repr

/-- The bucket of a key in a table of `size` buckets (a power of two), by the 32-bit
FNV-1 hash of its bytes, each taken as a signed 8-bit number widened to 32 bits (so a
byte from `0x80` on brings ones into the high bits). -/
def fnvBucket (size : Nat) (key : String) : Nat :=
  let widened (b : UInt8) : Nat := if b < 0x80 then b.toNat else b.toNat + 0xFFFFFF00
  ((bytesOf key).foldl (fun h b => (h * 16777619 % 4294967296) ^^^ widened b) 2166136261) % size

/-- The bucket of a key in a table of `2 ^ 10` buckets, the table of an associative
array. -/
def keyBucket (key : String) : Nat := fnvBucket 1024 key

namespace ArrayValue

/-- The element of a number. -/
def atIndex? : ArrayValue → Nat → Option String
  | .indexed items, k => List.lookup k items
  | .assoc items, k => List.lookup (toString k) items

/-- The element of a key. -/
def atKey? : ArrayValue → String → Option String
  | .assoc items, k => List.lookup k items
  | .indexed items, k => k.toNat?.bind fun i => List.lookup i items

/-- The array with an element of a number set, the numbers kept in order. -/
def setIndex (items : List (Nat × String)) (k : Nat) (v : String) : List (Nat × String) :=
  if items.any (·.1 == k) then items.map fun (i, w) => if i == k then (i, v) else (i, w)
  else (items ++ [(k, v)]).mergeSort fun a b => a.1 ≤ b.1

/-- The array with an element of a key set: in its place when it is there, last
otherwise. -/
def setKey (items : List (String × String)) (k v : String) : List (String × String) :=
  if items.any (·.1 == k) then items.map fun (i, w) => if i == k then (i, v) else (i, w) else items ++ [(k, v)]

/-- The elements in the order the shell lists them: by number, or for an associative
array bucket by bucket of its hash table, the newest first within a bucket. -/
def entries : ArrayValue → List (String × String)
  | .indexed items => items.map fun (k, v) => (toString k, v)
  | .assoc items =>
    let numbered := items.zipIdx.map fun ((k, v), i) => (keyBucket k, i, k, v)
    (numbered.mergeSort fun a b => a.1 < b.1 || (a.1 == b.1 && a.2.1 ≥ b.2.1)).map fun (_, _, k, v) => (k, v)

/-- The values in the order the shell lists them. -/
def values (a : ArrayValue) : List String := a.entries.map Prod.snd

/-- The keys in the order the shell lists them. -/
def keys (a : ArrayValue) : List String := a.entries.map Prod.fst

/-- The number of elements. -/
def size : ArrayValue → Nat
  | .indexed items => items.length
  | .assoc items => items.length

/-- Whether it is associative. -/
def isAssoc : ArrayValue → Bool
  | .assoc _ => true
  | .indexed _ => false

end ArrayValue

/-- How running goes on after a command. -/
inductive Flow where
  | normal
  | exit (code : Nat)
  /-- The shell was killed by a signal, by number. -/
  | signaled (signal : Nat)
  /-- The run was stopped from outside. -/
  | stopped
  /-- `break`: out of this many loops. -/
  | breakLoop (levels : Nat)
  /-- `continue`: on with the loop this many levels out. -/
  | continueLoop (levels : Nat)
  /-- `return`: out of the running function. -/
  | returned
  /-- In the `bash` dialect, an expansion failed: the rest of the command being run is
  dropped, and the shell goes on with the next one, while a copy of the shell ends. -/
  | discard
  deriving DecidableEq, Repr

/-- A variable made local to a function, as it was before: its value or its array,
whether it was exported, and its attribute letters. -/
structure SavedVar where
  name : String
  value : Option String
  exported : Bool
  array : Option ArrayValue
  attrs : List Char
  deriving Inhabited

/-- The state of a running shell. -/
structure Session where
  vars : List (String × String)
  /-- The names of the variables that programs the shell starts see. -/
  exported : List String
  args : List String
  /-- The name the shell runs its script by, `$0`. -/
  name : String
  status : Nat
  fds : List (Nat × Dest)
  pid : Nat
  /-- What was written to standard output. -/
  out : List UInt8
  /-- What was written into the pipe of the running pipeline stage or command
  substitution. -/
  piped : List UInt8
  /-- What was written to standard error. -/
  err : List UInt8
  workspace : Workspace
  /-- The current directory. -/
  cwd : Location
  /-- Whether an interruption comes once the file `started` exists. -/
  interrupt : Bool
  functions : List (String × Command)
  /-- The aliases, by name, with the text each stands for. -/
  aliases : List (String × String)
  /-- The line that the running function was defined on, or zero outside functions. -/
  functionLine : Nat
  /-- How many loops the running command is inside, in the running function. -/
  loops : Nat
  /-- The names of the options of `set` that are on. -/
  options : List String
  /-- The variables that may not be changed. -/
  readonly : List String
  /-- The argument `getopts` reads next, counted from one. -/
  optionIndex : Nat
  /-- Where `getopts` stands inside the argument before it, counted in bytes, if it is
  inside one; in the `bash` dialect, inside the argument `optionWord`. -/
  optionOffset : Option Nat
  /-- The bits of the mode that new files do not get. -/
  umask : Nat
  /-- The limits that `ulimit` set, by option letter, in the units it reads and writes
  them in: the soft limit and the hard limit, none for a limit that is unlimited. -/
  limits : List (Char × Option Nat × Option Nat) := []
  /-- Whether a write to standard output failed during the current command. -/
  writeFailed : Bool
  /-- What a running built-in command has written to standard output and not yet
  flushed: its output is held until it ends, while what it writes to other descriptors
  goes out at once. -/
  held : Option (List UInt8)
  /-- The programs found on the search path so far, by name, with their paths, in the
  order they were found. -/
  tracked : List (String × String)
  /-- How often each program of `tracked` was found there, in the `bash` dialect. -/
  hits : List (String × Nat) := []
  /-- The line of the command being run. -/
  line : Nat
  /-- The status of the last command substitution of the command being expanded. -/
  substStatus : Option Nat
  /-- The variables made local in the running function, with their values (as arrays
  too) and whether they were exported before. -/
  localSaves : List SavedVar
  /-- The options of `set` as they were when the running function made them local with
  `local -`, to be given back when it ends. -/
  savedOptions : Option (List String)
  /-- The commands to run on signals, by number, and on exit, as signal `0`; an empty
  command ignores the signal. -/
  traps : List (Nat × String)
  /-- The signals caught and not yet handled, in order. -/
  pending : List Nat
  /-- The jobs of the table, in the order they were started. -/
  jobs : List Job
  /-- The process number of the last command started in the background, if any. -/
  lastBackground : Option Nat
  /-- How many commands were started in the background. -/
  started : Nat
  /-- The signals the shell started with ignored: they stay ignored whatever `trap` says,
  and the programs it starts find them ignored too. -/
  ignored : List Nat
  /-- Whether this is a copy of the shell in a process of its own (a subshell, a pipeline
  stage, a command substitution, a job in the background), which `$$` does not name. -/
  copy : Bool
  /-- The signals a copy sent to the shell's own process, by `$$`, in order. -/
  sentUp : List Nat
  /-- The dialect of the language the shell reads. -/
  dialect : Dialect
  /-- The array variables, by name; a name is in the table of variables or here, not
  both. -/
  arrays : List (String × ArrayValue)
  /-- The arrays that were declared but never given a value: empty, as an array emptied
  is, but listed by `declare -p` without one. -/
  valueless : List String := []
  /-- The attributes of variables set by `declare`, by name, as letters: `i` for
  integers, `l` and `u` for lower and upper case. -/
  attributes : List (String × List Char)
  /-- The options of `shopt` that are on. -/
  shopts : List String
  /-- The statuses of the commands of the last pipeline. -/
  pipeStatus : List Nat
  /-- The running functions and scripts read by `source`, the innermost first. -/
  calls : List Frame
  /-- The script file the shell reads, if it reads one. -/
  scriptFile : Option String := none
  /-- What the `bash` dialect names the file of a function by when the shell reads no
  script file: `environment` for a text given after `-c`, `main` for standard input. -/
  textSource : String := "main"
  /-- The file each function was defined in, by name. -/
  definedIn : List (String × String) := []
  /-- The simple command being run, as written, which `BASH_COMMAND` gives; the command of
  a trap leaves it as the command that set the trap off. -/
  commandText : String := ""
  /-- Whether the command of a trap is running. -/
  trapping : Bool := false
  /-- In the `posix` dialect, what runs the commands being read when a built-in command
  does: `eval`, or the file that `.` reads. The shell's own messages name it after the
  line number; a built-in command names itself in its messages instead. -/
  context : Option String := none
  /-- Whether the shell was given its commands as a text after `-c` in the `bash`
  dialect, whose last command, when it runs a program, takes the place of the shell. -/
  givenText : Bool := false
  /-- Whether the command running is that last command. -/
  lastOfText : Bool := false
  /-- The built-in commands turned off by `enable -n`, which then run as programs. -/
  disabled : List String := []
  /-- The directories that `pushd` put on the stack, the top first; the current directory
  stands above them. -/
  dirStack : List String := []
  /-- The completions set by `complete`, by command name, each as the options that
  `complete -p` writes for it. -/
  completions : List (String × String) := []
  /-- The last argument of the last simple command, `$_` in the `bash` dialect. -/
  lastArgument : String := ""
  /-- The coprocesses started and not yet run. -/
  coprocs : List Coproc := []
  /-- Inside a job in the background, the count of the workspace's sleep when the outermost
  such job began: once the job has slept, what it writes comes out at its own clock. -/
  deferSince : Option Nat := none
  /-- The jobs in the background the shell runs within, by process number, the innermost
  first. -/
  jobPids : List Nat := []
  /-- The writes of jobs that slept, not yet come out. -/
  later : List Later := []
  /-- In the `bash` dialect, the argument whose letters `getopts` reads while `optionOffset`
  is set; setting `OPTIND` does not move it. -/
  optionWord : Nat := 0
  /-- How many function calls are in progress. -/
  depth : Nat := 0
  /-- How many texts run by `eval`, `source` or a command substitution the running command
  is inside: under `set -x` the `bash` dialect writes the first character of `PS4` once
  more for each. -/
  traceDepth : Nat := 0

/-- The descriptors of a new shell: reading the given bytes, writing to its outputs. -/
def standardFds (input : List UInt8) : List (Nat × Dest) := [(0, .input input), (1, .stdout), (2, .stderr)]

/-- The search path of a shell whose environment sets none. -/
def defaultPath : String := "/usr/local/sbin:/usr/local/bin:/usr/sbin:/usr/bin:/sbin:/bin"

/-- The variables a shell has before it reads its environment, in order. -/
def initialVars : List (String × String) :=
  [("IFS", " \t\n"), ("PATH", defaultPath), ("PS1", "$ "), ("PS2", "> "), ("PS4", "+ "), ("OPTIND", "1")]

/-- Sets a variable in a list of variables: in its place when it is there, last otherwise,
so that the list keeps the order in which the variables were made. -/
def setIn (vars : List (String × String)) (n v : String) : List (String × String) :=
  if vars.any (·.1 == n) then vars.map fun (m, w) => if m == n then (m, v) else (m, w) else vars ++ [(n, v)]

/-- Sets an entry of a table by name: in its place when it is there, last otherwise. -/
def setIn' {α : Type} (table : List (String × α)) (n : String) (v : α) : List (String × α) :=
  if table.any (·.1 == n) then table.map fun (m, w) => if m == n then (m, v) else (m, w) else table ++ [(n, v)]

/-- The variables of a new shell, in the order they were made: the initial ones, with
the values of the environment, then the others of the environment; `IFS` and `OPTIND`
keep their initial values, and `PWD` names the current directory. -/
def startingVars (env : List (String × String)) (cwd : Location) : List (String × String) :=
  let vars := env.foldl (fun vars (n, v) => setIn vars n v) initialVars
  let vars := setIn (setIn vars "IFS" " \t\n") "OPTIND" "1"
  setIn vars "PWD" (Text.utf8Bytes (Workspace.showLocation cwd))

/-- A new shell running a script by a name, with its environment, arguments, input,
process number, file system and current directory. The variables of the environment are
exported, and so is `PWD`. -/
def Session.fresh (env : List (String × String)) (name : String) (args : List String) (input : List UInt8)
    (pid : Nat) (ws : Workspace) (cwd : Location) (interrupt : Bool) : Session where
  vars := startingVars env cwd
  exported := (env.map Prod.fst).eraseDups ++ (if env.any (·.1 == "PWD") then [] else ["PWD"])
  args := args
  name := name
  status := 0
  fds := standardFds input
  pid := pid
  out := []
  piped := []
  err := []
  workspace := ws
  cwd := cwd
  interrupt := interrupt
  functions := []
  aliases := []
  functionLine := 0
  loops := 0
  options := []
  readonly := []
  optionIndex := 1
  optionOffset := none
  umask := 18
  writeFailed := false
  held := none
  tracked := []
  line := 0
  substStatus := none
  localSaves := []
  savedOptions := none
  traps := []
  pending := []
  jobs := []
  lastBackground := none
  started := 0
  ignored := []
  copy := false
  sentUp := []
  dialect := .posix
  arrays := []
  attributes := []
  shopts := []
  pipeStatus := []
  calls := []

/-- Text of bytes, with bytes that are not UTF-8 replaced. -/
def textOf (bs : List UInt8) : String := String.ofList (Text.decodeLossy bs)

/-- The byte string of bytes. -/
def stringOf (bs : List UInt8) : String := Text.byteString bs

/-- Where a descriptor leads in a table. -/
def destOf (fds : List (Nat × Dest)) (fd : Nat) : Dest := ((fds.find? (·.1 == fd)).map Prod.snd).getD .closed

/-- A table with a descriptor set. -/
def setFd (fds : List (Nat × Dest)) (fd : Nat) (d : Dest) : List (Nat × Dest) :=
  (fd, d) :: fds.filter (·.1 != fd)

/-- What a descriptor table gives to read. -/
def inputOf (fds : List (Nat × Dest)) : List UInt8 :=
  match destOf fds 0 with
  | .input bs => bs
  | .source _ bs => bs
  | _ => []

/-- A descriptor open for reading after what it gives was read up to `rest`. -/
def Dest.afterRead (d : Dest) (rest : List UInt8) : Dest :=
  match d with
  | .source loc _ => .source loc rest
  | _ => .input rest

/-- Whether a descriptor is open for reading. -/
def Dest.readable : Dest → Bool
  | .input _ | .source .. => true
  | _ => false

/-- Whether reading from a descriptor can have left it as another: the same pipe or file,
with the bytes left to read a part at the end of those it had. -/
def Dest.advancedTo (d e : Dest) : Bool :=
  let endsWith (a b : List UInt8) : Bool := b.length ≤ a.length && a.drop (a.length - b.length) == b
  match d, e with
  | .input a, .input b => endsWith a b
  | .source l a, .source m b => l == m && endsWith a b
  | _, _ => false

/-- The descriptors of a shell whose standard input in `fds` was read up to `rest`: those
that lead to the same input go on from there. -/
def afterInput (own fds : List (Nat × Dest)) (rest : List UInt8) : List (Nat × Dest) :=
  let d0 := destOf fds 0
  if !d0.readable then own else own.map fun (k, d) => if d == d0 then (k, d.afterRead rest) else (k, d)

/-- The descriptors of a shell after a process that shared its inputs ran: a descriptor
that led where one the process was `given` led goes on from where the process `ended`
reading it, if it still reads the same input. -/
def sharedReads (own given ended : List (Nat × Dest)) : List (Nat × Dest) :=
  own.map fun (k, d) =>
    match given.find? fun (_, g) => d.readable && g == d with
    | some (j, _) => if d.advancedTo (destOf ended j) then (k, destOf ended j) else (k, d)
    | none => (k, d)

/-- The descriptors after a part of the script that ran with descriptors of its own,
`entry` when it started and `after` when it ended, in a shell whose descriptors were
`saved` before it: those that the part was given anew get back what they were, the others
stay as the part left them, so that what `exec` opened stays open and what was read of a
shared input stays read. -/
def keptFds (saved entry after : List (Nat × Dest)) : List (Nat × Dest) :=
  let keys := (saved.map Prod.fst ++ entry.map Prod.fst ++ after.map Prod.fst).eraseDups
  keys.map fun k => (k, if destOf saved k != destOf entry k then destOf saved k else destOf after k)

example : keptFds [(0, .input [1, 2])] [(0, .input [1, 2]), (3, .discard)] [(0, .input [2]), (3, .discard), (4, .discard)]
    = [(0, .input [2]), (3, .closed), (4, .discard)] := by decide

/-- The number of signals, counting the null signal `0`: signals run up to 64. -/
def signalCount : Nat := 65

/-- The name of each signal from 1 on, without `SIG`, in the `bash` dialect: the classic
signals by their names, the real-time signals from 34 on as `RTMIN`, `RTMIN+k`, `RTMAX-k`
and `RTMAX`, and the two signals between them by their numbers. -/
def bashSignalName (n : Nat) : String :=
  let classic := ["HUP", "INT", "QUIT", "ILL", "TRAP", "ABRT", "BUS", "FPE", "KILL", "USR1", "SEGV", "USR2",
    "PIPE", "ALRM", "TERM", "STKFLT", "CHLD", "CONT", "STOP", "TSTP", "TTIN", "TTOU", "URG", "XCPU", "XFSZ",
    "VTALRM", "PROF", "WINCH", "IO", "PWR", "SYS"]
  if n = 0 then "EXIT"
  else if n ≤ classic.length then classic.getD (n - 1) ""
  else if n = 34 then "RTMIN"
  else if n = 64 then "RTMAX"
  else if 34 < n && n ≤ 49 then "RTMIN+" ++ toString (n - 34)
  else if 49 < n && n < 64 then "RTMAX-" ++ toString (64 - n)
  else toString n

/-- The name of each signal from 1 on in the `posix` dialect: as in the `bash` dialect, but
the stack fault `16` goes by its number. -/
def signalName (n : Nat) : String := if n = 16 then "16" else bashSignalName n

/-- The description of a signal, as the C library gives it. -/
def signalText (n : Nat) : String :=
  let classic := ["Hangup", "Interrupt", "Quit", "Illegal instruction", "Trace/breakpoint trap", "Aborted",
    "Bus error", "Floating point exception", "Killed", "User defined signal 1", "Segmentation fault",
    "User defined signal 2", "Broken pipe", "Alarm clock", "Terminated", "Stack fault", "Child exited", "Continued",
    "Stopped (signal)", "Stopped", "Stopped (tty input)", "Stopped (tty output)", "Urgent I/O condition",
    "CPU time limit exceeded", "File size limit exceeded", "Virtual timer expired", "Profiling timer expired",
    "Window changed", "I/O possible", "Power failure", "Bad system call"]
  if 1 ≤ n && n ≤ classic.length then classic.getD (n - 1) ""
  else if 34 ≤ n && n < signalCount then "Real-time signal " ++ toString (n - 34)
  else "Unknown signal " ++ toString n

/-- The state a job is reported in: running until it is over, then done (with its status
when it is not zero), or the description of the signal that ended it. -/
def Job.stateText (j : Job) (now : Nat) : String :=
  if !j.over now then "Running"
  else
    match j.signal with
    | some n => signalText n
    | none => if j.status == 0 then "Done" else "Done(" ++ toString j.status ++ ")"

/-- What the shell writes when a command it waited for was ended by a signal: the
description of the signal, but nothing for `INT` and `PIPE`. -/
def deathNotice (n : Nat) : String := if n == 2 || n == 13 then "" else signalText n ++ "\n"

/-- The signal that a `kill` option names by the names of `name`: a number below
`signalCount`, or a name without `SIG` in any case. -/
def signalNamed? (name : Nat → String) (s : String) : Option Nat :=
  if !s.isEmpty && s.all Char.isDigit then
    if (s.toNat?.getD 0) < signalCount then some (s.toNat?.getD 0) else none
  else (List.range' 1 (signalCount - 1)).find? fun n => (name n).toUpper == s.toUpper

/-- The signal that a `kill` option names in the `posix` dialect. -/
def signalOf? (s : String) : Option Nat := signalNamed? signalName s

/-- Whether a signal ends a process that does not catch it: all but the null signal,
the ones ignored by default (`CHLD`, `CONT`, `URG`, `WINCH`) and the ones that stop it. -/
def terminates (signal : Nat) : Bool :=
  0 < signal && signal < signalCount && !([17, 18, 19, 20, 21, 22, 23, 28].contains signal)

/-- The options of `set`, in the order the shell lists them, each with its letter. -/
def optionTable : List (String × Option Char) :=
  [("errexit", some 'e'), ("noglob", some 'f'), ("ignoreeof", some 'I'), ("interactive", some 'i'), ("monitor", some 'm'),
   ("noexec", some 'n'), ("stdin", some 's'), ("xtrace", some 'x'), ("verbose", some 'v'), ("vi", some 'V'),
   ("emacs", some 'E'), ("noclobber", some 'C'), ("allexport", some 'a'), ("notify", some 'b'),
   ("nounset", some 'u'), ("privileged", some 'p'), ("nolog", none), ("debug", none)]

/-- The options that `$-` shows in the `bash` dialect, in its order, each with its letter;
`hashall` and `braceexpand` are always on. -/
def bashFlagOrder : List (String × Char) :=
  [("allexport", 'a'), ("notify", 'b'), ("errexit", 'e'), ("noglob", 'f'), ("hashall", 'h'), ("interactive", 'i'),
   ("keyword", 'k'), ("monitor", 'm'), ("noexec", 'n'), ("privileged", 'p'), ("onecmd", 't'), ("nounset", 'u'),
   ("verbose", 'v'), ("xtrace", 'x'), ("braceexpand", 'B'), ("noclobber", 'C'), ("errtrace", 'E'),
   ("histexpand", 'H'), ("physical", 'P'), ("functrace", 'T')]

/-- Whether a character of `IFS` is white space, which field splitting merges and drops at
the ends of a value. -/
def isIfsWhite (c : Char) : Bool := c = ' ' || c = '\t' || c = '\n'

/-- The text after the separators that end a field: the white space of `ifs`, and one other
character of `ifs` when the separator that ended the field was white space. -/
def skipSeparators (ifs : List Char) (white : Bool) : List Char → List Char
  | [] => []
  | c :: cs =>
    if !ifs.contains c then c :: cs
    else if isIfsWhite c then skipSeparators ifs white cs
    else if white then skipSeparators ifs false cs
    else c :: cs

/-- The bucket of a name in a table of `size` buckets: sixteen times its first byte,
plus all its bytes. Tables list their entries bucket by bucket, and within a bucket in
the order the entries were made. -/
def bucketOf (size : Nat) (name : String) : Nat :=
  let bs := (bytesOf name).map UInt8.toNat
  (bs.headD 0 * 16 + bs.foldl (· + ·) 0) % size

/-- Entries in the order a table of `size` buckets lists them. -/
def inBuckets (size : Nat) (entries : List (String × String)) : List (String × String) :=
  entries.mergeSort fun a b => bucketOf size a.1 ≤ bucketOf size b.1

/-- Reads a whole number as the shell's commands do: decimal, with optional blanks around
it and a sign, from zero to `2 ^ 31 - 1`. -/
def countOf? (s : String) : Option Nat :=
  let cs := s.toList.dropWhile Test.isSpace
  let (negative, cs) := match cs with
    | '+' :: r => (false, r)
    | '-' :: r => (true, r)
    | r => (false, r)
  let ds := cs.takeWhile Char.isDigit
  if ds.isEmpty || !(cs.drop ds.length).all Test.isSpace then none
  else
    let n := ((String.ofList ds).toNat?.getD 0)
    if n ≤ 2147483647 && (!negative || n = 0) then some n else none

/-- The number a text starts with, as C's `atoi` reads it: blanks, a sign and decimal
digits, anything after them ignored; zero when there are no digits. -/
def leadingNumber (s : String) : Int :=
  let cs := s.toList.dropWhile Test.isSpace
  let (negative, cs) := match cs with
    | '+' :: r => (false, r)
    | '-' :: r => (true, r)
    | r => (false, r)
  let n : Int := (cs.takeWhile Char.isDigit).foldl (fun v d => v * 10 + (d.toNat - 48)) 0
  if negative then -n else n

example : leadingNumber " -12x" = -12 ∧ leadingNumber "z" = 0 := by decide +kernel

namespace Session

/-- Whether an option of `set` is on. -/
def isOn (sh : Session) (name : String) : Bool := sh.options.contains name

/-- The shell with an option of `set` on or off. -/
def setOption (sh : Session) (name : String) (on : Bool) : Session :=
  { sh with options := if on then (if sh.options.contains name then sh.options else sh.options ++ [name])
      else sh.options.filter (· != name) }

/-- The variable a name stands for, following name references (`declare -n`) as deep as
`fuel`: a reference with a value stands for the variable its value names. -/
def refTargetFrom (sh : Session) : Nat → String → String
  | 0, n => n
  | fuel + 1, n =>
    if ((List.lookup n sh.attributes).getD []).contains 'n' then
      match List.lookup n sh.vars with
      | some t => if t.isEmpty then n else sh.refTargetFrom fuel t
      | none => n
    else n

/-- The variable a name stands for: itself, or for a name reference the variable it
refers to, through at most eight references. -/
def refTarget (sh : Session) (n : String) : String := sh.refTargetFrom 8 n

/-- The value of a variable, if it is set; for an array, its element `0`. A name
reference gives the value of the variable it refers to. -/
def lookupVar (sh : Session) (n : String) : Option String :=
  let n := sh.refTarget n
  match List.lookup n sh.vars with
  | some v => some v
  | none =>
    if n == "_" && sh.dialect == .bash then some sh.lastArgument
    else (List.lookup n sh.arrays).bind (·.atIndex? 0)

/-- The value of a variable, empty when it is not set. -/
def var (sh : Session) (n : String) : String := (sh.lookupVar n).getD ""

/-- In the `bash` dialect, `getopts` taking up the value `OPTIND` was given by a command:
one or less (or no value) starts it afresh, a greater value makes it the argument read
next while the letters of the argument being read are still read first. -/
def syncOptionIndex (sh : Session) : Session :=
  let s := leadingNumber ((sh.lookupVar "OPTIND").getD "")
  if s ≤ 1 then { sh with optionIndex := 0, optionOffset := none } else { sh with optionIndex := s.toNat }

/-- The number a value of `OPTIND` gives in the `posix` dialect, if it is one: a decimal
number from zero to the largest `int`, with blanks around it and a sign allowed. -/
def posixOptionIndex? (v : String) : Option Nat :=
  let cs := v.toList.dropWhile Char.isWhitespace
  let (negative, cs) := match cs with
    | '-' :: r => (true, r)
    | '+' :: r => (false, r)
    | r => (false, r)
  let ds := cs.takeWhile Char.isDigit
  let n := (String.ofList ds).toNat?.getD 0
  if !ds.isEmpty && (cs.drop ds.length).all Char.isWhitespace && n ≤ 2147483647 && !(negative && n > 0) then some n
  else none

/-- The shell with a variable set (for a name reference, the variable it refers to); under
`set -a` it is exported too. Setting `OPTIND` starts `getopts` again from the argument it
names; in the `bash` dialect a value of one or less starts it afresh, and a greater one
leaves it inside the argument it was reading. -/
def setVar (sh : Session) (n v : String) : Session :=
  let n := sh.refTarget n
  let sh := match List.lookup n sh.arrays with
    | some (.indexed items) => { sh with arrays := setIn' sh.arrays n (.indexed (ArrayValue.setIndex items 0 v)) }
    | some (.assoc items) => { sh with arrays := setIn' sh.arrays n (.assoc (ArrayValue.setKey items "0" v)) }
    | none => { sh with vars := setIn sh.vars n v }
  let sh := if n != "OPTIND" then sh
    else if sh.dialect == .bash then sh.syncOptionIndex
    else { sh with optionIndex := max 1 ((posixOptionIndex? v).getD 1), optionOffset := none }
  if sh.isOn "allexport" && !sh.exported.contains n then { sh with exported := sh.exported ++ [n] } else sh

/-- Why a variable may not take a value, if it may not: it is read-only, or in the `posix`
dialect it is `OPTIND` and the value is no number. -/
def valueProblem? (sh : Session) (n v : String) : Option String :=
  if sh.readonly.contains n then some (n ++ ": is read only")
  else if sh.dialect == .posix && n == "OPTIND" && (posixOptionIndex? v).isNone then some ("Illegal number: " ++ v)
  else none

/-- The shell with a variable set, or the message when it may not be changed. -/
def assign (sh : Session) (n v : String) : Except String Session :=
  match sh.valueProblem? n v with
  | some m => .error m
  | none => .ok (sh.setVar n v)

/-- The shell with a variable exported. -/
def markExported (sh : Session) (n : String) : Session :=
  if sh.exported.contains n then sh else { sh with exported := sh.exported ++ [n] }

/-- The variables that a program started by the shell sees, in the order of the
shell's table of variables. -/
def environment (sh : Session) : List (String × String) :=
  inBuckets 39 (sh.vars.filter fun (n, _) => sh.exported.contains n)

/-- The shell with the assignments before a command made and exported. -/
def assignFor (sh : Session) (env : List (String × String)) : Session :=
  env.foldl (fun sh (n, v) => (sh.setVar n v).markExported n) sh

/-- The shell with the variables of `names`, their values and whether they are exported,
as they are in `before`. -/
def restoreVars (sh before : Session) (names : List String) : Session :=
  names.foldl (fun sh n =>
    let sh := match before.lookupVar n with
      | some v => sh.setVar n v
      | none => { sh with vars := sh.vars.filter (·.1 != n) }
    if before.exported.contains n then sh.markExported n
    else { sh with exported := sh.exported.filter (· != n) }) sh

/-- The shell with a variable made local to the running function: its value and whether
it is exported are noted, the first time, to be given back when the function ends. -/
def makeLocal (sh : Session) (n : String) : Session :=
  if sh.localSaves.any (·.name == n) then sh
  else
    { sh with localSaves := ⟨n, List.lookup n sh.vars, sh.exported.contains n, List.lookup n sh.arrays,
                              (List.lookup n sh.attributes).getD []⟩ :: sh.localSaves }

/-- The shell with the options of `set` made local to the running function: they are
noted, the first time, to be given back when the function ends. -/
def makeOptionsLocal (sh : Session) : Session :=
  if sh.savedOptions.isSome then sh else { sh with savedOptions := some sh.options }

/-- The shell with the variables made local given back their values from before, and the
options their state, if they were made local. -/
def restoreLocals (sh : Session) : Session :=
  let sh := match sh.savedOptions with
    | some o => { sh with options := o, savedOptions := none }
    | none => sh
  sh.localSaves.foldl (fun sh saved =>
    let n := saved.name
    let sh := { sh with vars := sh.vars.filter (·.1 != n), arrays := sh.arrays.filter (·.1 != n),
                        attributes := sh.attributes.filter (·.1 != n), valueless := sh.valueless.erase n }
    let sh := match saved.value, saved.array with
      | some v, _ => sh.setVar n v
      | none, some a => { sh with arrays := sh.arrays ++ [(n, a)] }
      | none, none => sh
    let sh := if saved.attrs.isEmpty then sh else { sh with attributes := sh.attributes ++ [(n, saved.attrs)] }
    if saved.exported then sh.markExported n else { sh with exported := sh.exported.filter (· != n) })
    { sh with localSaves := [] }

/-- The shell with a job added to its table: the job takes the least number that no job
not yet waited for holds, and the job that held it, if any, leaves the table. -/
def addJob (sh : Session) (pid status : Nat) (signal : Option Nat) (ends : Option Nat) (text : String) :
    Session :=
  let own := sh.jobs.filter (!·.foreign)
  let free (n : Nat) : Bool := !(own.any fun j => j.number == n && !j.waited)
  let n := (((List.range (own.length + 1)).map (· + 1)).find? free).getD 1
  let job : Job := { number := n, pid := pid, status := status, signal := signal, waited := false, ends := ends,
                     text := text, since := sh.workspace.clock }
  { sh with jobs := sh.jobs.filter (fun j => j.foreign || j.number != n) ++ [job] }

/-- The shell's own jobs, those it started. -/
def ownJobs (sh : Session) : List Job := sh.jobs.filter (!·.foreign)

/-- The shell in a process whose parent started the jobs of its table: they become foreign. -/
def forgetJobs (sh : Session) : Session := { sh with jobs := sh.jobs.map fun j => { j with foreign := true } }

/-- The shell once a process it waited for ended: the jobs that a signal ended by now are
reaped. -/
def reapJobs (sh : Session) : Session :=
  { sh with jobs := sh.jobs.map fun j =>
      if j.signal.isSome && j.ends.all (· ≤ sh.workspace.clock) then { j with reaped := true } else j }

/-- The shell once a copy of it, or a shell it started, ended: the jobs that the other
ended by a signal are ended here too. -/
def adoptKills (sh c : Session) : Session :=
  { sh with jobs := sh.jobs.map fun j =>
      match c.jobs.find? (·.pid == j.pid) with
      | some k => if j.signal.isNone && k.signal.isSome then { j with status := k.status, signal := k.signal, ends := k.ends }
        else j
      | none => j }

/-- The job that `%` and a number names, or `%%`, `%+` (the last started) or `%-` (the
one before it). -/
def findJob? (sh : Session) (spec : String) : Option Job :=
  let recent := sh.ownJobs.reverse
  match spec.toList with
  | ['%'] | ['%', '%'] | ['%', '+'] => recent.head?
  | ['%', '-'] => recent[1]?
  | '%' :: ds => (countOf? (String.ofList ds)).bind fun k => sh.ownJobs.find? (·.number == k)
  | _ => none

/-- The shell with a program of the `bash` dialect's table of `hash` found there once more,
or put there with a count of hits. -/
def hit (sh : Session) (name : String) : Session :=
  { sh with hits := (name, (sh.hits.lookup name).getD 0 + 1) :: sh.hits.filter (·.1 != name) }

/-- The shell with a program put in the table of `hash` of the `bash` dialect, newest,
with a count of hits. -/
def remember (sh : Session) (name path : String) (count : Nat) : Session :=
  { sh with tracked := sh.tracked.filter (·.1 != name) ++ [(name, path)],
            hits := (name, count) :: sh.hits.filter (·.1 != name) }

/-- The file whose commands the shell runs now, as `BASH_SOURCE` names it first: that of
the innermost function or script read by `source`, else the script the shell reads, else
`textSource`. -/
def sourceFile (sh : Session) : String :=
  match sh.calls with
  | f :: _ => f.file
  | [] => sh.scriptFile.getD sh.textSource

/-- The shell once `wait` waited for the jobs of its own that a test picks, its clock on to
the end of the last of them. -/
def waitFor (sh : Session) (picked : Job → Bool) : Session :=
  let picked (j : Job) : Bool := picked j && !j.foreign
  let upTo := sh.jobs.foldl (fun m j => if picked j && !j.waited then max m (j.ends.getD 0) else m) sh.workspace.clock
  { sh with jobs := sh.jobs.map (fun j => if picked j then { j with waited := true } else j),
            workspace := { sh.workspace with clock := upTo } }

/-- The command to run on a signal (`0` for exit), if one is set. -/
def trapFor? (sh : Session) (signal : Nat) : Option String := (sh.traps.find? (·.1 == signal)).map Prod.snd

/-- The signals a program that the shell starts finds ignored: those the shell started with
ignored, and those it ignores by `trap`. -/
def passedIgnored (sh : Session) : List Nat :=
  (sh.ignored ++ (sh.traps.filter fun (n, c) => n != 0 && c.isEmpty).map Prod.fst).eraseDups

/-- Whether a signal ends the process of a job, which is alive. A job in the background sets
interrupts and quits aside, but only once its process is under way, and it is not while the
clock still reads the job's start: until then the process takes them as the shell passed
them on, ignored when the shell ignores them, caught when the shell of the `posix` dialect
traps them, and a quit ignored at all times in the `bash` dialect. -/
def endsJob (sh : Session) (j : Job) (signal : Nat) : Bool :=
  if signal == 2 || signal == 3 then
    j.since == sh.workspace.clock && !sh.passedIgnored.contains signal &&
      match sh.dialect with
      | .bash => signal == 2
      | .posix => (sh.trapFor? signal).isNone
  else endsProcess signal

/-- Whether a signal that reaches a job's process now ends it: the process is alive and the
signal ends it, or in the `posix` dialect the process caught an interrupt at its start, which
ends it only once it is under way, so that another signal that ends it comes first. -/
def takesSignal (sh : Session) (j : Job) (signal : Nat) : Bool :=
  sh.endsJob j signal &&
    (j.alive sh.workspace.clock ||
      sh.dialect == .posix && signal != 2 && j.signal == some 2 && j.since == sh.workspace.clock)

/-- The shell once a signal reached the job of a process number, whose process is there: a
signal that ends the process ends the job now, with the status of a process the signal
ended, and what the job would have written after now never comes out. -/
def signalJob (sh : Session) (pid signal : Nat) : Session :=
  if sh.jobs.any fun j => j.pid == pid && sh.takesSignal j signal then
    { sh with jobs := sh.jobs.map (fun j =>
        if j.pid == pid then { j with status := 128 + signal, signal := some signal, ends := some sh.workspace.clock }
        else j),
              later := sh.later.filter fun l => !(l.jobs.contains pid && sh.workspace.clock < l.time) }
  else sh

/-- A signal that reaches the shell's own process: nothing when the shell ignores it,
kept for its trap when it has one, and otherwise the end of the shell when the signal
ends a process. `KILL` and `STOP` cannot be ignored or caught. Gives the signal that
ends the shell, if one does. -/
def deliver (sh : Session) (signal : Nat) : Session × Option Nat :=
  let trap := if signal == 9 || signal == 19 then none
    else if sh.ignored.contains signal then some "" else sh.trapFor? signal
  match trap with
  | some "" => (sh, none)
  | some _ => ({ sh with pending := sh.pending ++ [signal] }, none)
  | none => (sh, if terminates signal then some signal else none)

/-- The shell once the signals sent to it by its copies arrive: in a copy they wait to go
on up, and the shell itself gets them in order, until one ends it (`deliver`). Gives the
signal that ends the shell, if one does. -/
def deliverSent (sh : Session) : Session × Option Nat :=
  if sh.copy then (sh, none)
  else sh.sentUp.foldl (fun (sh, dead) n => if dead.isSome then (sh, dead) else sh.deliver n) ({ sh with sentUp := [] }, none)

/-- The shell after a copy of it ended, with the signals the copy sent by `$$`
(`deliverSent`). -/
def afterCopy (sh : Session) (c : Session) : Session × Option Nat :=
  { sh with sentUp := sh.sentUp ++ c.sentUp }.deliverSent

/-- A copy of the shell for a process of its own: it sends signals to `$$` up to the shell,
and starts with none sent; in the POSIX dialect the jobs of the shell are not its own. -/
def asCopy (sh : Session) : Session :=
  let sh := { sh with copy := true, sentUp := [] }
  if sh.dialect == .posix then sh.forgetJobs else sh

/-- The traps a subshell starts with: only ignored signals stay ignored. -/
def subshellTraps (sh : Session) : List (Nat × String) := sh.traps.filter (·.2.isEmpty)

/-- The characters that split fields: the value of `IFS`, or blank, tab and line end when
it is not set. -/
def ifs (sh : Session) : List Char := ((sh.lookupVar "IFS").map String.toList).getD [' ', '\t', '\n']

/-- What joins the positional parameters in `$*`: the first character of `IFS`, a blank
when it is not set, and nothing when it is empty. -/
def paramSeparator (sh : Session) : String :=
  match sh.ifs with
  | c :: _ => c.toString
  | [] => ""

/-- The line that `LINENO` gives for a line of the script: inside a function, counted
from the line the function was defined on, which is below one for the commands between
grave accents, whose lines count from one; in the `bash` dialect the line itself. -/
def lineNumber (sh : Session) (line : Nat) : Int :=
  if sh.functionLine = 0 || sh.dialect == .bash then line else (line : Int) + 1 - sh.functionLine

/-- The value of a parameter, if it is set. `$!` is the process number of the last job
started in the background, unset before the first; in the `bash` dialect `LINENO` is
the line of the command being run (the POSIX dialect has no such variable of its own),
`BASH_COMMAND` the simple command being run,
`SHELLOPTS` and `BASHOPTS` the options of `set -o` and of `shopt` that are on; `$-` lists
the letters of the options that are on, from the last of
`optionTable` to the first. -/
def lookup (sh : Session) : Param → Option String
  | .var "LINENO" => if sh.dialect == .bash then some (toString (sh.lineNumber sh.line)) else sh.lookupVar "LINENO"
  | .var "BASH_COMMAND" => if sh.dialect == .bash then some sh.commandText else sh.lookupVar "BASH_COMMAND"
  | .var "SHELLOPTS" =>
    if sh.dialect == .bash then some (":".intercalate (sh.options.mergeSort (· ≤ ·))) else sh.lookupVar "SHELLOPTS"
  | .var "BASHOPTS" =>
    if sh.dialect == .bash then some (":".intercalate (sh.shopts.mergeSort (· ≤ ·))) else sh.lookupVar "BASHOPTS"
  | .var n => sh.lookupVar n
  | .positional 0 => some sh.name
  | .positional (k + 1) => sh.args[k]?
  | .count => some (toString sh.args.length)
  | .joined | .each => some (sh.paramSeparator.intercalate sh.args)
  | .pid => some (toString sh.pid)
  | .status => some (toString sh.status)
  | .lastJob => sh.lastBackground.map toString
  | .flags =>
    match sh.dialect with
    | .posix => some (String.ofList (optionTable.reverse.filterMap fun (n, l) => if sh.isOn n then l else none))
    | .bash =>
      -- after the options, `c` for a shell given its commands after `-c`, `s` for one reading them on its input
      let how := if sh.givenText then "c" else if sh.scriptFile.isNone then "s" else ""
      some (String.ofList (bashFlagOrder.filterMap fun (n, l) =>
        if n == "hashall" || n == "braceexpand" || sh.isOn n then some l else none) ++ how)

/-- The value of a parameter as one text, empty when it is not set. -/
def param (sh : Session) (p : Param) : String := (sh.lookup p).getD ""

/-- How a parameter is named in a message. -/
def paramName : Param → String
  | .var n => n
  | .positional n => toString n
  | .count => "#"
  | .joined => "*"
  | .each => "@"
  | .pid => "$"
  | .status => "?"
  | .lastJob => "!"
  | .flags => "-"

/-- The shell with some writes of jobs come out, in the order of their clocks. -/
def release (sh : Session) (writes : List Later) : Session :=
  (writes.mergeSort fun a b => a.time ≤ b.time).foldl
    (fun sh l => if l.toErr then { sh with err := sh.err ++ l.bytes } else { sh with out := sh.out ++ l.bytes }) sh

/-- The shell with the writes of jobs that its clock has reached come out. -/
def releaseDue (sh : Session) : Session :=
  if sh.later.isEmpty then sh
  else
    let (due, rest) := sh.later.partition (·.time ≤ sh.workspace.clock)
    { sh with later := rest }.release due

/-- The shell with every write of jobs come out: the jobs go on after the shell, and what
they write still reaches its output. -/
def releaseAll (sh : Session) : Session := { sh with later := [] }.release sh.later

/-- Writes bytes to standard output or standard error: in a job that slept, at the job's
clock, and otherwise at once, after the writes of jobs that came before. -/
def output (sh : Session) (toErr : Bool) (bs : List UInt8) : Session :=
  if sh.deferSince.any (· < sh.workspace.slept) then
    { sh with later := sh.later ++ [⟨sh.workspace.clock, sh.jobPids, toErr, bs⟩] }
  else
    let sh := sh.releaseDue
    if toErr then { sh with err := sh.err ++ bs } else { sh with out := sh.out ++ bs }

/-- Writes bytes where a destination leads. -/
def emit (sh : Session) (d : Dest) (bs : List UInt8) : Session :=
  if bs.isEmpty then sh
  else
    match d with
    | .stdout => sh.output false bs
    | .stderr => sh.output true bs
    | .pipe => { sh with piped := sh.piped ++ bs }
    | .file loc => { sh with workspace := sh.workspace.put loc (sh.workspace.contentAt loc ++ bs) }
    | .toCoproc id => { sh with coprocs := sh.coprocs.map fun c => if c.id == id then { c with input := c.input ++ bs } else c }
    | _ => sh

/-- Whether a descriptor of a table may be written: it is open, and not only for reading. -/
def writable (fds : List (Nat × Dest)) (fd : Nat) : Bool :=
  match destOf fds fd with
  | .closed | .input _ | .source .. | .full | .directory | .fromCoproc _ => false
  | _ => true

/-- Why a write to a descriptor of a table fails, if it does. -/
def writeFault? (fds : List (Nat × Dest)) (fd : Nat) : Option String :=
  match destOf fds fd with
  | .closed | .input _ | .source .. | .directory | .fromCoproc _ => some "Bad file descriptor"
  | .full => some "No space left on device"
  | _ => none

/-- Writes bytes to a descriptor, as they are; a write to standard output that fails is
noted. -/
def writeOut (sh : Session) (fds : List (Nat × Dest)) (fd : Nat) (bs : List UInt8) : Session :=
  if !writable fds fd then
    if fd == 1 && !bs.isEmpty then { sh with writeFailed := true } else sh
  else sh.emit (destOf fds fd) bs

/-- Writes bytes to a descriptor; a write to standard output that fails is noted, and
one made while a built-in command holds its output is held: all of it in the `posix`
dialect, and in the `bash` dialect, whose standard output goes out line by line, what
follows the last line end. -/
def write (sh : Session) (fds : List (Nat × Dest)) (fd : Nat) (bs : List UInt8) : Session :=
  match sh.held with
  | some held =>
    if fd != 1 then sh.writeOut fds fd bs
    else if sh.dialect == .bash && bs.contains 10 then
      let all := held ++ bs
      let tail := all.reverse.takeWhile (· != 10) |>.reverse
      ({ sh with held := some tail } : Session).writeOut fds 1 (all.take (all.length - tail.length))
    else { sh with held := some (held ++ bs) }
  | none => sh.writeOut fds fd bs

/-- Writes a text to a descriptor. -/
def say (sh : Session) (fds : List (Nat × Dest)) (fd : Nat) (s : String) : Session := sh.write fds fd (bytesOf s)

/-- The text of a path of the shell, as the file system names it. -/
def pathText (p : String) : String := Text.ofByteString p

/-- Where a path of the shell leads from the current directory. -/
def find (sh : Session) (p : String) : Found := sh.workspace.find sh.cwd (pathText p)

/-- The kind of what a path of the shell names, if anything. -/
def kindOf? (sh : Session) (p : String) : Option Kind := sh.workspace.kindOf? sh.cwd (pathText p)

/-- The bytes of the file a path of the shell names. -/
def readPath (sh : Session) (p : String) : Except Fault (List UInt8) := sh.workspace.readAt sh.cwd (pathText p)

/-- The names in a directory, as byte strings. -/
def namesAt (sh : Session) (dir : Location) : List String := (sh.workspace.namesIn dir).map Text.utf8Bytes

/-- The current directory as the shell writes it. -/
def cwdText (sh : Session) : String := Text.utf8Bytes (Workspace.showLocation sh.cwd)

/-- The name the `bash` dialect gives its messages: the file of the innermost function or
file read by `source` that runs (`BASH_SOURCE`), or else the shell's own name. -/
def errorName (sh : Session) : String :=
  match sh.calls with
  | f :: _ => if f.file.isEmpty then sh.name else f.file
  | [] => sh.name

/-- Reports a problem of the shell itself: its name, the line, and the message. -/
def complain (sh : Session) (fds : List (Nat × Dest)) (line : Nat) (msg : String) : Session :=
  match sh.dialect with
  | .posix =>
    let within := match sh.context with
      | some c => c ++ ": "
      | none => ""
    sh.say fds 2 (sh.name ++ ": " ++ toString line ++ ": " ++ within ++ msg ++ "\n")
  | .bash => sh.say fds 2 (sh.errorName ++ ": line " ++ toString line ++ ": " ++ msg ++ "\n")

end Session

end HelpMan.Shell
