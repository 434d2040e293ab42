import HelpMan.Tools.Print

/-!
# `env`: the environment and the signals of a command

`envRequest` reads the arguments of `env` as the program of the system reads them, one option at a
time, so that the first problem met is the one reported:

- `-i` (or a first operand `-`) starts from an empty environment, `-u NAME` removes a
  variable, and the operands `NAME=VALUE` before the command set variables;
- `-S TEXT` cuts a text into words (`splitWords`) that take its place among the
  arguments, as a line that starts a script passes several of them as one;
- `--default-signal`, `--ignore-signal` and `--block-signal`, each with a list of
  signals or none for all of them, change how the command handles signals, and
  `--list-signal-handling` writes the signals it ignores or blocks (`SignalPlan`);
- `-v` writes what `env` does, step by step, on standard error.

The shell then runs the command: `EnvRequest.settle`, `EnvRequest.signalNotes` and the
notes of `chdirNote` and `execNotes` are what `env` writes before it, in order, and
`EnvRequest.ignoredAfter` is what the command starts with ignored.

Signals are read by name or number as the C library reads them (`signalOperand?`): the
names of `signalTable` in any case, with or without `SIG`, and `RTMIN+k`, `RTMAX-k` for
the real-time signals.
-/

namespace HelpMan.Tools

/-! ## Signals by name -/

/-- The names of the signals, in the order the C library looks them up: several names may
stand for one signal, and the first of them is the one it writes. -/
def signalTable : List (String × Nat) :=
  [("HUP", 1), ("INT", 2), ("QUIT", 3), ("ILL", 4), ("TRAP", 5), ("ABRT", 6), ("FPE", 8), ("KILL", 9),
   ("SEGV", 11), ("BUS", 7), ("PIPE", 13), ("ALRM", 14), ("TERM", 15), ("USR1", 10), ("USR2", 12),
   ("CHLD", 17), ("URG", 23), ("STOP", 19), ("TSTP", 20), ("CONT", 18), ("TTIN", 21), ("TTOU", 22),
   ("SYS", 31), ("POLL", 29), ("VTALRM", 26), ("PROF", 27), ("XCPU", 24), ("XFSZ", 25), ("IOT", 6),
   ("CLD", 17), ("PWR", 30), ("WINCH", 28), ("IO", 29), ("STKFLT", 16), ("EXIT", 0)]

/-- The first real-time signal. -/
def realtimeFirst : Nat := 34

/-- The last signal there is, a real-time one. -/
def realtimeLast : Nat := 64

/-- The name the C library writes for a signal: its first name in `signalTable`, or for a
real-time signal `RTMIN` and its distance from the first one in the lower half of their
range, `RTMAX` and its distance from the last one in the upper half; `none` for a number
that names no signal. -/
def signalLabel? (n : Nat) : Option String :=
  match signalTable.find? (·.2 == n) with
  | some (name, _) => some name
  | none =>
    if realtimeFirst ≤ n && n ≤ realtimeLast then
      if n ≤ realtimeFirst + (realtimeLast - realtimeFirst) / 2 then
        some ("RTMIN" ++ (if n == realtimeFirst then "" else "+" ++ toString (n - realtimeFirst)))
      else some ("RTMAX" ++ (if n == realtimeLast then "" else "-" ++ toString (realtimeLast - n)))
    else none

/-- The name of a signal, or its number when it has none. -/
def signalLabel (n : Nat) : String := (signalLabel? n).getD (toString n)

/-- Whether a character is white space to the C library. -/
def isCSpace (c : Char) : Bool :=
  c == ' ' || c == '\t' || c == '\n' || c == '\x0b' || c == '\x0c' || c == '\r'

/-- An offset after `RTMIN` or `RTMAX`: nothing at all (zero), or white space, a sign and
decimal digits, with nothing after them. -/
def offsetOf? (s : String) : Option Int :=
  if s.isEmpty then some 0
  else
    let cs := s.toList.dropWhile isCSpace
    let (negative, ds) : Bool × List Char := match cs with
      | '-' :: r => (true, r)
      | '+' :: r => (false, r)
      | r => (false, r)
    if ds.isEmpty || !ds.all Char.isDigit then none
    else
      let n : Int := digitsNat ds
      some (if negative then -n else n)

/-- The signal a name in capitals stands for: a name of `signalTable`, or `RTMIN` with an
offset up into the real-time signals, or `RTMAX` with one down into them. -/
def signalNamed? (name : String) : Option Nat :=
  let span : Int := (realtimeLast - realtimeFirst : Nat)
  match signalTable.find? (·.1 == name) with
  | some (_, n) => some n
  | none =>
    let cs := name.toList
    if cs.take 5 == "RTMIN".toList then
      (offsetOf? (String.ofList (cs.drop 5))).bind fun k =>
        if 0 ≤ k && k ≤ span then some (realtimeFirst + k.toNat) else none
    else if cs.take 5 == "RTMAX".toList then
      (offsetOf? (String.ofList (cs.drop 5))).bind fun k =>
        if -span ≤ k && k ≤ 0 then some (realtimeLast - k.natAbs) else none
    else none

/-- The signal a number given for one stands for: a status that a signal ended a process
with (its low seven bits from 1 to 126) stands for that signal. -/
def signalOfNumber (i : Nat) : Nat :=
  let low := i % 128
  if 1 ≤ low && low ≤ 126 then low else i

/-- The signal an operand names: decimal digits that fit in a C `int`, read by
`signalOfNumber`, or a name in any case of ASCII letters, with or without `SIG`. `EXIT`
and `0` name signal 0; `none` when the operand names no signal. -/
def signalOperand? (operand : String) : Option Nat :=
  let n? : Option Nat :=
    match operand.toList with
    | c :: _ =>
      if c.isDigit then
        if operand.toList.all Char.isDigit && digitsNat operand.toList < Nat.pow 2 31 then
          some (signalOfNumber (digitsNat operand.toList))
        else none
      else
        let upper := operand.toList.map fun c => if c.isLower then c.toUpper else c
        match signalNamed? (String.ofList upper) with
        | some n => some n
        | none => if upper.take 3 == "SIG".toList then signalNamed? (String.ofList (upper.drop 3)) else none
    | [] => none
  n?.bind fun n => (signalLabel? n).map fun _ => n

example : signalOperand? "int" = some 2 ∧ signalOperand? "SIGrtmin+2" = some 36 ∧ signalOperand? "130" = some 2 ∧
    signalOperand? "32" = none ∧ signalLabel? 50 = some "RTMAX-14" ∧ signalOperand? "exit" = some 0 := by
  decide +kernel

/-- The signals there are, 1 to 64, without the two that the C library keeps for itself. -/
def allSignals : List Nat := (List.range' 1 realtimeLast).filter fun n => (signalLabel? n).isSome

/-! ## What `env` does with signals -/

/-- What `env` does to how the command handles a signal: give it its default action, or
ignore it. `quiet` when it was asked for every signal at once: a signal whose handling
cannot change is then passed over without a word. -/
inductive Handling where
  | reset (quiet : Bool)
  | ignore (quiet : Bool)
  deriving DecidableEq, Repr

/-- What `env` is asked to do with signals: how the command handles some of them, which
signals it blocks and unblocks once the mask is to change, and whether to list the
signals the command ignores or blocks. -/
structure SignalPlan where
  handling : List (Nat × Handling)
  blocked : List Nat
  unblocked : List Nat
  maskChanged : Bool
  listed : Bool

/-- A plan that changes nothing. -/
def SignalPlan.unchanged : SignalPlan := ⟨[], [], [], false, false⟩

/-- The signals a list names, parted by commas; the message of the first item that names
no signal, or names signal 0. -/
def signalsOf (text : String) : Except String (List Nat) :=
  ((text.splitOn ",").filter (!·.isEmpty)).mapM fun item =>
    match signalOperand? item with
    | some n => if n == 0 then .error item else .ok n
    | none => .error item

/-- The plan with a handling for the signals an option names, or for all of them when it
names none. -/
def SignalPlan.handle (p : SignalPlan) (arg : Option String) (toDefault : Bool) : Except String SignalPlan :=
  let mk (quiet : Bool) : Handling := if toDefault then .reset quiet else .ignore quiet
  let set (p : SignalPlan) (n : Nat) (h : Handling) : SignalPlan :=
    { p with handling := (n, h) :: p.handling.filter (·.1 != n) }
  match arg with
  | none => .ok (allSignals.foldl (fun p n => set p n (mk true)) p)
  | some text => (signalsOf text).map fun ns => ns.foldl (fun p n => set p n (mk false)) p

/-- The plan with the signals an option names blocked (or unblocked), or all of them when
it names none; a signal named is taken out of the other list. -/
def SignalPlan.mask (p : SignalPlan) (arg : Option String) (block : Bool) : Except String SignalPlan :=
  match arg with
  | none =>
    .ok { p with blocked := if block then allSignals else [], unblocked := if block then [] else allSignals,
                 maskChanged := true }
  | some text =>
    let p := if p.maskChanged then p else { p with blocked := [], unblocked := [] }
    (signalsOf text).map fun ns => ns.foldl (fun p n =>
      if block then { p with blocked := p.blocked ++ [n], unblocked := p.unblocked.filter (· != n) }
      else { p with unblocked := p.unblocked ++ [n], blocked := p.blocked.filter (· != n) })
      { p with maskChanged := true }

/-- Whether a signal can be neither caught, ignored nor blocked: `KILL` and `STOP`. -/
def isFixed (n : Nat) : Bool := n == 9 || n == 19

/-- The signals the command starts with ignored, when `env` started with `inherited`
ignored: those it was asked to ignore are added and those it was asked to reset are taken
out, but for `KILL` and `STOP`, which are never ignored. -/
def SignalPlan.ignoredAfter (p : SignalPlan) (inherited : List Nat) : List Nat :=
  allSignals.filter fun n =>
    !isFixed n &&
      match p.handling.lookup n with
      | some (.reset _) => false
      | some (.ignore _) => true
      | none => inherited.contains n

/-- The signals the command starts with blocked: those asked for, but `KILL` and `STOP`. -/
def SignalPlan.blockedAfter (p : SignalPlan) : List Nat :=
  if p.maskChanged then allSignals.filter fun n => !isFixed n && p.blocked.contains n else []

/-! ## The request -/

/-- What `env` is asked to do: start from an empty environment, remove variables, set
others, write the environment ended by zero bytes, change the directory, run a command
(the environment is written when there is none), write notes of what it does (`debug`),
and what to do with signals. `notes` is what it already wrote while reading its
options. -/
structure EnvRequest where
  clear : Bool
  unset : List String
  assigns : List (String × String)
  null : Bool
  chdir : Option String
  command : List String
  debug : Bool
  plan : SignalPlan
  notes : String

/-- The options of `env`, in the order it knows them; the options without a letter stand
for themselves by the keys 1 to 4, and a blank or a tab in a cluster is an option only so
that it can be refused. -/
def envSpec : Spec :=
  ⟨"+C:iS:u:v0 \t", [⟨"ignore-environment", .nothing, 'i'⟩, ⟨"null", .nothing, '0'⟩, ⟨"unset", .required, 'u'⟩,
    ⟨"chdir", .required, 'C'⟩, ⟨"default-signal", .optional, '\x01'⟩, ⟨"ignore-signal", .optional, '\x02'⟩,
    ⟨"block-signal", .optional, '\x03'⟩, ⟨"list-signal-handling", .nothing, '\x04'⟩, ⟨"debug", .nothing, 'v'⟩,
    ⟨"split-string", .required, 'S'⟩]⟩

/-- The character a backslash stands for in the text of `env -S`. -/
def splitEscape (c : Char) : Option Char :=
  [('\\', '\\'), ('"', '"'), ('\'', '\''), ('#', '#'), ('$', '$'), ('f', '\x0c'), ('n', '\n'), ('r', '\r'),
    ('t', '\t'), ('v', '\x0b'), ('_', ' ')].lookup c

/-- Cuts the text of `env -S` into words. Blanks part them; single quotes keep what they
hold but for the escapes of a backslash and a quote; double quotes keep blanks; outside
single quotes a backslash gives the character of `splitEscape`, except that `\_` parts
words outside quotes and `\c` ends the text; `#` at the start of a word ends it. The word
being read, if one is, and the quote that is open are carried along. -/
def splitWords : Nat → List Char → Option String → Option Char → List String → Except String (List String)
  | 0, _, cur, _, acc => .ok (acc ++ cur.toList)
  | _ + 1, [], cur, none, acc => .ok (acc ++ cur.toList)
  | _ + 1, [], _, some _, _ => .error "no terminating quote in -S string"
  | fuel + 1, c :: rest, cur, q, acc =>
    let add (s : Char) : Option String := some (cur.getD "" ++ s.toString)
    let escaped (more : List Char) (d : Char) (inside : Option Char) : Except String (List String) :=
      match splitEscape d with
      | some e => splitWords fuel more (add e) inside acc
      | none => .error ("invalid sequence '\\" ++ d.toString ++ "' in -S")
    match q with
    | some '\'' =>
      match c, rest with
      | '\'', _ => splitWords fuel rest cur none acc
      | '\\', d :: more =>
        if d = '\\' || d = '\'' then splitWords fuel more (add d) q acc else splitWords fuel rest (add c) q acc
      | _, _ => splitWords fuel rest (add c) q acc
    | some d =>
      match c, rest with
      | '"', _ => splitWords fuel rest cur none acc
      | '\\', [] => .error "invalid backslash at end of string in -S"
      | '\\', e :: more => escaped more e (some d)
      | _, _ => splitWords fuel rest (add c) q acc
    | none =>
      if c = ' ' || c = '\t' || c = '\n' || c = '\r' || c = '\x0b' || c = '\x0c' then
        splitWords fuel rest none none (acc ++ cur.toList)
      else if c = '\'' || c = '"' then splitWords fuel rest (some (cur.getD "")) (some c) acc
      else if c = '#' && cur.isNone then .ok acc
      else if c = '\\' then
        match rest with
        | '_' :: more => splitWords fuel more none none (acc ++ cur.toList)
        | 'c' :: _ => .ok (acc ++ cur.toList)
        | d :: more => escaped more d none
        | [] => .error "invalid backslash at end of string in -S"
      else splitWords fuel rest (add c) none acc

/-- The long option of `env` that a name after `--` stands for: the one of that name, or
the only one it begins. -/
def envLong? (typed : String) : Option LongOption :=
  match envSpec.longs.find? (·.name == typed) with
  | some o => some o
  | none =>
    match envSpec.longs.filter (·.name.startsWith typed) with
    | [o] => some o
    | _ => none

/-- How a word among the options of `env` goes on: it gives the text of `-S` (with the
options of its cluster before `S`, and the words after it), it takes the next word as its
argument, or it is an option on its own; and whether it turns on the notes. -/
inductive EnvWord where
  | split (before : List String) (text : String) (rest : List String)
  | withArgument
  | alone
  deriving Repr

/-- Reads a word among the options of `env`, with the words after it. -/
def envWord (a : String) (rest : List String) : EnvWord × Bool :=
  match a.toList with
  | '-' :: '-' :: cs =>
    let typed := String.ofList (cs.takeWhile (· != '='))
    let value : Option String := if cs.contains '=' then some (String.ofList ((cs.dropWhile (· != '=')).drop 1)) else none
    match envLong? typed with
    | some o =>
      if o.key == 'S' then
        match value, rest with
        | some v, _ => (.split [] v rest, false)
        | none, v :: more => (.split [] v more, false)
        | none, [] => (.alone, false)
      else if o.takes == .required && value.isNone then (.withArgument, false)
      else (.alone, o.key == 'v')
    | none => (.alone, false)
  | '-' :: cs =>
    let before (seen : List Char) : List String := if seen.isEmpty then [] else [String.ofList ('-' :: seen)]
    let rec letters : List Char → List Char → Bool → EnvWord × Bool
      | [], _, debug => (.alone, debug)
      | 'S' :: more, seen, debug =>
        if more.isEmpty then
          match rest with
          | v :: after => (.split (before seen) v after, debug)
          | [] => (.alone, debug)
        else (.split (before seen) (String.ofList more) rest, debug)
      | c :: more, seen, debug =>
        if c == 'C' || c == 'u' then (if more.isEmpty then .withArgument else .alone, debug)
        else letters more (seen ++ [c]) (debug || c == 'v')
    letters cs [] false
  | _ => (.alone, false)

/-- The arguments of `env` with the words of its first `-S` in place of it and its text,
and the note that it writes on them when the notes were turned on before it. -/
def spliceSplit (debug : Bool) : List String → Except String (List String × String)
  | [] => .ok ([], "")
  | a :: rest =>
    if a == "--" || !a.startsWith "-" || a == "-" then .ok (a :: rest, "")
    else
      match envWord a rest with
      | (.split front text after, seen) =>
        (splitWords (text.length + 1) text.toList none none []).map fun ws =>
          let note := if !(debug || seen) then "" else
            "split -S:  " ++ quote text ++ "\n" ++ (match ws with
              | w :: more => " into:    " ++ quote w ++ "\n" ++ String.join (more.map fun m => "     &    " ++ quote m ++ "\n")
              | [] => "")
          (front ++ ws ++ after, note)
      | (.withArgument, seen) =>
        match rest with
        | v :: more => (spliceSplit (debug || seen) more).map fun (ws, note) => (a :: v :: ws, note)
        | [] => .ok (a :: rest, "")
      | (.alone, seen) => (spliceSplit (debug || seen) rest).map fun (ws, note) => (a :: ws, note)

/-- Acts on one option of `env`; the message when it names no signal it may name, or
is a blank or a tab. -/
def EnvRequest.take (r : EnvRequest) : Char × Option String → Except String EnvRequest
  | ('i', _) => .ok { r with clear := true }
  | ('u', some v) => .ok { r with unset := r.unset ++ [v] }
  | ('v', _) => .ok { r with debug := true }
  | ('0', _) => .ok { r with null := true }
  | ('C', some d) => .ok { r with chdir := some d }
  | ('\x01', a) => do
    let p ← r.plan.handle a true
    let p ← p.mask a false
    return { r with plan := p }
  | ('\x02', a) => (r.plan.handle a false).map fun p => { r with plan := p }
  | ('\x03', a) => (r.plan.mask a true).map fun p => { r with plan := p }
  | ('\x04', _) => .ok { r with plan := { r.plan with listed := true } }
  | (c, _) =>
    if c == ' ' || c == '\t' then
      .error ("env: invalid option -- '" ++ c.toString ++ "'\nenv: use -[v]S to pass options in shebang lines\n")
    else .ok r

/-- Reads the arguments of `env`; a problem is its message and status. -/
def envRequest (args : List String) : Except (String × Nat) EnvRequest :=
  match spliceSplit false args with
  | .error e => .error ("env: " ++ e ++ "\n", 125)
  | .ok (args, note) =>
    let (o, problem) := Options.readSoFar "env" envSpec (args.length + 1) args ⟨[], []⟩
    let start : EnvRequest := ⟨false, [], [], false, none, [], false, SignalPlan.unchanged, note⟩
    match o.given.foldlM EnvRequest.take start with
    | .error e =>
      let e := if e.startsWith "env: " then e else "env: " ++ quote e ++ ": invalid signal\n"
      .error (note ++ e ++ tryHelp "env", 125)
    | .ok r =>
      match problem with
      | some e => .error (note ++ e ++ tryHelp "env", 125)
      | none =>
        let (clear, operands) := match o.operands with
          | "-" :: rest => (true, rest)
          | rest => (r.clear, rest)
        let assigns := (operands.takeWhile (·.contains '=')).map fun a =>
          (String.ofList (a.toList.takeWhile (· ≠ '=')), String.ofList ((a.toList.dropWhile (· ≠ '=')).drop 1))
        .ok { r with clear := clear, assigns := assigns, command := operands.dropWhile (·.contains '=') }

/-- A note of `env`, written only in debug mode. -/
def EnvRequest.note (r : EnvRequest) (text : String) : String := if r.debug then text else ""

/-- What `env` writes as it makes the environment, or that and the problem that stops it:
the notes of reading its options, then it empties the environment or removes the
variables asked for (a name that is empty or holds `=` cannot be removed), sets the
variables, and checks that a command is given with `-C` and none with `-0`. -/
def EnvRequest.settle (r : EnvRequest) : Except (String × Nat) String := do
  let text ← if r.clear then pure (r.notes ++ r.note "cleaning environ\n")
    else r.unset.foldlM (fun text u =>
      let text := text ++ r.note ("unset:    " ++ u ++ "\n")
      if u.isEmpty || u.contains '=' then .error (text ++ "env: cannot unset " ++ quote u ++ ": Invalid argument\n", 125)
      else .ok text) r.notes
  let text := text ++ String.join (r.assigns.map fun (n, v) => r.note ("setenv:   " ++ n ++ "=" ++ v ++ "\n"))
  if r.null && !r.command.isEmpty then
    throw (text ++ "env: cannot specify --null (-0) with command\n" ++ tryHelp "env", 125)
  if r.chdir.isSome && r.command.isEmpty then
    throw (text ++ "env: must specify command with --chdir (-C)\n" ++ tryHelp "env", 125)
  return text

/-- A line of the list of how signals are handled: the name, the number, and whether the
signal is blocked and ignored. -/
def handlingLine (n : Nat) (blocked ignored : Bool) : String :=
  let name := signalLabel n
  name ++ String.ofList (List.replicate (10 - name.length) ' ') ++ " (" ++ (if n < 10 then " " else "") ++
    toString n ++ "): " ++ (if blocked then "BLOCK" else "") ++ (if blocked && ignored then "," else "") ++
    (if ignored then "IGNORE" else "") ++ "\n"

/-- What `env` writes as it sets up the signals of the command, when it started with
`inherited` ignored, or that and the problem that stops it: it resets or ignores the
signals asked for (`KILL` and `STOP` refuse, which stops it unless every signal was asked
for), sets the mask, and lists the signals the command will find ignored or blocked. -/
def EnvRequest.signalNotes (r : EnvRequest) (inherited : List Nat) : Except (String × Nat) String := do
  let p := r.plan
  let text ← allSignals.foldlM (fun text n =>
    match p.handling.lookup n with
    | none => .ok text
    | some h =>
      let (toDefault, quiet) := match h with
        | .reset q => (true, q)
        | .ignore q => (false, q)
      if isFixed n && !quiet then
        .error (text ++ "env: failed to set signal action for signal " ++ toString n ++ ": Invalid argument\n", 125)
      else
        .ok (text ++ r.note ("Reset signal " ++ signalLabel n ++ " (" ++ toString n ++ ") to " ++
          (if toDefault then "DEFAULT" else "IGNORE") ++ (if isFixed n then " (failure ignored)" else "") ++ "\n")))
    ""
  let text := if !p.maskChanged then text
    else text ++ String.join (allSignals.map fun n =>
      if p.blocked.contains n then r.note ("signal " ++ signalLabel n ++ " (" ++ toString n ++ ") mask set to BLOCK\n")
      else if p.unblocked.contains n then
        r.note ("signal " ++ signalLabel n ++ " (" ++ toString n ++ ") mask set to UNBLOCK\n")
      else "")
  let ignored := p.ignoredAfter inherited
  let blocked := p.blockedAfter
  let text := if !p.listed then text
    else text ++ String.join (allSignals.map fun n =>
      if ignored.contains n || blocked.contains n then handlingLine n (blocked.contains n) (ignored.contains n) else "")
  return text

/-- The note of `env` before it changes the directory. -/
def EnvRequest.chdirNote (r : EnvRequest) : String :=
  match r.chdir with
  | some d => r.note ("chdir:    " ++ quoteAlways d ++ "\n")
  | none => ""

/-- The notes of `env` before it runs the command: its name, and each of its arguments. -/
def EnvRequest.execNotes (r : EnvRequest) : String :=
  match r.command with
  | [] => ""
  | n :: _ =>
    r.note ("executing: " ++ n ++ "\n" ++
      String.join (r.command.zipIdx.map fun (a, k) => "   arg[" ++ toString k ++ "]= " ++ quote a ++ "\n"))

/-- The hint of `env` when a command it could not find holds white space: the options of a
line that starts a script come as one word. -/
def shebangHint (name : String) : String :=
  if name.toList.any isCSpace then "env: use -[v]S to pass options in shebang lines\n" else ""

/-- Sets a variable of an environment: in its place when it is set, last otherwise. -/
def setEnv (env : List (String × String)) (n v : String) : List (String × String) :=
  if env.any (·.1 == n) then env.map fun (m, w) => if m == n then (m, v) else (m, w) else env ++ [(n, v)]

/-- The environment that a request leaves. -/
def EnvRequest.apply (r : EnvRequest) (env : List (String × String)) : List (String × String) :=
  let env := if r.clear then [] else env
  let env := env.filter fun (n, _) => !r.unset.contains n
  r.assigns.foldl (fun env (n, v) => setEnv env n v) env

end HelpMan.Tools
