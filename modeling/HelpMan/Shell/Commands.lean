import HelpMan.Shell.Builtin
import HelpMan.Shell.Variables
import HelpMan.Shell.Format
import HelpMan.Shell.Interactive

/-!
# Built-in commands of the `bash` dialect

In the `bash` dialect some built-in commands take more options or word their problems
otherwise, and some are its own:

* `echo` takes `-e` and `-E` (`echoBash`), `printf` takes `-v name` and quotes with `%q`
  (`printfBash`);
* `declare` (or `typeset`), `local`, `export` and `readonly` take attribute letters and
  assignments kept whole (`DeclArg`), and `declare -p` writes variables back as commands
  (`Session.declaration`);
* `let` computes arithmetic expressions, `shopt` turns the options of its own table on and
  off (`shoptTable`);
* `read` takes `-a`, `-d`, `-n`, `-N`, `-t` and `-u`, and `mapfile` (or `readarray`) reads
  records into an array;
* `kill -l` lists the signals in a table (`signalTable`), `trap` also knows `DEBUG`, `ERR`
  and `RETURN`, and `set` takes the options of its own table (`bashOptions`).

A problem with an option is reported with the command's usage line and status 2; other
problems are reported with status 1, and none of them ends the shell.
-/

namespace HelpMan.Shell

/-- An argument of `declare` and the commands like it: a word, or an assignment that the
shell kept whole, so that its value was neither split nor matched against file names. -/
inductive DeclArg where
  | word (s : String)
  | assign (target : Target) (value : AssignValue)
  deriving DecidableEq, Repr

/-- The options of `set -o` in the `bash` dialect, in the order it lists them. -/
def bashOptions : List String :=
  ["allexport", "braceexpand", "emacs", "errexit", "errtrace", "functrace", "hashall", "histexpand", "history",
   "ignoreeof", "interactive-comments", "keyword", "monitor", "noclobber", "noexec", "noglob", "nolog", "notify",
   "nounset", "onecmd", "physical", "pipefail", "posix", "privileged", "verbose", "vi", "xtrace"]

/-- The letters of `set` in the `bash` dialect, each with the option it stands for. -/
def bashOptionLetters : List (Char × String) :=
  [('a', "allexport"), ('b', "notify"), ('e', "errexit"), ('f', "noglob"), ('h', "hashall"), ('k', "keyword"),
   ('m', "monitor"), ('n', "noexec"), ('p', "privileged"), ('t', "onecmd"), ('u', "nounset"), ('v', "verbose"),
   ('x', "xtrace"), ('B', "braceexpand"), ('C', "noclobber"), ('E', "errtrace"), ('H', "histexpand"),
   ('P', "physical"), ('T', "functrace")]

/-- The options of `set` that are on when a shell of the `bash` dialect starts. -/
def bashStartOptions : List String := ["braceexpand", "hashall", "interactive-comments"]

/-- The options of `shopt`, in the order it lists them, each with whether it is on when the
shell starts. -/
def shoptTable : List (String × Bool) :=
  [("assoc_expand_once", false), ("autocd", false), ("cdable_vars", false), ("cdspell", false),
   ("checkhash", false), ("checkjobs", false), ("checkwinsize", true), ("cmdhist", true), ("compat31", false),
   ("compat32", false), ("compat40", false), ("compat41", false), ("compat42", false), ("compat43", false),
   ("compat44", false), ("complete_fullquote", true), ("direxpand", false), ("dirspell", false),
   ("dotglob", false), ("execfail", false), ("expand_aliases", false), ("extdebug", false), ("extglob", false),
   ("extquote", true), ("failglob", false), ("force_fignore", true), ("globasciiranges", true),
   ("globskipdots", true), ("globstar", false), ("gnu_errfmt", false), ("histappend", false),
   ("histreedit", false), ("histverify", false), ("hostcomplete", true), ("huponexit", false),
   ("inherit_errexit", false), ("interactive_comments", true), ("lastpipe", false), ("lithist", false),
   ("localvar_inherit", false), ("localvar_unset", false), ("login_shell", false), ("mailwarn", false),
   ("no_empty_cmd_completion", false), ("nocaseglob", false), ("nocasematch", false),
   ("noexpand_translation", false), ("nullglob", false), ("patsub_replacement", true), ("progcomp", true),
   ("progcomp_alias", false), ("promptvars", true), ("restricted_shell", false), ("shift_verbose", false),
   ("sourcepath", true), ("varredir_close", false), ("xpg_echo", false)]

/-- A name padded with blanks to 15 columns, as the listings of `set -o` and `shopt` start
their lines. -/
def padName (n : String) : String := n ++ String.ofList (List.replicate (15 - n.length) ' ')

/-- The table of `kill -l`: each signal by its number and its name after `SIG`, five to a
line with tabs between them; the numbers 32 and 33, which name no signal, are left out. -/
def signalTable : String :=
  let numbers := (List.range' 1 64).filter fun n => n ≠ 32 && n ≠ 33
  let entry (n : Nat) : String := (if n < 10 then " " else "") ++ toString n ++ ") SIG" ++ bashSignalName n
  String.join (numbers.zipIdx.map fun (n, i) => entry n ++ (if (i + 1) % 5 = 0 then "\n" else "\t")) ++
    (if numbers.length % 5 = 0 then "" else "\n")

/-- The number `trap` keeps the command of `DEBUG` under, after those of the signals. -/
def debugTrap : Nat := signalCount

/-- The number `trap` keeps the command of `ERR` under. -/
def errTrap : Nat := signalCount + 1

/-- The number `trap` keeps the command of `RETURN` under. -/
def returnTrap : Nat := signalCount + 2

/-- How `trap -p` names what a command is kept for. -/
def trapName (n : Nat) : String :=
  if n = 0 then "EXIT" else if n = debugTrap then "DEBUG" else if n = errTrap then "ERR"
  else if n = returnTrap then "RETURN" else "SIG" ++ bashSignalName n

/-- What an operand of `trap` or `kill -l` names in the `bash` dialect: `EXIT`, `DEBUG`,
`ERR` or `RETURN`, or a signal by its number or its name, in any case and with or without
`SIG`. -/
def bashSignalOf? (s : String) : Option Nat :=
  let u := s.toUpper
  if u == "EXIT" then some 0
  else if u == "DEBUG" then some debugTrap
  else if u == "ERR" then some errTrap
  else if u == "RETURN" then some returnTrap
  else signalNamed? bashSignalName (if u.startsWith "SIG" then String.ofList (u.toList.drop 3) else u)

/-- Whether a value is written as it is by `set`, or quoted: it holds no character that the
shell reads specially. -/
def plainValue (v : String) : Bool :=
  match v.toList with
  | [] => true
  | c :: _ =>
    c ≠ '~' && c ≠ '#' && !v.toList.any fun d => backslashed d && d ≠ ','

/-- A value as `set` lists it: as it is when nothing in it is special, in `$'...'` when it
holds a byte that needs it, and in single quotes otherwise. -/
def listedValue (v : String) : String :=
  if needsAnsiText v then quoteAnsi v else if plainValue v then v else quoteSingle v

/-- The records of an input for `mapfile`: the bytes up to each delimiter, with it, and the
bytes after the last one. -/
def records (delim : UInt8) : Nat → List UInt8 → List (List UInt8)
  | 0, _ => []
  | _ + 1, [] => []
  | fuel + 1, bs =>
    let r := bs.takeWhile (· != delim)
    match bs.drop r.length with
    | [] => [r]
    | _ :: more => (r ++ [delim]) :: records delim fuel more

example : records 10 20 [97, 10, 98] = [[97, 10], [98]] := by decide

/-- How `read` of the `bash` dialect reads: whether backslashes stand for themselves, the
byte that ends the input (none with `-N`), and the most characters to read. -/
structure ReadMode where
  raw : Bool
  delim : Option UInt8
  limit : Option Nat

/-- Reads for `read` of the `bash` dialect: the characters, each with whether a backslash
kept it, whether the delimiter or the count of characters ended the reading, and the bytes
after. Null bytes are passed over, and a backslash before a line end joins the lines. -/
def readUntil (m : ReadMode) : Nat → Nat → List UInt8 → List (Char × Bool) × Bool × List UInt8
  | 0, _, bs => ([], false, bs)
  | fuel + 1, count, bs =>
    if m.limit == some count then ([], true, bs)
    else
      match bs with
      | [] => ([], false, [])
      | b :: rest =>
        if m.delim == some b then ([], true, rest)
        else if b == 0 then readUntil m fuel count rest
        else if b == 92 && !m.raw then
          match rest with
          | 10 :: more => readUntil m fuel count more
          | c :: more =>
            let (l, e, r) := readUntil m fuel (count + 1) more
            ((Char.ofNat c.toNat, true) :: l, e, r)
          | [] => ([], false, [])
        else
          let (l, e, r) := readUntil m fuel (count + 1) rest
          ((Char.ofNat b.toNat, false) :: l, e, r)

/-- The fields of a line that `read -a` reads, split at the separators of `IFS`. -/
def allFields (ifs : List Char) : Nat → List (Char × Bool) → List String
  | 0, _ => []
  | fuel + 1, cs =>
    let cs := cs.dropWhile (Session.separatesWhite ifs)
    if cs.isEmpty then []
    else
      let field := cs.takeWhile (!Session.separates ifs ·)
      String.ofList (field.map Prod.fst) :: allFields ifs fuel (Session.afterSeparator ifs (cs.drop field.length))

example : allFields [':'] 10 ("a::b:".toList.map (·, false)) = ["a", "", "b"] := by decide +kernel

/-- The usage line of a command that declares variables. -/
def declareUsage (name : String) : String :=
  match name with
  | "declare" => "declare [-aAfFgiIlnrtux] [name[=value] ...] or declare -p [-aAfFilnrtux] [name ...]"
  | "typeset" => "typeset [-aAfFgiIlnrtux] name[=value] ... or typeset -p [-aAfFilnrtux] [name ...]"
  | "local" => "local [option] name[=value] ..."
  | "export" => "export [-fn] [name[=value] ...] or export -p"
  | _ => "readonly [-aAf] [name[=value] ...] or readonly -p"

/-- The option letters a command that declares variables takes. -/
def declareLetters (name : String) : List Char :=
  match name with
  | "export" => ['f', 'n', 'p']
  | "readonly" => ['a', 'A', 'f', 'p']
  | _ => "aAfFgiIlnprtux".toList

/-- Reads the options of a command that declares variables: the letters turned on (after
`-`) and off (after `+`), and the arguments after them; a letter the command does not take
is the problem. -/
def declareOptions (letters : List Char) : List DeclArg → Except String (List Char × List Char × List DeclArg)
  | [] => .ok ([], [], [])
  | .word w :: rest =>
    if w == "--" then .ok ([], [], rest)
    else
      match w.toList with
      | s :: c :: cs =>
        if s = '-' || s = '+' then
          match (c :: cs).find? (!letters.contains ·) with
          | some bad => .error (String.ofList [s, bad] ++ ": invalid option")
          | none => do
            let (on, off, more) ← declareOptions letters rest
            return (if s = '-' then c :: cs ++ on else on, if s = '+' then c :: cs ++ off else off, more)
        else .ok ([], [], .word w :: rest)
      | _ => .ok ([], [], .word w :: rest)
  | args => .ok ([], [], args)

/-- An argument of a declaring command as an assignment when it is one: a word whose text
before its first `=` is a target (`name`, `name[key]`, either with `+`) is one. -/
def DeclArg.asAssignment : DeclArg → DeclArg
  | .word w =>
    match Session.splitAssignment w with
    | some (t, v) =>
      let (n, key, append) := Target.parse t
      if isName n then .assign ⟨n, key, append⟩ (.text v) else .word w
    | none => .word w
  | a => a

/-- How an assignment's target is written in a message. -/
def Target.text (t : Target) : String :=
  t.name ++ ((t.key.map fun k => "[" ++ k ++ "]").getD "") ++ (if t.append then "+" else "")

namespace Session

/-- The level of a shell of the `bash` dialect started with a level in its environment:
one more than a number there (none counting as zero), not below zero, and back to one
from a thousand on. -/
def shellLevel (inherited : Option String) : Int :=
  let trimmed (s : String) : String :=
    String.ofList ((s.toList.dropWhile Char.isWhitespace).reverse.dropWhile Char.isWhitespace).reverse
  let level := ((inherited.bind fun s => (trimmed s).toInt?).getD 0) + 1
  if level < 0 then 0 else if level ≥ 1000 then 1 else level

/-- The shell as a shell of a dialect starts: in the `bash` dialect with its options on,
the options of `shopt` at their start, the variables that name its version, `OPTIND` an
integer, and its
level `SHLVL` one more than the level it was started with, exported. -/
def enterDialect (sh : Session) (d : Dialect) : Session :=
  match d with
  | .posix => { sh with dialect := .posix }
  | .bash =>
    let sh := (sh.setVar "SHLVL" (toString (shellLevel (List.lookup "SHLVL" sh.vars)))).markExported "SHLVL"
    let vars := [("BASH_VERSION", "5.2.15(1)-release"), ("HOSTTYPE", "x86_64"), ("MACHTYPE", "x86_64-pc-linux-gnu"),
      ("OSTYPE", "linux-gnu"), ("BASH_SUBSHELL", "0"), ("OPTERR", "1")]
    let version : ArrayValue := .indexed [(0, "5"), (1, "2"), (2, "15"), (3, "1"), (4, "release"),
      (5, "x86_64-pc-linux-gnu")]
    let sh := sh.setAttrs "OPTIND" ['i'] true
    { sh with dialect := .bash, vars := vars.foldl (fun vs (n, v) => setIn vs n v) sh.vars,
              options := (bashStartOptions ++ sh.options).eraseDups,
              shopts := shoptTable.filterMap (fun (n, on) => if on then some n else none),
              arrays := setIn' sh.arrays "BASH_VERSINFO" version }

/-- Whether the shell runs a function or a script read by `source`, where `return` may be
used. -/
def mayReturn (sh : Session) : Bool := sh.functionLine != 0 || !sh.calls.isEmpty

/-! ## Writing -/

/-- Runs `printf` of the `bash` dialect: `-v name` assigns what it writes to a variable
instead. Problems with the arguments are reported before the output, and make the status 1. -/
def printfCommand (sh : Session) (fds : List (Nat × Dest)) (line : Nat) (args : List String) : Step :=
  let usage := "printf [-v var] format [arguments]"
  let (target, rest, bad) : Option String × List String × Option String := match args with
    | "-v" :: v :: more => (some v, more, none)
    | ["-v"] => (none, [], some "-v: option requires an argument")
    | a :: more =>
      if a.startsWith "-v" then (some (String.ofList (a.toList.drop 2)), more, none)
      else if a == "--" then (none, more, none)
      else if a.startsWith "-" && a.length > 1 then (none, more, some (String.ofList (a.toList.take 2) ++ ": invalid option"))
      else (none, args, none)
    | [] => (none, [], none)
  let rest := match target, rest with
    | some _, "--" :: more => more
    | _, r => r
  match bad, rest with
  | some p, _ => sh.usageFail fds line "printf" p usage
  | none, [] => sh.usageFail fds line "printf" "" usage
  | none, format :: more =>
    let r := printfBash format more
    let report (sh : Session) (p : String) : Session := sh.complain fds line ("printf: " ++ p)
    let status := if r.failed || !r.problems.isEmpty then 1 else 0
    match target with
    | none =>
      -- each problem with an argument is reported where it was found, the others at the end
      let (sh, taken) := (r.problems.zip r.offsets).foldl (fun (sh, taken) (p, off) =>
        (report (sh.write fds 1 ((r.out.drop taken).take (off - taken))) p, max taken off)) (sh, 0)
      let sh := (r.problems.drop r.offsets.length).foldl report (sh.write fds 1 (r.out.drop taken))
      (sh, status, .normal)
    | some v =>
      let sh := r.problems.foldl report sh
      let (n, key, _) := Target.parse v
      if !isName n then (sh.complain fds line ("printf: `" ++ v ++ "': not a valid identifier"), 2, .normal)
      else
        match sh.assignTo ⟨n, key, false⟩ (.text (Text.byteString r.out)) with
        | .ok sh => (sh, status, .normal)
        | .error m => sh.problem fds line "printf" m

/-! ## Signals and traps -/

/-- Sends a signal to each process named, in order, with the status so far: the shell
itself is the only process there is. -/
def bashSignalEach (sh : Session) (fds : List (Nat × Dest)) (line : Nat) (signal : Nat) :
    List String → Nat → Step
  | [], status => (sh, status, .normal)
  | p :: rest, status =>
    if p.startsWith "%" then
      match (sh.findJob? p).filter (!·.waited) with
      | some j =>
        if j.present sh.workspace.clock then bashSignalEach (sh.signalJob j.pid signal) fds line signal rest status
        else bashSignalEach (sh.complain fds line ("kill: (" ++ toString j.pid ++ ") - No such process")) fds line
          signal rest 1
      | none => bashSignalEach (sh.complain fds line ("kill: " ++ p ++ ": no such job")) fds line signal rest 1
    else
      match countOf? p with
      | none =>
        bashSignalEach (sh.complain fds line ("kill: " ++ p ++ ": arguments must be process or job IDs")) fds line
          signal rest 1
      | some n =>
        if n = sh.pid then
          if signal = 0 then bashSignalEach sh fds line signal rest status
          else if sh.copy then bashSignalEach { sh with sentUp := sh.sentUp ++ [signal] } fds line signal rest status
          else
            match sh.deliver signal with
            | (sh, some n) => (sh, 128 + n, .signaled n)
            | (sh, none) => bashSignalEach sh fds line signal rest status
        else if sh.jobs.any fun j => j.pid == n && j.present sh.workspace.clock then
          bashSignalEach (sh.signalJob n signal) fds line signal rest status
        else
          bashSignalEach (sh.complain fds line ("kill: (" ++ p ++ ") - No such process")) fds line signal rest 1

/-- Runs `kill` of the `bash` dialect: `-l` lists the signals, or names the signal of each
number (an exit status above 128 standing for its signal) and numbers each name; otherwise
the signal of `-s`, `-n` or `-name` (`TERM` without one) goes to each process. -/
def bashKill (sh : Session) (fds : List (Nat × Dest)) (line : Nat) (args : List String) : Step :=
  let usage := "kill [-s sigspec | -n signum | -sigspec] pid | jobspec ... or kill -l [sigspec]"
  match args with
  | [] => sh.usageFail fds line "kill" "" usage
  | a :: rest =>
    if a == "-l" || a == "-L" then
      if rest.isEmpty then (sh.say fds 1 signalTable, 0, .normal)
      else
        rest.foldl (fun (sh, st, fl) s =>
          if !s.isEmpty && s.all Char.isDigit then
            let n := (s.toNat?.getD 0)
            let n := if n > 128 then n - 128 else n
            if 0 < n && n < signalCount then (sh.say fds 1 (bashSignalName n ++ "\n"), st, fl)
            else (sh.complain fds line ("kill: " ++ s ++ ": invalid signal specification"), 1, fl)
          else
            match bashSignalOf? s with
            | some n =>
              if 0 < n && n < signalCount then (sh.say fds 1 (toString n ++ "\n"), st, fl)
              else (sh.complain fds line ("kill: " ++ s ++ ": invalid signal specification"), 1, fl)
            | none => (sh.complain fds line ("kill: " ++ s ++ ": invalid signal specification"), 1, fl))
          (sh, 0, .normal)
    else
      let picked : Except String (Nat × List String) :=
        if a == "-s" || a == "-n" then
          match rest with
          | s :: more =>
            match bashSignalOf? s with
            | some n => if n < signalCount then .ok (n, more) else .error (s ++ ": invalid signal specification")
            | none => .error (s ++ ": invalid signal specification")
          | [] => .error (a ++ ": option requires an argument")
        else if a == "--" then .ok (15, rest)
        else if a.startsWith "-" && a.length > 1 then
          let s := String.ofList (a.toList.drop 1)
          match bashSignalOf? s with
          | some n => if n < signalCount then .ok (n, rest) else .error (s ++ ": invalid signal specification")
          | none => .error (s ++ ": invalid signal specification")
        else .ok (15, args)
      match picked with
      | .error m => sh.problem fds line "kill" m
      | .ok (_, []) => sh.usageFail fds line "kill" "" usage
      | .ok (signal, pids) => sh.bashSignalEach fds line signal pids 0

/-- The listing of `trap -p`: the command kept for each of the numbers given (all when
none is), in their order. -/
def trapListing (sh : Session) (only : Option (List Nat)) : String :=
  let kept := (sh.traps.mergeSort fun a b => a.1 ≤ b.1).filter fun (n, _) =>
    match only with
    | some ns => ns.contains n
    | none => true
  String.join (kept.map fun (n, a) => "trap -- " ++ quoteSingle a ++ " " ++ trapName n ++ "\n")

/-- Runs `trap` of the `bash` dialect. Without operands, or with `-p`, it lists the
commands kept; `-l` lists the signals. A first operand that is a number, or the only
operand when it names a signal, resets each operand's signal; otherwise the first operand
is the command (`-` resets, the empty text ignores) for the signals after it. An operand
that names no signal is reported with status 1. -/
def bashTrapCommand (sh : Session) (fds : List (Nat × Dest)) (line : Nat) (args : List String) : Step :=
  let usage := "trap [-lp] [[arg] signal_spec ...]"
  let setEach (sh : Session) (action : Option String) (sigs : List String) : Step :=
    sigs.foldl (fun (sh, st, fl) s =>
      match bashSignalOf? s with
      | none => (sh.complain fds line ("trap: " ++ s ++ ": invalid signal specification"), 1, fl)
      | some n =>
        let traps := sh.traps.filter (·.1 != n)
        ({ sh with traps := match action with
            | some a => traps ++ [(n, a)]
            | none => traps }, st, fl)) (sh, 0, .normal)
  match args with
  | [] => (sh.say fds 1 (sh.trapListing none), 0, .normal)
  | "-l" :: _ => (sh.say fds 1 signalTable, 0, .normal)
  | "-p" :: sigs =>
    if sigs.isEmpty then (sh.say fds 1 (sh.trapListing none), 0, .normal)
    else
      match sigs.find? fun s => (bashSignalOf? s).isNone with
      | some s => sh.problem fds line "trap" (s ++ ": invalid signal specification")
      | none => (sh.say fds 1 (sh.trapListing (some (sigs.filterMap bashSignalOf?))), 0, .normal)
  | first :: rest =>
    let (first, rest, optionEnd) := if first == "--" then (rest.headD "", rest.drop 1, true) else (first, rest, false)
    if !optionEnd && first.startsWith "-" && first.length > 1 then
      sh.usageFail fds line "trap" (String.ofList (first.toList.take 2) ++ ": invalid option") usage
    else if first.isEmpty && rest.isEmpty && optionEnd then (sh.say fds 1 (sh.trapListing none), 0, .normal)
    else if (!first.isEmpty && first.all Char.isDigit && (bashSignalOf? first).isSome) ||
        (rest.isEmpty && (bashSignalOf? first).isSome) then setEach sh none (first :: rest)
    else if rest.isEmpty then sh.usageFail fds line "trap" "" usage
    else if first == "-" then setEach sh none rest
    else setEach sh (some first) rest

/-! ## Variables -/

/-- The shell with a variable made local to the running function; one that was not local
before starts unset, without attributes. -/
def localize (sh : Session) (n : String) : Session :=
  if sh.localSaves.any (·.name == n) then sh
  else
    let sh := sh.makeLocal n
    { sh with vars := sh.vars.filter (·.1 != n), arrays := sh.arrays.filter (·.1 != n),
              attributes := sh.attributes.filter (·.1 != n), exported := sh.exported.filter (· != n) }

/-- Gives a variable the attributes of letters (`on`) or takes them away (`off`), as
`declare` does: `a` and `A` make it an array, its value the element `0` (or key `0`), `l`
and `u` put each other off, `x` exports it. A variable may not become an array of the other
kind, and may not lose `r`. -/
def giveAttributes (sh : Session) (n : String) (on off : List Char) : Except String Session := do
  let sh ← if on.contains 'A' then
      match List.lookup n sh.arrays with
      | some (.indexed _) => .error (n ++ ": cannot convert indexed to associative array")
      | some (.assoc _) => .ok sh
      | none =>
        let items : List (String × String) := match List.lookup n sh.vars with
          | some v => [("0", v)]
          | none => []
        .ok { sh with vars := sh.vars.filter (·.1 != n), arrays := sh.arrays ++ [(n, .assoc items)],
                      valueless := if items.isEmpty then n :: sh.valueless else sh.valueless }
    else if on.contains 'a' then
      match List.lookup n sh.arrays with
      | some (.assoc _) => .error (n ++ ": cannot convert associative to indexed array")
      | some (.indexed _) => .ok sh
      | none =>
        let items : List (Nat × String) := match List.lookup n sh.vars with
          | some v => [(0, v)]
          | none => []
        .ok { sh with vars := sh.vars.filter (·.1 != n), arrays := sh.arrays ++ [(n, .indexed items)],
                      valueless := if items.isEmpty then n :: sh.valueless else sh.valueless }
    else .ok sh
  if off.contains 'r' && sh.readonly.contains n then .error (n ++ ": readonly variable")
  else
    let sh := if on.contains 'u' then sh.setAttrs n ['l'] false else sh
    let sh := if on.contains 'l' then sh.setAttrs n ['u'] false else sh
    let sh := sh.setAttrs n (on.filter ("ilutnI".toList.contains ·)) true
    let sh := sh.setAttrs n (off.filter ("ilutnI".toList.contains ·)) false
    let sh := if on.contains 'x' then sh.markExported n else sh
    .ok (if off.contains 'x' then { sh with exported := sh.exported.filter (· != n) } else sh)

/-- The shell with a variable made read-only. -/
def markReadonly (sh : Session) (n : String) : Session :=
  if sh.readonly.contains n then sh else { sh with readonly := sh.readonly ++ [n] }

/-- Declares one variable for a declaring command: made local first when `local`, given
the attributes, assigned when a value is given, and made read-only last. -/
def declareOne (sh : Session) (isLocal : Bool) (on off : List Char) (a : DeclArg) : Except String Session :=
  match a.asAssignment with
  | .word w =>
    if w == "-" && isLocal then .ok sh.makeOptionsLocal
    else if !isName w then .error ("`" ++ w ++ "': not a valid identifier")
    else do
      let sh := if isLocal then sh.localize w else sh
      let sh ← sh.giveAttributes w on off
      let sh := sh.setAttrs w [] true
      let sh := if w == "OPTIND" then sh.syncOptionIndex else sh
      return if on.contains 'r' then sh.markReadonly w else sh
  | .assign t v =>
    if !isName t.name then .error ("`" ++ t.text ++ "': not a valid identifier")
    else do
      let sh := if isLocal then sh.localize t.name else sh
      let sh ← sh.giveAttributes t.name on off
      let sh ← if on.contains 'n' then
          match v with
          | .text x =>
            if isName x || x.isEmpty then .ok { sh with vars := setIn sh.vars t.name x }
            else .error ("`" ++ x ++ "': invalid variable name for name reference")
          | .items _ => sh.assignTo t v
        else sh.assignTo t v
      return if on.contains 'r' then sh.markReadonly t.name else sh

/-- The names of the variables the shell knows, in order. -/
def knownNames (sh : Session) : List String :=
  ((sh.vars.map Prod.fst) ++ (sh.arrays.map Prod.fst) ++ (sh.attributes.map Prod.fst) ++ sh.exported ++
    sh.readonly).eraseDups.mergeSort fun a b => !(b < a)

/-- The variables with their values as `set` lists them. -/
def setListing (sh : Session) (names : List String) : String :=
  String.join (names.filterMap fun n =>
    match List.lookup n sh.arrays with
    | some (.indexed items) =>
      some (n ++ "=(" ++ " ".intercalate (items.map fun (k, v) => "[" ++ toString k ++ "]=" ++ quoteDouble v) ++ ")\n")
    | some (.assoc items) =>
      some (n ++ "=(" ++ String.join ((ArrayValue.assoc items).entries.map fun (k, v) =>
        "[" ++ keyText k ++ "]=" ++ quoteDouble v ++ " ") ++ ")\n")
    | none => (List.lookup n sh.vars).map fun v => n ++ "=" ++ listedValue v ++ "\n")

/-- A function of the shell as `declare -f` writes it; `none` when no function has the name. -/
def functionListing (sh : Session) (name : String) : Option String :=
  match sh.functions.lookup name with
  | some (.function _ body _) => some (functionText name body)
  | some other => some (functionText name other)
  | none => none

/-- How `type` and `command` of the `bash` dialect write each way a name runs. -/
inductive DescribeStyle where
  /-- A sentence: `echo is a shell builtin`. -/
  | sentence
  /-- The kind alone: `alias`, `keyword`, `function`, `builtin` or `file`. -/
  | kind
  /-- What runs it: the name, the path of a program, or the `alias` command for an alias. -/
  | reusable
  /-- The path of a program, and nothing for the other ways. -/
  | path
  deriving DecidableEq

/-- What `type` and `command` of the `bash` dialect are asked about a name. -/
structure Describing where
  /-- Every way the name runs (`type -a`), not only the one that runs. -/
  all : Bool := false
  /-- Passing over functions (`type -f`). -/
  noFunctions : Bool := false
  /-- Programs only (`type -P`). -/
  programsOnly : Bool := false
  /-- The search path to look in (`command -p`), when not the shell's own. -/
  searchPath : Option String := none
  style : DescribeStyle := .sentence

/-- The line written for one way a name runs, in the style asked: its kind, its sentence,
what runs it, or its path (nothing for a way that is no program). -/
def Describing.line (d : Describing) (kind sentence reusable : String) (path : Option String) : Option String :=
  match d.style with
  | .kind => some kind
  | .sentence => some sentence
  | .reusable => some reusable
  | .path => path

/-- The ways a name runs inside the shell, in the order the shell tries them: an alias
(when aliases are expanded), a reserved word, a function, and a built-in command that is
on; none when programs alone are asked for. -/
def shellWaysOf (sh : Session) (d : Describing) (name : String) : List (Option String) :=
  let line := d.line
  if d.programsOnly then [] else
    ((if sh.shopts.contains "expand_aliases" then (sh.aliases.lookup name).map fun v =>
        line "alias" (name ++ " is aliased to `" ++ v ++ "'") ("alias " ++ name ++ "=" ++ quoteSingle v) none
      else none).toList ++
    (if bashReservedWords.contains name then [line "keyword" (name ++ " is a shell keyword") name none] else []) ++
    (if d.noFunctions then [] else (sh.functionListing name).toList.map fun text =>
      line "function" (name ++ " is a function\n" ++ text) name none) ++
    (if bashBuiltins.contains name && !sh.disabled.contains name then
      [line "builtin" (name ++ " is a shell builtin") name none] else []))

/-- Whether describing a name finds it in the table of `hash`, which counts as a hit
there: a name without `/` that the table holds, reached when no way inside the shell
comes first, and not when every way is asked for, programs not alone. -/
def consultsTable (sh : Session) (d : Describing) (name : String) : Bool :=
  !name.contains '/' && (sh.tracked.lookup name).isSome &&
    (if d.all then d.programsOnly else (sh.shellWaysOf d name).isEmpty)

/-- The ways a name runs, in the order the shell tries them: an alias (when aliases are
expanded), a reserved word, a function, a built-in command that is on, then a program: the
path itself for a name with a `/`, the path remembered by `hash`, or the search path. Each
way is the line written for it, if any; only the first counts unless all are asked for. -/
def waysOf (sh : Session) (d : Describing) (name : String) : List (Option String) :=
  let line := d.line
  let shellWays := sh.shellWaysOf d name
  let file (p : String) := line "file" (name ++ " is " ++ p) p (some p)
  let programWays : List (Option String) :=
    if name.contains '/' then
      if isProgramFile sh.workspace sh.cwd name then [file name] else []
    else
      match (if d.all && !d.programsOnly then none else sh.tracked.lookup name) with
      | some p => [line "file" (name ++ " is hashed (" ++ p ++ ")") p (some p)]
      | none =>
        let found := candidates (d.searchPath.getD (sh.var "PATH")) name
        let runnable := found.filter (isProgramFile sh.workspace sh.cwd)
        if d.all then runnable.map file
        else
          match runnable.head?, found.find? (sh.kindOf? · == some .file) with
          | some p, _ | none, some p => [file p]
          | none, none => []
  let ways := shellWays ++ programWays
  if d.all then ways else ways.take 1

/-- Runs `type` of the `bash` dialect: how each name runs, as sentences, kinds (`-t`) or
paths (`-p`, and `-P` for programs only), every way with `-a`. A name that does not run is
reported, when sentences are asked for, and makes the status 1. -/
def bashTypeCommand (sh : Session) (fds : List (Nat × Dest)) (line : Nat) (args : List String) : Step :=
  match readOptions "afptP" args with
  | .error m => sh.usageFail fds line "type" (bashOptionProblem m) "type [-afptP] name [name ...]"
  | .ok (opts, names) =>
    let d : Describing := opts.foldl (fun d (c, _) =>
      match c with
      | 'a' => { d with all := true }
      | 'f' => { d with noFunctions := true }
      | 'p' => { d with style := .path }
      | 't' => { d with style := .kind }
      | _ => { d with style := .path, programsOnly := true }) {}
    names.foldl (fun (sh, st, fl) n =>
      let ways := sh.waysOf d n
      let sh := if sh.consultsTable d n then sh.hit n else sh
      match ways with
      | [] => (if d.style == .sentence then sh.complain fds line ("type: " ++ n ++ ": not found") else sh, 1, fl)
      | ways => (sh.say fds 1 (String.join (ways.filterMap id |>.map (· ++ "\n"))), st, fl)) (sh, 0, .normal)

/-- Runs `command -v` (`verbose` off) or `command -V` of the `bash` dialect on names: what
runs each, as `type` words it for `-V`; `-V` reports a name that does not run. The status
is 0 when one of the names runs. -/
def bashCommandDescribe (sh : Session) (fds : List (Nat × Dest)) (line : Nat) (verbose : Bool)
    (searchPath : Option String) (names : List String) : Step :=
  let d : Describing := { searchPath, style := if verbose then .sentence else .reusable }
  let (sh, any) := names.foldl (fun (sh, any) n =>
    let ways := sh.waysOf d n
    let sh := if sh.consultsTable d n then sh.hit n else sh
    match ways with
    | [] => (if verbose then sh.complain fds line ("command: " ++ n ++ ": not found") else sh, any)
    | ways => (sh.say fds 1 (String.join (ways.filterMap id |>.map (· ++ "\n"))), true)) (sh, false)
  (sh, if any then 0 else 1, .normal)

/-- Runs `declare`, `typeset`, `local`, `export` or `readonly`. Without names they list the
variables (with their attributes for `-p`, `export` and `readonly`); `-p` with names writes
each as a command; `-f` and `-F` are about functions. Otherwise each argument is declared:
a problem with one is reported, makes the status 1, and the others are still declared. -/
def declareCommand (sh : Session) (fds : List (Nat × Dest)) (line : Nat) (name : String) (args : List DeclArg) :
    Step :=
  let inFunction := sh.functionLine != 0
  -- `local` outside a function fails before its options are read
  if name == "local" && !inFunction then sh.problem fds line name "can only be used in a function"
  else
  match declareOptions (declareLetters name) args with
  | .error p => sh.usageFail fds line name p (declareUsage name)
  | .ok (on, off, rest) =>
    let on := if name == "export" then (if on.contains 'n' then on else 'x' :: on)
      else if name == "readonly" then 'r' :: on else on
    let off := if name == "export" && on.contains 'n' then 'x' :: off else off
      let isLocal := name == "local" || ((name == "declare" || name == "typeset") && inFunction && !on.contains 'g')
      let words := rest.filterMap fun a => match a with
        | .word w => some w
        | .assign .. => none
      if on.contains 'f' || on.contains 'F' then
        if rest.isEmpty then
          let names := (sh.functions.map Prod.fst).mergeSort fun a b => !(b < a)
          if on.contains 'F' then
            (sh.say fds 1 (String.join (names.map fun n => "declare -f " ++ n ++ "\n")), 0, .normal)
          else (sh.say fds 1 (String.join (names.filterMap fun n => (sh.functionListing n).map (· ++ "\n"))), 0, .normal)
        else
          words.foldl (fun (sh, st, fl) w =>
            match sh.functionListing w with
            | some text => (sh.say fds 1 ((if on.contains 'F' then w else text) ++ "\n"), st, fl)
            | none => (sh, 1, fl)) (sh, 0, .normal)
      else if rest.isEmpty then
        let letters := on.filter ("aAilurx".toList.contains ·)
        let pool := if name == "local" then (sh.localSaves.map (·.name)).reverse else sh.knownNames
        if letters.isEmpty && !on.contains 'p' then (sh.say fds 1 (sh.setListing pool), 0, .normal)
        else
          let names := pool.filter fun n => letters.all fun c => (sh.flagsOf n).toList.contains c
          (sh.say fds 1 (String.join (names.filterMap fun n => (sh.declaration n).map (· ++ "\n"))), 0, .normal)
      else if on.contains 'p' then
        words.foldl (fun (sh, st, fl) w =>
          match sh.declaration w with
          | some d => (sh.say fds 1 (d ++ "\n"), st, fl)
          | none => (sh.complain fds line (name ++ ": " ++ w ++ ": not found"), 1, fl)) (sh, 0, .normal)
      else
        rest.foldl (fun (sh, st, fl) a =>
          match sh.declareOne isLocal on off a with
          | .ok sh => (sh, st, fl)
          | .error m => (sh.complain fds line (name ++ ": " ++ m), 1, fl)) (sh, 0, .normal)

/-- Runs `let`: computes each expression in turn; the status is 0 when the last one is not
zero. A problem with an expression is reported with status 1. -/
def letCommand (sh : Session) (fds : List (Nat × Dest)) (line : Nat) (args : List String) : Step :=
  let rec go : List String → Session → Int64 → Step
    | [], sh, v => (sh, if v = 0 then 1 else 0, .normal)
    | a :: rest, sh, _ =>
      match sh.evalArith a with
      | .ok (v, sh) => go rest sh v
      | .error (.unbound n) => (sh.complain fds line (n ++ ": unbound variable"), 1, .exit 1)
      | .error f => (sh.complain fds line (f.message (some "let")), 1, .normal)
  if args.isEmpty then sh.problem fds line "let" "expression expected" else go args sh 0

/-- The shell without a variable or an element of an array, or the message of one that may
not be removed. -/
def unsetElement (sh : Session) (w : String) : Except String Session :=
  let (n, key, _) := Target.parse w
  if !isName n || w.endsWith "+" then .error ("`" ++ w ++ "': not a valid identifier")
  else if sh.readonly.contains n then .error (n ++ ": cannot unset: readonly variable")
  else
    match key with
    | none => .ok (if n == "OPTIND" then { sh.dropVar n with optionIndex := 1, optionOffset := none } else sh.dropVar n)
    | some k =>
      match List.lookup n sh.arrays with
      | some (.assoc items) =>
        .ok { sh with arrays := setIn' sh.arrays n (.assoc (items.filter (·.1 != k))), valueless := sh.valueless.erase n }
      | some (.indexed items) =>
        match sh.indexOf n k with
        | .ok (i, sh) =>
          .ok { sh with arrays := setIn' sh.arrays n (.indexed (items.filter (·.1 != i))), valueless := sh.valueless.erase n }
        | .error m => .error m
      | none => if k == "0" then .ok (sh.dropVar n) else .ok sh

/-- Runs `unset` of the `bash` dialect: removes each variable, element (`name[key]`) or,
with `-f` or for a name that is no variable, function. -/
def bashUnsetCommand (sh : Session) (fds : List (Nat × Dest)) (line : Nat) (args : List String) : Step :=
  match readOptions "fvn" args with
  | .error m => sh.usageFail fds line "unset" (bashOptionProblem m) "unset [-f] [-v] [-n] [name ...]"
  | .ok (opts, names) =>
    let functionsOnly := opts.any (·.1 == 'f')
    let variablesOnly := opts.any (·.1 == 'v')
    names.foldl (fun (sh, st, fl) w =>
      let w := if opts.any (·.1 == 'n') then w else sh.refTarget w
      let isVariable := (List.lookup w sh.vars).isSome || (List.lookup w sh.arrays).isSome
      if functionsOnly || (!variablesOnly && !isVariable && sh.functions.any (·.1 == w)) then
        ({ sh with functions := sh.functions.filter (·.1 != w) }, st, fl)
      else
        match sh.unsetElement w with
        | .ok sh => (sh, st, fl)
        | .error m => (sh.complain fds line ("unset: " ++ m), 1, fl)) (sh, 0, .normal)

/-! ## Options -/

/-- The listing of `set -o` (when `on`) or `set +o` in the `bash` dialect. -/
def bashOptionListing (sh : Session) (on : Bool) : String :=
  String.join (bashOptions.map fun n =>
    if on then padName n ++ "\t" ++ (if sh.isOn n then "on" else "off") ++ "\n"
    else "set " ++ (if sh.isOn n then "-o " else "+o ") ++ n ++ "\n")

/-- Reads the letters of one word of options of `set` in the `bash` dialect: `o` takes the
next word as the name of an option, or lists the options when there is none. A problem
comes with its status. -/
def bashSetLetters (fds : List (Nat × Dest)) (on : Bool) : List Char → Session → List String →
    Except (String × Nat) (Session × List String)
  | [], sh, rest => .ok (sh, rest)
  | 'o' :: cs, sh, rest =>
    match rest with
    | n :: more =>
      if bashOptions.contains n then bashSetLetters fds on cs (sh.setOption n on) more
      else .error (n ++ ": invalid option name", 2)
    | [] => bashSetLetters fds on cs (sh.say fds 1 (sh.bashOptionListing on)) []
  | c :: cs, sh, rest =>
    match List.lookup c bashOptionLetters with
    | some n => bashSetLetters fds on cs (sh.setOption n on) rest
    | none => .error (String.ofList [if on then '-' else '+', c] ++ ": invalid option", 2)

/-- Reads the words of `set` in the `bash` dialect: options, then the new positional
parameters if any are left. -/
def bashSetWords (fds : List (Nat × Dest)) : Nat → Session → List String →
    Except (String × Nat) (Session × Option (List String))
  | 0, sh, _ => .ok (sh, none)
  | _ + 1, sh, [] => .ok (sh, none)
  | fuel + 1, sh, a :: rest =>
    match a.toList with
    | ['-'] =>
      let sh := (sh.setOption "xtrace" false).setOption "verbose" false
      .ok (sh, if rest.isEmpty then none else some rest)
    | ['-', '-'] => .ok (sh, some rest)
    | s :: c :: cs =>
      if s = '-' || s = '+' then do
        let (sh, rest) ← bashSetLetters fds (s = '-') (c :: cs) sh rest
        bashSetWords fds fuel sh rest
      else .ok (sh, some (a :: rest))
    | _ => .ok (sh, some (a :: rest))

/-- Runs `set` of the `bash` dialect: without arguments it lists the variables; otherwise
it sets options and then, if any are given, the positional parameters. -/
def bashSetCommand (sh : Session) (fds : List (Nat × Dest)) (line : Nat) (args : List String) : Step :=
  if args.isEmpty then (sh.say fds 1 (sh.setListing sh.knownNames), 0, .normal)
  else
    match bashSetWords fds (args.length + 1) sh args with
    | .error (m, 2) =>
      if m.endsWith "invalid option name" then (sh.complain fds line ("set: " ++ m), 2, .normal)
      else sh.usageFail fds line "set" m "set [-abefhkmnptuvxBCEHPT] [-o option-name] [--] [-] [arg ...]"
    | .error (m, st) => (sh.complain fds line ("set: " ++ m), st, .normal)
    | .ok (sh, params) => ((params.map fun ps => { sh with args := ps }).getD sh, 0, .normal)

/-- Runs `shopt`: lists its options, or with `-s` and `-u` turns those named on and off;
`-q` only gives the status, `-p` lists them as commands, `-o` works on the options of
`set`. Asked about options, the status is 1 when one of them is off. -/
def shoptCommand (sh : Session) (fds : List (Nat × Dest)) (line : Nat) (args : List String) : Step :=
  match readOptions "supqo" args with
  | .error m => sh.usageFail fds line "shopt" (bashOptionProblem m) "shopt [-pqsu] [-o] [optname ...]"
  | .ok (opts, names) =>
    let has (c : Char) : Bool := opts.any (·.1 == c)
    let ofSet := has 'o'
    let table := if ofSet then bashOptions else shoptTable.map Prod.fst
    let state (sh : Session) (n : String) : Bool := if ofSet then sh.isOn n else sh.shopts.contains n
    let shown (sh : Session) (n : String) : String :=
      if has 'p' then
        (if ofSet then (if state sh n then "set -o " else "set +o ") else (if state sh n then "shopt -s " else "shopt -u ")) ++
          n ++ "\n"
      else padName n ++ "\t" ++ (if state sh n then "on" else "off") ++ "\n"
    let turn (sh : Session) (n : String) (on : Bool) : Session :=
      if ofSet then sh.setOption n on
      else { sh with shopts := if on then (if sh.shopts.contains n then sh.shopts else sh.shopts ++ [n])
                               else sh.shopts.filter (· != n) }
    let unknown := if ofSet then "invalid option name" else "invalid shell option name"
    if has 's' && has 'u' then sh.problem fds line "shopt" "cannot set and unset shell options simultaneously"
    else
      let setting : Option Bool := if has 's' then some true else if has 'u' then some false else none
      match setting with
      | some on =>
        if names.isEmpty then
          let listed := table.filter fun n => state sh n == on
          (if has 'q' then sh else sh.say fds 1 (String.join (listed.map (shown sh))), 0, .normal)
        else
          names.foldl (fun (sh, st, fl) n =>
            if table.contains n then (turn sh n on, st, fl)
            else (sh.complain fds line ("shopt: " ++ n ++ ": " ++ unknown), 1, fl)) (sh, 0, .normal)
      | none =>
        if names.isEmpty then (if has 'q' then sh else sh.say fds 1 (String.join (table.map (shown sh))), 0, .normal)
        else
          names.foldl (fun (sh, st, fl) n =>
            if table.contains n then
              (if has 'q' then sh else sh.say fds 1 (shown sh n), if state sh n then st else 1, fl)
            else (sh.complain fds line ("shopt: " ++ n ++ ": " ++ unknown), 1, fl)) (sh, 0, .normal)

/-! ## Reading -/

/-- Assigns what `read` read to a variable, or gives the message why it may not be. -/
def readInto (sh : Session) (n v : String) : Except String Session :=
  if !isName n then .error ("`" ++ n ++ "': not a valid identifier") else sh.assignTo ⟨n, none, false⟩ (.text v)

/-- Runs `read` of the `bash` dialect: reads up to the delimiter (a line end, or the first
byte of `-d`), at most the count of `-n`, or exactly that of `-N`, from standard input or
the descriptor of `-u`. The fields go to the names (the last taking the rest), to the array
of `-a`, or whole to `REPLY`. The status is 1 when the input ended first. -/
def bashReadCommand (sh : Session) (fds : List (Nat × Dest)) (line : Nat) (args : List String) : Step :=
  let usage := "read [-ers] [-a array] [-d delim] [-i text] [-n nchars] [-N nchars] [-p prompt] [-t timeout] [-u fd] [name ...]"
  match readOptions "a:d:ei:n:N:p:rst:u:" args with
  | .error m => sh.usageFail fds line "read" (bashOptionProblem m) usage
  | .ok (opts, names) =>
    let get (c : Char) : Option String := ((opts.filter (·.1 == c)).getLast?).map Prod.snd
    let count? (c : Char) : Except String (Option Nat) := match get c with
      | some s => match countOf? s with
        | some n => .ok (some n)
        | none => .error (s ++ ": invalid number")
      | none => .ok none
    let fd? : Except String Nat := match get 'u' with
      | some s => match countOf? s with
        | some n => .ok n
        | none => .error (s ++ ": invalid file descriptor specification")
      | none => .ok 0
    match count? 'n', count? 'N', fd? with
    | .error m, _, _ | _, .error m, _ | _, _, .error m => sh.problem fds line "read" m
    | .ok some_n, .ok exact, .ok fd =>
      let source := setFd fds 0 (destOf fds fd)
      if !(destOf fds fd).readable then
        sh.problem fds line "read" (toString fd ++ ": invalid file descriptor: Bad file descriptor")
      else
        let input := inputOf source
        if get 't' == some "0" then (sh, if input.isEmpty then 1 else 0, .normal)
        else
          let delim : Option UInt8 := if exact.isSome then none
            else match get 'd' with
              | some d => some ((bytesOf d).headD 0)
              | none => some 10
          let mode : ReadMode := ⟨opts.any (·.1 == 'r'), delim, exact.orElse fun _ => some_n⟩
          let (chars, ended, rest) := readUntil mode (input.length + 1) 0 input
          let sh := { sh with fds := afterInput sh.fds source rest }
          let status := if ended then 0 else 1
          let result : Except String Session := match get 'a' with
            | some arr =>
              if !isName arr then .error ("`" ++ arr ++ "': not a valid identifier")
              else
                let fields := allFields sh.ifs (chars.length + 1) chars
                (sh.dropVar arr).assignTo ⟨arr, none, false⟩ (.items (fields.map (none, ·)))
            | none =>
              if names.isEmpty then sh.readInto "REPLY" (String.ofList (chars.map Prod.fst))
              else (readFields sh.ifs names chars).foldlM (fun sh (n, v) => sh.readInto n v) sh
          match result with
          | .ok sh => (sh, status, .normal)
          | .error m => sh.problem fds line "read" m

/-- Runs `mapfile` or `readarray`: reads the records of standard input (or of the
descriptor of `-u`) into an array (`MAPFILE` without a name), one element each, from the
index of `-O` on (the array is emptied first without it), passing over the first `-s`
records and reading at most `-n` of them; `-t` drops each record's delimiter. -/
def mapfileCommand (sh : Session) (fds : List (Nat × Dest)) (line : Nat) (name : String) (args : List String) :
    Step :=
  let usage := name ++ " [-d delim] [-n count] [-O origin] [-s count] [-t] [-u fd] [-C callback] [-c quantum] [array]"
  match readOptions "d:n:O:s:tu:C:c:" args with
  | .error m => sh.usageFail fds line name (bashOptionProblem m) usage
  | .ok (opts, rest) =>
    let get (c : Char) : Option String := ((opts.filter (·.1 == c)).getLast?).map Prod.snd
    let number (c : Char) : Option Nat := (get c).bind countOf?
    let arr := rest.headD "MAPFILE"
    let fd := (number 'u').getD 0
    if !isName arr then sh.problem fds line name ("`" ++ arr ++ "': not a valid identifier")
    else if !(destOf fds fd).readable then
      sh.problem fds line name (toString fd ++ ": invalid file descriptor: Bad file descriptor")
    else
      let source := setFd fds 0 (destOf fds fd)
      let input := inputOf source
      let delim : UInt8 := match get 'd' with
        | some d => (bytesOf d).headD 0
        | none => 10
      let all := records delim (input.length + 1) input
      let skip := (number 's').getD 0
      let wanted := match number 'n' with
        | some 0 | none => all.length
        | some k => skip + k
      let taken := (all.take wanted).drop skip
      let used := (all.take wanted).foldl (fun n r => n + r.length) 0
      let sh := { sh with fds := afterInput sh.fds source (input.drop used) }
      let strip := opts.any (·.1 == 't')
      let values := taken.map fun r => Text.byteString (if strip && r.getLast? == some delim then r.dropLast else r)
      let origin := (number 'O').getD 0
      let start : List (Nat × String) := if (get 'O').isSome then
          match (List.lookup arr sh.arrays : Option ArrayValue) with
          | some (.indexed items) => items
          | _ => []
        else []
      let items := values.zipIdx.foldl (fun acc (v, i) => ArrayValue.setIndex acc (origin + i) v) start
      if sh.readonly.contains arr then sh.problem fds line name (arr ++ ": readonly variable")
      else
        ({ sh with vars := sh.vars.filter (·.1 != arr), arrays := setIn' sh.arrays arr (.indexed items),
                   valueless := sh.valueless.erase arr }, 0, .normal)

/-! ## Directories and control -/

/-- Runs `cd` of the `bash` dialect: as `cd` of the POSIX dialect, with its own messages. -/
def bashCdCommand (sh : Session) (fds : List (Nat × Dest)) (line : Nat) (args : List String) : Step :=
  match readOptions "LPe@" args with
  | .error m => sh.usageFail fds line "cd" (bashOptionProblem m) "cd [-L|[-P [-e]] [-@]] [dir]"
  | .ok (opts, rest) =>
    let physical := (opts.getLast?.map (·.1)) == some 'P'
    if rest.length > 1 then sh.problem fds line "cd" "too many arguments"
    else
      let dest? : Except String (String × Bool) := match rest with
        | [] => match sh.lookupVar "HOME" with
          | some h => .ok (h, false)
          | none => .error "HOME not set"
        | ["-"] => match sh.lookupVar "OLDPWD" with
          | some o => .ok (o, true)
          | none => .error "OLDPWD not set"
        | d :: _ => .ok (d, false)
      match dest? with
      | .error m => sh.problem fds line "cd" m
      | .ok (dest, dash) =>
        if dest.isEmpty then (sh, 0, .normal)
        else
          let viaPath : Option (String × Bool) := match sh.lookupVar "CDPATH" with
            | some cdpath =>
              if isDirectPath dest then none
              else
                ((cdpath.splitOn ":").map fun d => if d.isEmpty then (dest, false) else (d ++ "/" ++ dest, true)).find?
                  fun (p, _) => sh.kindOf? p == some .dir
            | none => none
          let (path, shown) := viaPath.getD (dest, false)
          match sh.changeTo path physical with
          | some sh => (if shown || dash then sh.say fds 1 (sh.cwdText ++ "\n") else sh, 0, .normal)
          | none =>
            let why := match sh.kindOf? dest with
              | some .dir => "Permission denied"
              | some _ => "Not a directory"
              | none => "No such file or directory"
            sh.problem fds line "cd" (dest ++ ": " ++ why)

/-- Reads the count of `shift`, `break`, `continue`, `return` or `exit` in the `bash`
dialect: a decimal number with an optional sign and blanks around, that a signed 64-bit
integer holds. -/
def signedCount? (s : String) : Option Int :=
  let trimmed := ((s.toList.dropWhile Char.isWhitespace).reverse.dropWhile Char.isWhitespace).reverse
  let (negative, ds) := match trimmed with
    | '-' :: r => (true, r)
    | '+' :: r => (false, r)
    | r => (false, r)
  if ds.isEmpty || !ds.all Char.isDigit then none
  else
    let n : Int := ((String.ofList ds).toNat?.getD 0)
    let v := if negative then -n else n
    if v < -9223372036854775808 || v > 9223372036854775807 then none else some v

/-- The status a number gives when a command ends with it: its value modulo 256. -/
def statusOf (n : Int) : Nat := (n % 256).toNat

/-- The count given to `shift`, `break`, `continue`, `return` or `exit` in the `bash`
dialect, after a first `--`. -/
inductive CountArgument where
  /-- No count. -/
  | none
  /-- A count, as written and as read. -/
  | given (text : String) (n : Int)
  /-- A word that is no count. -/
  | bad (text : String)
  /-- A count and more words. -/
  | tooMany

/-- Reads the count of `shift`, `break`, `continue`, `return` or `exit` in the `bash`
dialect: a word that is no number is reported before any word after it is looked at. -/
def countArgument (args : List String) : CountArgument :=
  let args := match args with
    | "--" :: rest => rest
    | _ => args
  match args with
  | [] => .none
  | a :: more =>
    match signedCount? a with
    | none => .bad a
    | some n => if more.isEmpty then .given a n else .tooMany

/-- Runs `test` or `[` of the `bash` dialect: as in the POSIX dialect, with `==` for `=`,
`-v` for a variable that is set, and the problems worded as the dialect words them. -/
def bashTestCommand (sh : Session) (fds : List (Nat × Dest)) (line : Nat) (name : String) (args : List String) :
    Step :=
  let args? := if name = "[" then (if args.getLast? == some "]" then some args.dropLast else none) else some args
  match args? with
  | none => (sh.complain fds line ("[: missing `]'"), 2, .normal)
  | some targs =>
    let targs := match targs with
      | [a, "==", b] => [a, "=", b]
      | ["!", a, "==", b] => ["!", a, "=", b]
      | t => t
    match targs with
    | ["-v", n] => (sh, if (sh.lookupVar n).isSome || (List.lookup n sh.arrays).isSome then 0 else 1, .normal)
    | ["!", "-v", n] => (sh, if (sh.lookupVar n).isSome || (List.lookup n sh.arrays).isSome then 1 else 0, .normal)
    | _ =>
      match sh.testCommand fds line name args with
      | (after, st, fl) =>
        if st != 2 then (after, st, fl)
        else
          let files : Test.Files := { kind? := fun p => sh.kindOf? p, size := fun _ => 0, executable := fun _ => false }
          let message := match Test.status files targs with
            | .error m =>
              if m.startsWith "Illegal number: " then String.ofList (m.toList.drop 16) ++ ": integer expression expected"
              else if m.endsWith ": unexpected operator" then "too many arguments"
              else if m.endsWith ": argument expected" then
                String.ofList (m.toList.take (m.length - 19)) ++ ": unary operator expected"
              else if m == "closing paren expected" then "`)' expected"
              else m
            | .ok _ => "too many arguments"
          (sh.complain fds line (name ++ ": " ++ message), 2, .normal)

/-- A time of zero as `time` writes it, with `digits` decimals (at most three), in
minutes and seconds when `long`. -/
def zeroTime (digits : Nat) (long : Bool) : String :=
  let digits := min digits 3
  let seconds := "0" ++ (if digits == 0 then "" else "." ++ String.ofList (List.replicate digits '0'))
  if long then "0m" ++ seconds ++ "s" else seconds

/-- The characters of the report of `time` by the characters of a layout: each time taken
as zero. `%R`, `%U` and `%S` stand for the real, user and system time, with as many
decimals as a digit before them says (three when none does), in minutes and seconds after
`l`; `%P` for the share of the processor; `%%` for `%`. -/
def timeLayout : Nat → List Char → List Char
  | 0, _ => []
  | _ + 1, [] => []
  | fuel + 1, '%' :: '%' :: rest => '%' :: timeLayout fuel rest
  | fuel + 1, '%' :: rest =>
    let (digits, rest) : Nat × List Char := match rest with
      | d :: r => if d.isDigit then (d.toNat - 48, r) else (3, rest)
      | [] => (3, [])
    let (long, rest) : Bool × List Char := match rest with
      | 'l' :: r => (true, r)
      | _ => (false, rest)
    match rest with
    | c :: r =>
      if c == 'R' || c == 'U' || c == 'S' then (zeroTime digits long).toList ++ timeLayout fuel r
      else if c == 'P' then "0.00".toList ++ timeLayout fuel r
      else '%' :: c :: timeLayout fuel r
    | [] => ['%']
  | fuel + 1, c :: rest => c :: timeLayout fuel rest

/-- The report `time` writes after a pipeline, by a layout, on a line of its own; nothing
for an empty layout. -/
def timeReport (format : String) : String :=
  if format.isEmpty then "" else String.ofList (timeLayout (format.length + 1) format.toList) ++ "\n"

example : timeReport "\nreal\t%3lR\nuser\t%3lU\nsys\t%3lS" = "\nreal\t0m0.000s\nuser\t0m0.000s\nsys\t0m0.000s\n" ∧
    timeReport "real %2R" = "real 0.00\n" := by decide +kernel

/-! ## Calls -/

/-- Runs `caller`: where the running function, or script read by `source`, was called
from, as the line and the file (`NULL` for none); with a number of frames out, the line,
the function and the file of that frame, or status 1 when there is no such frame. With
nothing running and no script, there is nothing to tell, and the status is 1. -/
def callerCommand (sh : Session) (fds : List (Nat × Dest)) (line : Nat) (args : List String) : Step :=
  let main := sh.scriptFile.isSome
  let lines := sh.calls.map (toString ·.line) ++ (if main then ["0"] else [])
  let files := sh.calls.map (·.file) ++ sh.scriptFile.toList
  let names := sh.calls.map (·.name) ++ (if main then ["main"] else [])
  if lines.isEmpty || files.isEmpty then (sh, 1, .normal)
  else
    match readOptions "" args with
    | .error m => sh.usageFail fds line "caller" (bashOptionProblem m) "caller [expr]"
    | .ok (_, []) => (sh.say fds 1 (lines.headD "" ++ " " ++ files[1]?.getD "NULL" ++ "\n"), 0, .normal)
    | .ok (_, a :: _) =>
      match signedCount? a with
      | none => sh.usageFail fds line "caller" (a ++ ": invalid number") "caller [expr]"
      | some n =>
        match (if n < 0 then none else lines[n.toNat]?), names[n.toNat + 1]?, files[n.toNat + 1]? with
        | some l, some f, some s => (sh.say fds 1 (l ++ " " ++ f ++ " " ++ s ++ "\n"), 0, .normal)
        | _, _, _ => (sh, 1, .normal)

/-! ## Jobs, programs and times -/

/-- Runs `wait` of the `bash` dialect; every job is done when the shell reaches it. With
`-n` it gives the status of the first job not yet waited for (among those named, if any
are), or 127 when there is none, and `-p` names a variable for that job's process number.
Otherwise each job named gives its status in turn: a job number that no job has is
reported with 127, as is a process number that no job had, and a word that is neither
with 1. With no names every job is waited for, and the status is 0. -/
def bashWaitCommand (sh : Session) (fds : List (Nat × Dest)) (line : Nat) (args : List String) : Step :=
  match readOptions "fnp:" args with
  | .error m => sh.usageFail fds line "wait" (bashOptionProblem m) "wait [-fn] [-p var] [id ...]"
  | .ok (opts, ids) =>
    let target := (opts.find? (·.1 == 'p')).map Prod.snd
    let sh := match target with
      | some v => sh.dropVar v
      | none => sh
    if opts.any (·.1 == 'n') then
      let named (j : Job) : Bool := ids.isEmpty || ids.any fun i =>
        if i.startsWith "%" then sh.findJob? i == some j else countOf? i == some j.pid
      match sh.ownJobs.find? fun j => !j.waited && named j with
      | none => (sh, 127, .normal)
      | some j =>
        let sh := sh.waitFor (· == j)
        let sh := match target with
          | some v => sh.setVar v (toString j.pid)
          | none => sh
        (sh, j.status, .normal)
    else if ids.isEmpty then (sh.waitFor fun _ => true, 0, .normal)
    else
      ids.foldl (fun (sh, _, fl) i =>
        if i.startsWith "%" then
          match (sh.findJob? i).filter (!·.waited) with
          | some j => (sh.waitFor (· == j), j.status, fl)
          | none => (sh.complain fds line ("wait: " ++ i ++ ": no such job"), 127, fl)
        else
          match countOf? i with
          | none => (sh.complain fds line ("wait: `" ++ i ++ "': not a pid or valid job spec"), 1, fl)
          | some n =>
            match sh.ownJobs.find? (·.pid == n) with
            | some j => (sh.waitFor (· == j), j.status, fl)
            | none => (sh.complain fds line ("wait: pid " ++ i ++ " is not a child of this shell"), 127, fl))
        (sh, 0, .normal)

/-- The state `jobs` of the `bash` dialect reports a job in: running until it is over, then
done, `Exit` and its status, or the description of the signal that ended it. -/
def bashJobState (j : Job) (now : Nat) : String :=
  if !j.over now then "Running"
  else
    match j.signal with
    | some n => signalText n
    | none => if j.status == 0 then "Done" else "Exit " ++ toString j.status

/-- Runs `jobs` of the `bash` dialect: each job not waited for (or those named), with its
number, `+` for the last started and `-` for the one before, its process number with `-l`,
its state padded to 24 columns, and its command, with `&` while it runs; `-p` writes the
process numbers alone, and `-r` and `-s` keep the running and the stopped jobs. The jobs
reported over leave the table. -/
def bashJobsCommand (sh : Session) (fds : List (Nat × Dest)) (line : Nat) (args : List String) : Step :=
  match readOptions "lnprs" args with
  | .error m =>
    sh.usageFail fds line "jobs" (bashOptionProblem m) "jobs [-lnprs] [jobspec ...] or jobs -x command [args]"
  | .ok (opts, specs) =>
    let has (c : Char) : Bool := opts.any (·.1 == c)
    let now := sh.workspace.clock
    -- a job a signal ended is reported once the shell takes the news, and leaves the table then
    let table := sh.ownJobs.filter fun j => !j.waited && !(j.reaped && j.signal.isSome)
    let recent := table.reverse
    let (sh, named, status) : Session × List Job × Nat :=
      if specs.isEmpty then (sh, table, 0)
      else specs.foldl (fun (sh, js, st) p =>
        match (sh.findJob? p).filter (!·.waited) with
        | some j => (sh, js ++ [j], st)
        | none => (sh.complain fds line ("jobs: " ++ p ++ ": no such job"), js, 1)) (sh, [], 0)
    let shown := named.filter fun j => !has 's' && (!has 'r' || !j.over now)
    let text := String.join (shown.map fun j =>
      if has 'p' then toString j.pid ++ "\n"
      else
        let mark := if recent.head? == some j then "+" else if recent[1]? == some j then "-" else " "
        let state := bashJobState j now
        let pid := toString j.pid
        "[" ++ toString j.number ++ "]" ++ mark ++ " " ++
          (if has 'l' then String.ofList (List.replicate (5 - pid.length) ' ') ++ pid else "") ++ " " ++
          state ++ String.ofList (List.replicate (24 - state.length) ' ') ++ j.text ++
          (if j.over now then "" else " &") ++ "\n")
    let sh := sh.say fds 1 text
    ({ sh with jobs := if has 'p' then sh.jobs else sh.jobs.filter fun j => !(shown.contains j && j.over now) },
      status, .normal)

/-- The programs of the table of `hash` of the `bash` dialect in the order it lists them:
by bucket of a table of 256 buckets, the newest first within one. -/
def hashOrder (sh : Session) : List (String × String) :=
  sh.tracked.reverse.mergeSort fun a b => fnvBucket 256 a.1 ≤ fnvBucket 256 b.1

/-- The table of `hash` of the `bash` dialect as it lists it: each program with its count
of hits and its path under a heading, or with `portable` as the commands that make it
again; a note when it is empty. -/
def hashListing (sh : Session) (portable : Bool) : String :=
  match sh.hashOrder with
  | [] => if portable then "" else "hash: hash table empty\n"
  | entries =>
    if portable then String.join (entries.map fun (n, p) => "builtin hash -p " ++ p ++ " " ++ n ++ "\n")
    else
      "hits\tcommand\n" ++ String.join (entries.map fun (n, p) =>
        let count := toString ((sh.hits.lookup n).getD 0)
        String.ofList (List.replicate (4 - count.length) ' ') ++ count ++ "\t" ++ p ++ "\n")

/-- Runs `hash` of the `bash` dialect. Without names it lists the table (`-l` as
commands); `-r` empties it first. Each name is then put in the table with no hits, found on
the search path (or at the path given with `-p`), or with `-d` taken out; a function or a
built-in command is passed over, and a path too. `-t` writes the paths the table holds
for the names instead, each after its name when there are several. A name not found is
reported and makes the status 1. -/
def bashHashCommand (sh : Session) (fds : List (Nat × Dest)) (line : Nat) (args : List String) : Step :=
  match readOptions "dlp:rt" args with
  | .error m => sh.usageFail fds line "hash" (bashOptionProblem m) "hash [-lr] [-p pathname] [-dt] [name ...]"
  | .ok (opts, names) =>
    let has (c : Char) : Bool := opts.any (·.1 == c)
    let portable := has 'l'
    let notFound (sh : Session) (n : String) : Session := sh.complain fds line ("hash: " ++ n ++ ": not found")
    if names.isEmpty && (has 'd' || has 't') then
      sh.problem fds line "hash" ((if has 'd' then "-d" else "-t") ++ ": option requires an argument")
    else if names.isEmpty && !has 'r' then (sh.say fds 1 (sh.hashListing portable), 0, .normal)
    else
      let sh := if has 'r' then { sh with tracked := [], hits := [] } else sh
      if has 't' then
        names.foldl (fun (sh, st, fl) n =>
          match sh.tracked.lookup n with
          | none => (notFound sh n, 1, fl)
          | some p =>
            let text := if portable then "builtin hash -p " ++ p ++ " " ++ n
              else (if names.length > 1 then n ++ "\t" else "") ++ p
            ((sh.hit n).say fds 1 (text ++ "\n"), st, fl)) (sh, 0, .normal)
      else
        names.foldl (fun (sh, st, fl) n =>
          if n.contains '/' then (sh, st, fl)
          else
            match (opts.find? (·.1 == 'p')).map Prod.snd with
            | some p =>
              if sh.kindOf? p == some .dir then (sh.complain fds line ("hash: " ++ p ++ ": Is a directory"), 1, fl)
              else (sh.remember n p 0, st, fl)
            | none =>
              if has 'd' then
                if sh.tracked.any (·.1 == n) then
                  ({ sh with tracked := sh.tracked.filter (·.1 != n), hits := sh.hits.filter (·.1 != n) }, st, fl)
                else (notFound sh n, 1, fl)
              else if sh.functions.any (·.1 == n) || (bashBuiltins.contains n && !sh.disabled.contains n) then
                (sh, st, fl)
              else
                let sh := { sh with tracked := sh.tracked.filter (·.1 != n), hits := sh.hits.filter (·.1 != n) }
                match (candidates (sh.var "PATH") n).find? (isProgramFile sh.workspace sh.cwd) with
                | some p => (sh.remember n p 0, st, fl)
                | none => (notFound sh n, 1, fl)) (sh, 0, .normal)

end Session

/-! ## Options of scripts -/

/-- What one call of `getopts` of the `bash` dialect reads. -/
inductive OptionFound where
  /-- No option is left. -/
  | finished
  /-- An option letter, with its argument when it takes one. -/
  | letter (c : Char) (arg : Option String)
  /-- A letter that is no option. -/
  | unknown (c : Char)
  /-- An option whose argument is missing. -/
  | missing (c : Char)

/-- Where `getopts` of the `bash` dialect stands: the argument it reads next (zero before it
starts), and inside an argument, which one and the place of its next letter. -/
structure OptionPlace where
  index : Nat
  inside : Option (Nat × Nat)

/-- One step of `getopts` of the `bash` dialect over `argv` (the script's name, then the
arguments) by the option letters of `spec`: what it reads and where it stands after. An
argument `--` ends the options and is passed over, one that is `-` alone or does not start
with `-` ends them and stays. The place moves past an argument as soon as its last letter
is read, so that `OPTIND` names the argument still being read until then. -/
def scanOption (argv : List String) (spec : List Char) (place : OptionPlace) : OptionFound × OptionPlace :=
  let argc := argv.length
  if place.index ≥ argc then (.finished, ⟨argc, none⟩)
  else
    let (index, inside) := if place.index == 0 then (1, none) else (place.index, place.inside)
    let current : Option (Nat × Nat × List Char) := inside.bind fun (w, k) =>
      match argv[w]? with
      | some a => if a.length > k then some (w, k, a.toList.drop k) else none
      | none => none
    let start : Except Nat (Nat × Nat × List Char) := match current with
      | some c => .ok c
      | none =>
        if index ≥ argc then .error index
        else
          match ((argv[index]?).getD "").toList with
          | ['-', '-'] => .error (index + 1)
          | '-' :: c :: cs => .ok (index, 1, c :: cs)
          | _ => .error index
    match start with
    | .error stop => (.finished, ⟨stop, none⟩)
    | .ok (_, _, []) => (.finished, ⟨index, none⟩)
    | .ok (word, k, c :: rest) =>
      let (index, inside) := if rest.isEmpty then (index + 1, none) else (index, some (word, k + 1))
      if c == ':' || !spec.contains c then (.unknown c, ⟨index, inside⟩)
      else if takesArgument spec c then
        if !rest.isEmpty then (.letter c (some (String.ofList rest)), ⟨index + 1, none⟩)
        else if index == argc then (.missing c, ⟨index, none⟩)
        else (.letter c (some ((argv[index]?).getD "")), ⟨index + 1, none⟩)
      else (.letter c none, ⟨index, inside⟩)

example : (scanOption ["w", "-ab", "-c"] "abc".toList ⟨0, none⟩).2.index = 1 ∧
    (scanOption ["w", "-ab", "-c"] "abc".toList ⟨1, some (1, 2)⟩).2.index = 2 := by decide +kernel

namespace Session

/-- Runs `getopts` of the `bash` dialect: reads the next option of the positional parameters
(or of the arguments after the name) into the variable named, its argument into `OPTARG`
(an option without one leaves `OPTARG` declared without a value), and the argument to read
next into `OPTIND`; status 1 when no option is left. A letter that is no option, or that
misses its argument, is reported with the script's name, unless the option letters start
with `:` (which puts the letter into `OPTARG` instead) or `OPTERR` is zero. -/
def bashGetoptsCommand (sh : Session) (fds : List (Nat × Dest)) (line : Nat) (args : List String) : Step :=
  let usage := "getopts optstring name [arg ...]"
  match withoutOptions args with
  | .error m => sh.usageFail fds line "getopts" m usage
  | .ok (optstr :: var :: rest) =>
    let silent := optstr.startsWith ":"
    let spec := if silent then optstr.toList.drop 1 else optstr.toList
    let argv := sh.name :: (if rest.isEmpty then sh.args else rest)
    let (found, place) := scanOption argv spec ⟨sh.optionIndex, sh.optionOffset.map (sh.optionWord, ·)⟩
    let reporting := !silent && match sh.lookupVar "OPTERR" with
      | some v => v.isEmpty || leadingNumber v != 0
      | none => true
    let sh := sh.setVar "OPTIND" (toString place.index)
    let sh := { sh with optionIndex := place.index, optionOffset := place.inside.map (·.2),
                        optionWord := (place.inside.map (·.1)).getD sh.optionWord }
    let bindName (sh : Session) (v : String) : Session × Nat :=
      if !isName var then (sh.complain fds line ("getopts: `" ++ var ++ "': not a valid identifier"), 1)
      else if sh.readonly.contains var then (sh.complain fds line (var ++ ": readonly variable"), 2)
      else (sh.setVar var v, 0)
    let dropArg (sh : Session) : Session := sh.dropVar "OPTARG"
    let tell (sh : Session) (what : String) (c : Char) : Session :=
      if reporting then sh.say fds 2 (sh.name ++ ": " ++ what ++ " -- " ++ c.toString ++ "\n") else sh
    match found with
    | .finished => ((bindName (dropArg sh) "?").1, 1, .normal)
    | .unknown c =>
      let sh := tell sh "illegal option" c
      let (sh, st) := bindName sh "?"
      ((if silent then sh.setVar "OPTARG" c.toString else dropArg sh), st, .normal)
    | .missing c =>
      let sh := tell sh "option requires an argument" c
      if silent then
        let (sh, st) := bindName sh ":"
        (sh.setVar "OPTARG" c.toString, st, .normal)
      else
        let (sh, st) := bindName sh "?"
        (dropArg sh, st, .normal)
    | .letter c arg =>
      let sh := match arg with
        | some a => sh.setVar "OPTARG" a
        | none => ({ sh with vars := sh.vars.filter (·.1 != "OPTARG") } : Session).setAttrs "OPTARG" [] true
      let (sh, st) := bindName sh c.toString
      (sh, st, .normal)
  | .ok _ => sh.usageFail fds line "getopts" "" usage

/-- Whether the `bash` dialect takes a text as the name of an alias: it holds no blank, no
character that ends a word or quotes, no `$` and no `/`. -/
def aliasNameOk (n : String) : Bool := !n.any fun c => " \t\n()<>;&|\"'\\`$/".toList.contains c

/-- How the `bash` dialect lists an alias: as the command that makes it again, with `--`
before a name that starts with `-`. -/
def bashAliasLine (n v : String) : String :=
  "alias " ++ (if n.startsWith "-" then "-- " else "") ++ n ++ "=" ++ quoteSingle v ++ "\n"

/-- The aliases in the order the `bash` dialect lists them: by the bytes of their names,
a first byte above 127 counting as below zero. -/
def bashAliasOrder (aliases : List (String × String)) : List (String × String) :=
  let key (n : String) : List Nat :=
    match n.toUTF8.toList with
    | b :: rest => (if b.toNat ≥ 128 then b.toNat - 128 else b.toNat + 128) :: rest.map (·.toNat)
    | [] => []
  aliases.mergeSort fun a b => !List.lex (key b.1) (key a.1)

/-- Runs `alias` of the `bash` dialect: with no names, or with `-p`, lists every alias as a
command; then sets each `name=text`, where a name it does not take is reported, and lists
each name given alone, reporting one that is no alias. -/
def bashAliasCommand (sh : Session) (fds : List (Nat × Dest)) (line : Nat) (args : List String) : Step :=
  match readOptions "p" args with
  | .error m => sh.usageFail fds line "alias" (bashOptionProblem m) "alias [-p] [name[=value] ... ]"
  | .ok (opts, names) =>
    let sh := if names.isEmpty || !opts.isEmpty then
        sh.say fds 1 (String.join ((bashAliasOrder sh.aliases).map fun (n, v) => bashAliasLine n v))
      else sh
    names.foldl (fun (sh, st, fl) a =>
      let name := String.ofList (a.toList.takeWhile (· != '='))
      if !name.isEmpty && name.length < a.length then
        if aliasNameOk name then (sh.setAlias name (String.ofList (a.toList.drop (name.length + 1))), st, fl)
        else (sh.complain fds line ("alias: `" ++ name ++ "': invalid alias name"), 1, fl)
      else
        match sh.aliases.lookup a with
        | some v => (sh.say fds 1 (bashAliasLine a v), st, fl)
        | none => (sh.complain fds line ("alias: " ++ a ++ ": not found"), 1, fl)) (sh, 0, .normal)

/-- Runs `unalias` of the `bash` dialect: removes the aliases named, or all with `-a`; a
name that is not an alias is reported, with status 1, and no name at all is a wrong use. -/
def bashUnaliasCommand (sh : Session) (fds : List (Nat × Dest)) (line : Nat) (args : List String) : Step :=
  let usage := "unalias [-a] name [name ...]"
  match readOptions "a" args with
  | .error m => sh.usageFail fds line "unalias" (bashOptionProblem m) usage
  | .ok (opts, names) =>
    if !opts.isEmpty then ({ sh with aliases := [] }, 0, .normal)
    else if names.isEmpty then sh.usageFail fds line "unalias" "" usage
    else
      names.foldl (fun (sh, st, fl) n =>
        if sh.aliases.any (·.1 == n) then ({ sh with aliases := sh.aliases.filter (·.1 != n) }, st, fl)
        else (sh.complain fds line ("unalias: " ++ n ++ ": not found"), 1, fl)) (sh, 0, .normal)

/-- Runs a built-in command of the `bash` dialect that does not run other commands, by
name; `none` for other names. The commands the dialects share run as in the POSIX
dialect. -/
def bashBuiltin (sh : Session) (fds : List (Nat × Dest)) (line : Nat) (name : String) (args : List String) :
    Option Step :=
  match name with
  | "echo" => some (sh.write fds 1 (echoBash args), 0, .normal)
  | "printf" => some (sh.printfCommand fds line args)
  | "kill" => some (sh.bashKill fds line args)
  | "let" => some (sh.letCommand fds line args)
  | "shopt" => some (sh.shoptCommand fds line args)
  | "alias" => some (sh.bashAliasCommand fds line args)
  | "unalias" => some (sh.bashUnaliasCommand fds line args)
  | "read" => some (sh.bashReadCommand fds line args)
  | "mapfile" | "readarray" => some (sh.mapfileCommand fds line name args)
  | "cd" => some (sh.bashCdCommand fds line args)
  | "set" => some (sh.bashSetCommand fds line args)
  | "trap" => some (sh.bashTrapCommand fds line args)
  | "unset" => some (sh.bashUnsetCommand fds line args)
  | "test" | "[" => some (sh.bashTestCommand fds line name args)
  | "declare" | "typeset" | "local" | "export" | "readonly" =>
    some (sh.declareCommand fds line name (args.map .word))
  | "type" => some (sh.bashTypeCommand fds line args)
  | "wait" => some (sh.bashWaitCommand fds line args)
  | "jobs" => some (sh.bashJobsCommand fds line args)
  | "caller" => some (sh.callerCommand fds line args)
  | "hash" => some (sh.bashHashCommand fds line args)
  | "getopts" => some (sh.bashGetoptsCommand fds line args)
  | "times" => some (sh.say fds 1 "0m0.000s 0m0.000s\n0m0.000s 0m0.000s\n", 0, .normal)
  | "shift" =>
    -- a count is read as `break`'s is; a second one drops the rest of the command
    match countArgument args with
    | .tooMany => some (sh.complain fds line "shift: too many arguments", 1, .discard)
    | .bad a => some (sh.problem fds line "shift" (a ++ ": numeric argument required"))
    | .given a n =>
      if n < 0 then some (sh.problem fds line "shift" (a ++ ": shift count out of range"))
      else if n.toNat > sh.args.length then some (sh, 1, .normal)
      else some ({ sh with args := sh.args.drop n.toNat }, 0, .normal)
    | .none => some (if sh.args.isEmpty then (sh, 1, .normal) else ({ sh with args := sh.args.drop 1 }, 0, .normal))
  | "return" =>
    match countArgument args with
    | .tooMany => some (sh.complain fds line "return: too many arguments", 1, .discard)
    | given =>
      let (sh, v) : Session × Nat := match given with
        | .bad a => (sh.complain fds line ("return: " ++ a ++ ": numeric argument required"), 2)
        | .given _ n => (sh, statusOf n)
        | _ => (sh, sh.status)
      if !sh.mayReturn then
        some (sh.complain fds line "return: can only `return' from a function or sourced script", 2, .normal)
      else some (sh, v, .returned)
  | "exit" =>
    match countArgument args with
    | .tooMany => some (sh.complain fds line "exit: too many arguments", 1, .discard)
    | .bad a => some (sh.complain fds line ("exit: " ++ a ++ ": numeric argument required"), 2, .exit 2)
    | .given _ n => some (sh, statusOf n, .exit (statusOf n))
    | .none => some (sh, sh.status, .exit sh.status)
  | "break" | "continue" =>
    -- outside loops nothing is read; a count that is no number ends the shell, one below
    -- one leaves every loop
    if sh.loops = 0 then
      some (sh.complain fds line (name ++ ": only meaningful in a `for', `while', or `until' loop"), 0, .normal)
    else
      match countArgument args with
      | .tooMany => some (sh.complain fds line (name ++ ": too many arguments"), 1, .discard)
      | .bad a =>
        let st := sh.status ||| 128
        some (sh.complain fds line (name ++ ": " ++ a ++ ": numeric argument required"), st, .exit st)
      | .given a n =>
        if n ≤ 0 then some (sh.complain fds line (name ++ ": " ++ a ++ ": loop count out of range"), 1, .breakLoop sh.loops)
        else
          let n := min n.toNat sh.loops
          some (sh, 0, if name = "break" then .breakLoop n else .continueLoop n)
      | .none => some (sh, 0, if name = "break" then .breakLoop 1 else .continueLoop 1)
  | "chdir" => none
  | _ =>
    match sh.terminalBuiltin fds line name args with
    | some step => some step
    | none => sh.builtin fds line false name args

/-- Runs a built-in command of the `bash` dialect, holding what it writes to standard output
until it ends, and reports a write to standard output that failed: status 1 and the message
`name: write error: why`. -/
def runBashBuiltin (sh : Session) (fds : List (Nat × Dest)) (line : Nat) (name : String) (args : List String) :
    Option Step :=
  match ({ sh with writeFailed := false, held := some [] } : Session).bashBuiltin fds line name args with
  | some (after, status, flow) =>
    let after := ({ after with held := none } : Session).write fds 1 (after.held.getD [])
    if after.writeFailed then
      let why := (writeFault? fds 1).getD "Bad file descriptor"
      some (({ after with writeFailed := false } : Session).complain fds line (name ++ ": write error: " ++ why), 1, flow)
    else some (after, status, flow)
  | none => none

end Session

/-- The built-in commands of the `bash` dialect that take assignments as arguments. -/
def declaringBuiltins : List String := ["declare", "typeset", "local", "export", "readonly"]

end HelpMan.Shell
