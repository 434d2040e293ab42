import HelpMan.Shell.Builtin
import HelpMan.Shell.Format
import HelpMan.Shell.Pattern

/-!
# Built-in commands for a terminal

Some built-in commands of the `bash` dialect serve a person at a terminal: the stack of
directories (`pushd`, `popd`, `dirs`), turning built-in commands off and on (`enable`),
the descriptions of `help`, programmable completion (`complete`, `compgen`, `compopt`) and
job control (`suspend`, `disown`, `logout`, `fc`). A script may still run them, and this
module gives what they do there: the shell that runs a script has no terminal, no
history and no job control, and it is no login shell.
-/

namespace HelpMan.Shell

/-- The built-in commands of the `bash` dialect. -/
def bashBuiltins : List String :=
  [".", ":", "[", "alias", "bg", "bind", "break", "builtin", "caller", "cd", "command", "compgen", "complete",
   "compopt", "continue", "declare", "dirs", "disown", "echo", "enable", "eval", "exec", "exit", "export", "false",
   "fc", "fg", "getopts", "hash", "help", "history", "jobs", "kill", "let", "local", "logout", "mapfile", "popd",
   "printf", "pushd", "pwd", "read", "readarray", "readonly", "return", "set", "shift", "shopt", "source",
   "suspend", "test", "times", "trap", "true", "type", "typeset", "ulimit", "umask", "unalias", "unset", "wait"]

/-- The topics of `help`, in the order it goes through them, each with its synopsis and the
sentence that describes it. -/
def helpTopics : List (String × String × String) :=
  [("%", "job_spec [&]",
    "Resume job in foreground."),
   ("(( ... ))", "(( expression ))",
    "Evaluate arithmetic expression."),
   (".", ". filename [arguments]",
    "Execute commands from a file in the current shell."),
   (":", ":",
    "Null command."),
   ("[", "[ arg... ]",
    "Evaluate conditional expression."),
   ("[[ ... ]]", "[[ expression ]]",
    "Execute conditional command."),
   ("alias", "alias [-p] [name[=value] ... ]",
    "Define or display aliases."),
   ("bg", "bg [job_spec ...]",
    "Move jobs to the background."),
   ("bind", "bind [-lpsvPSVX] [-m keymap] [-f filename] [-q name] [-u name] [-r keyseq] [-x keyseq:shell-command] [keyseq:readline-function or readline-command]",
    "Set Readline key bindings and variables."),
   ("break", "break [n]",
    "Exit for, while, or until loops."),
   ("builtin", "builtin [shell-builtin [arg ...]]",
    "Execute shell builtins."),
   ("caller", "caller [expr]",
    "Return the context of the current subroutine call."),
   ("case", "case WORD in [PATTERN [| PATTERN]...) COMMANDS ;;]... esac",
    "Execute commands based on pattern matching."),
   ("cd", "cd [-L|[-P [-e]] [-@]] [dir]",
    "Change the shell working directory."),
   ("command", "command [-pVv] command [arg ...]",
    "Execute a simple command or display information about commands."),
   ("compgen", "compgen [-abcdefgjksuv] [-o option] [-A action] [-G globpat] [-W wordlist] [-F function] [-C command] [-X filterpat] [-P prefix] [-S suffix] [word]",
    "Display possible completions depending on the options."),
   ("complete", "complete [-abcdefgjksuv] [-pr] [-DEI] [-o option] [-A action] [-G globpat] [-W wordlist] [-F function] [-C command] [-X filterpat] [-P prefix] [-S suffix] [name ...]",
    "Specify how arguments are to be completed by Readline."),
   ("compopt", "compopt [-o|+o option] [-DEI] [name ...]",
    "Modify or display completion options."),
   ("continue", "continue [n]",
    "Resume for, while, or until loops."),
   ("coproc", "coproc [NAME] command [redirections]",
    "Create a coprocess named NAME."),
   ("declare", "declare [-aAfFgiIlnrtux] [name[=value] ...] or declare -p [-aAfFilnrtux] [name ...]",
    "Set variable values and attributes."),
   ("dirs", "dirs [-clpv] [+N] [-N]",
    "Display directory stack."),
   ("disown", "disown [-h] [-ar] [jobspec ... | pid ...]",
    "Remove jobs from current shell."),
   ("echo", "echo [-neE] [arg ...]",
    "Write arguments to the standard output."),
   ("enable", "enable [-a] [-dnps] [-f filename] [name ...]",
    "Enable and disable shell builtins."),
   ("eval", "eval [arg ...]",
    "Execute arguments as a shell command."),
   ("exec", "exec [-cl] [-a name] [command [argument ...]] [redirection ...]",
    "Replace the shell with the given command."),
   ("exit", "exit [n]",
    "Exit the shell."),
   ("export", "export [-fn] [name[=value] ...] or export -p",
    "Set export attribute for shell variables."),
   ("false", "false",
    "Return an unsuccessful result."),
   ("fc", "fc [-e ename] [-lnr] [first] [last] or fc -s [pat=rep] [command]",
    "Display or execute commands from the history list."),
   ("fg", "fg [job_spec]",
    "Move job to the foreground."),
   ("for", "for NAME [in WORDS ... ] ; do COMMANDS; done",
    "Execute commands for each member in a list."),
   ("for ((", "for (( exp1; exp2; exp3 )); do COMMANDS; done",
    "Arithmetic for loop."),
   ("function", "function name \x7b COMMANDS ; \x7d or name () \x7b COMMANDS ; \x7d",
    "Define shell function."),
   ("getopts", "getopts optstring name [arg ...]",
    "Parse option arguments."),
   ("hash", "hash [-lr] [-p pathname] [-dt] [name ...]",
    "Remember or display program locations."),
   ("help", "help [-dms] [pattern ...]",
    "Display information about builtin commands."),
   ("history", "history [-c] [-d offset] [n] or history -anrw [filename] or history -ps arg [arg...]",
    "Display or manipulate the history list."),
   ("if", "if COMMANDS; then COMMANDS; [ elif COMMANDS; then COMMANDS; ]... [ else COMMANDS; ] fi",
    "Execute commands based on conditional."),
   ("jobs", "jobs [-lnprs] [jobspec ...] or jobs -x command [args]",
    "Display status of jobs."),
   ("kill", "kill [-s sigspec | -n signum | -sigspec] pid | jobspec ... or kill -l [sigspec]",
    "Send a signal to a job."),
   ("let", "let arg [arg ...]",
    "Evaluate arithmetic expressions."),
   ("local", "local [option] name[=value] ...",
    "Define local variables."),
   ("logout", "logout [n]",
    "Exit a login shell."),
   ("mapfile", "mapfile [-d delim] [-n count] [-O origin] [-s count] [-t] [-u fd] [-C callback] [-c quantum] [array]",
    "Read lines from the standard input into an indexed array variable."),
   ("popd", "popd [-n] [+N | -N]",
    "Remove directories from stack."),
   ("printf", "printf [-v var] format [arguments]",
    "Formats and prints ARGUMENTS under control of the FORMAT."),
   ("pushd", "pushd [-n] [+N | -N | dir]",
    "Add directories to stack."),
   ("pwd", "pwd [-LP]",
    "Print the name of the current working directory."),
   ("read", "read [-ers] [-a array] [-d delim] [-i text] [-n nchars] [-N nchars] [-p prompt] [-t timeout] [-u fd] [name ...]",
    "Read a line from the standard input and split it into fields."),
   ("readarray", "readarray [-d delim] [-n count] [-O origin] [-s count] [-t] [-u fd] [-C callback] [-c quantum] [array]",
    "Read lines from a file into an array variable."),
   ("readonly", "readonly [-aAf] [name[=value] ...] or readonly -p",
    "Mark shell variables as unchangeable."),
   ("return", "return [n]",
    "Return from a shell function."),
   ("select", "select NAME [in WORDS ... ;] do COMMANDS; done",
    "Select words from a list and execute commands."),
   ("set", "set [-abefhkmnptuvxBCEHPT] [-o option-name] [--] [-] [arg ...]",
    "Set or unset values of shell options and positional parameters."),
   ("shift", "shift [n]",
    "Shift positional parameters."),
   ("shopt", "shopt [-pqsu] [-o] [optname ...]",
    "Set and unset shell options."),
   ("source", "source filename [arguments]",
    "Execute commands from a file in the current shell."),
   ("suspend", "suspend [-f]",
    "Suspend shell execution."),
   ("test", "test [expr]",
    "Evaluate conditional expression."),
   ("time", "time [-p] pipeline",
    "Report time consumed by pipeline's execution."),
   ("times", "times",
    "Display process times."),
   ("trap", "trap [-lp] [[arg] signal_spec ...]",
    "Trap signals and other events."),
   ("true", "true",
    "Return a successful result."),
   ("type", "type [-afptP] name [name ...]",
    "Display information about command type."),
   ("typeset", "typeset [-aAfFgiIlnrtux] name[=value] ... or typeset -p [-aAfFilnrtux] [name ...]",
    "Set variable values and attributes."),
   ("ulimit", "ulimit [-SHabcdefiklmnpqrstuvxPRT] [limit]",
    "Modify shell resource limits."),
   ("umask", "umask [-p] [-S] [mode]",
    "Display or set file mode mask."),
   ("unalias", "unalias [-a] name [name ...]",
    "Remove each NAME from the list of defined aliases."),
   ("unset", "unset [-f] [-v] [-n] [name ...]",
    "Unset values and attributes of shell variables and functions."),
   ("until", "until COMMANDS; do COMMANDS-2; done",
    "Execute commands as long as a test does not succeed."),
   ("variables", "variables - Names and meanings of some shell variables",
    "Common shell variable names and usage."),
   ("wait", "wait [-fn] [-p var] [id ...]",
    "Wait for job completion and return exit status."),
   ("while", "while COMMANDS; do COMMANDS-2; done",
    "Execute commands as long as a test succeeds."),
   ("\x7b ... \x7d", "\x7b COMMANDS ; \x7d",
    "Group commands as a unit.")]

/-- The topics of `help` that a word asks for: those it names or that it matches as a
pattern, and when there are none, those it begins. -/
def helpMatches (word : String) : List (String × String × String) :=
  let pattern := Glob.parse (word.toList.map (·, false))
  match helpTopics.filter fun (n, _) => n == word || Glob.matches pattern n.toList with
  | [] => helpTopics.filter fun (n, _) => n.startsWith word
  | found => found

/-- The options of `complete -o`, in the order `complete -p` writes them. -/
def completionOptions : List String :=
  ["bashdefault", "default", "dirnames", "filenames", "noquote", "nosort", "nospace", "plusdirs"]

/-- The actions of `complete -A` that have a letter of their own, with the letter. -/
def actionLetters : List (String × Char) :=
  [("alias", 'a'), ("builtin", 'b'), ("command", 'c'), ("directory", 'd'), ("export", 'e'), ("file", 'f'),
   ("group", 'g'), ("job", 'j'), ("keyword", 'k'), ("service", 's'), ("user", 'u'), ("variable", 'v')]

/-- The actions of `complete -A` without a letter, in the order `complete -p` writes them. -/
def actionNames : List String :=
  ["arrayvar", "binding", "disabled", "enabled", "function", "helptopic", "hostname", "running", "setopt",
   "shopt", "signal", "stopped"]

/-- A completion that `complete` sets for a command. -/
structure Completion where
  /-- The options given with `-o`. -/
  options : List String := []
  /-- The actions given by their letters (or by `-A` with a name that has a letter). -/
  letters : List Char := []
  /-- The other actions given with `-A`. -/
  actions : List String := []
  /-- The arguments of the options that take one (`-G`, `-W`, `-P`, `-S`, `-X`, `-C`, `-F`),
  by letter. -/
  arguments : List (Char × String) := []

/-- A completion as `complete -p` writes it for a command: the options in a fixed order,
the arguments in single quotes but for a function's name, then the command's name. -/
def Completion.text (c : Completion) (name : String) : String :=
  let opts := (completionOptions.filter c.options.contains).map fun o => "-o " ++ o ++ " "
  let letters := ("abcdefgjksuv".toList.filter c.letters.contains).map fun l => "-" ++ l.toString ++ " "
  let actions := (actionNames.filter c.actions.contains).map fun a => "-A " ++ a ++ " "
  let args := "GWPSXCF".toList.filterMap fun l => (c.arguments.lookup l).map fun a =>
    "-" ++ l.toString ++ " " ++ (if l == 'F' then a else "'" ++ String.join (a.toList.map fun ch =>
      if ch = '\'' then "'\\''" else ch.toString) ++ "'") ++ " "
  "complete " ++ String.join (opts ++ letters ++ actions ++ args) ++ name

/-- What the arguments of `complete` or `compgen` ask: the completion they describe, whether
to write (`-p`) or remove (`-r`) completions, and the words left. -/
structure CompletionRequest where
  completion : Completion := {}
  print : Bool := false
  remove : Bool := false
  words : List String := []

/-- Reads the options of `complete` and `compgen`: clusters of letters, `-o`, `-A` and the
options with an argument taking the rest of the cluster or the next word, up to `--` or
the first word that is no option. A problem is the message and the status. -/
def readCompletion : Nat → CompletionRequest → List String → Except (String × Nat) CompletionRequest
  | 0, r, _ => .ok r
  | _ + 1, r, [] => .ok r
  | fuel + 1, r, a :: rest =>
    if a == "--" then .ok { r with words := rest }
    else
      match a.toList with
      | '-' :: c :: cs =>
        let takesArg := "oAGWPSXCF".toList.contains c
        if !takesArg && !"abcdefgjksuvprDEI".toList.contains c then .error (String.ofList ['-', c] ++ ": invalid option", 2)
        else if takesArg then
          let (arg?, more) : Option String × List String :=
            if !cs.isEmpty then (some (String.ofList cs), rest)
            else match rest with
              | x :: xs => (some x, xs)
              | [] => (none, [])
          match arg? with
          | none => .error (String.ofList ['-', c] ++ ": option requires an argument", 2)
          | some arg =>
            let comp := r.completion
            if c == 'o' then
              if completionOptions.contains arg then
                readCompletion fuel { r with completion := { comp with options := comp.options ++ [arg] } } more
              else .error (arg ++ ": invalid option name", 2)
            else if c == 'A' then
              match actionLetters.lookup arg with
              | some l => readCompletion fuel { r with completion := { comp with letters := comp.letters ++ [l] } } more
              | none =>
                if actionNames.contains arg then
                  readCompletion fuel { r with completion := { comp with actions := comp.actions ++ [arg] } } more
                else .error (arg ++ ": invalid action name", 2)
            else
              readCompletion fuel { r with completion := { comp with arguments := (c, arg) :: comp.arguments.filter (·.1 != c) } } more
        else
          let r := if c == 'p' then { r with print := true }
            else if c == 'r' then { r with remove := true }
            else if "DEI".toList.contains c then r
            else { r with completion := { r.completion with letters := r.completion.letters ++ [c] } }
          if cs.isEmpty then readCompletion fuel r rest else readCompletion fuel r (String.ofList ('-' :: cs) :: rest)
      | _ => .ok { r with words := a :: rest }

/-! ## Menus of `select` -/

/-- The characters of a byte text: its bytes that do not continue a UTF-8 sequence. -/
def shownLength (s : String) : Nat := (s.toList.filter fun c => c.toNat < 0x80 || c.toNat ≥ 0xC0).length

/-- Blanks and tabs from column `from` to column `upTo`, tabs standing every eight columns
where they reach. -/
def spanTo : Nat → Nat → Nat → String
  | 0, _, _ => ""
  | fuel + 1, at_, upTo =>
    if at_ ≥ upTo then ""
    else if upTo / 8 > at_ / 8 then "\t" ++ spanTo fuel (at_ + 8 - at_ % 8) upTo
    else " " ++ spanTo fuel (at_ + 1) upTo

/-- The menu of `select` for its words on a terminal of `columns` columns: each word after
its number and `) `, in columns down then across when they fit, else one to a line. -/
def selectMenu (columns : Nat) (items : List String) : String :=
  let n := items.length
  let indexWidth := (toString n).length
  let cell := (items.foldl (fun m w => max m (shownLength w)) 0) + indexWidth + 4
  let cols := max 1 (columns / cell)
  let rows := n / cols + (if n % cols != 0 then 1 else 0)
  let cols := if rows == 0 then 1 else n / rows + (if n % rows != 0 then 1 else 0)
  let (rows, cols) := if rows == 1 then (cols, 1) else (rows, cols)
  let firstWidth := (toString rows).length
  let numbered (width k : Nat) : String :=
    let t := toString (k + 1)
    String.ofList (List.replicate (width - t.length) ' ') ++ t ++ ") " ++ (items[k]?).getD ""
  String.join ((List.range rows).map fun row =>
    let cells := ((List.range cols).map fun col => (col, row + col * rows)).filter fun (_, k) => k < n
    let (text, _) := cells.foldl (fun (text, pos) (col, k) =>
      let width := if col == 0 then firstWidth else indexWidth
      let used := shownLength ((items[k]?).getD "") + width + 2
      let text := text ++ numbered width k
      if k + rows < n then (text ++ spanTo (cell + 1) (pos + used) (pos + cell), pos + cell) else (text, pos))
      ("", 0)
    text ++ "\n")

/-- The word a line read by `select` chooses: the word of the number it holds (blanks
around it and a sign allowed), or nothing for a line that is no number of a word. -/
def selectChoice (items : List String) (reply : String) : String :=
  let cs := ((reply.toList.dropWhile Char.isWhitespace).reverse.dropWhile Char.isWhitespace).reverse
  let digits := match cs with
    | '+' :: ds => ds
    | ds => ds
  if digits.isEmpty || !digits.all Char.isDigit then ""
  else
    let k : Nat := digits.foldl (fun v d => v * 10 + (d.toNat - 48)) 0
    if 1 ≤ k then (items[k - 1]?).getD "" else ""

example : selectMenu 80 ["a", "b"] = "1) a\n2) b\n" ∧ selectChoice ["a", "b"] " 2 " = "b" := by decide +kernel

namespace Session

/-- A directory as the directory stack shows it: `~` for the home directory at its start. -/
def politePath (sh : Session) (dir : String) : String :=
  match sh.lookupVar "HOME" with
  | some home =>
    if !home.isEmpty && home != "/" && (dir == home || dir.startsWith (home ++ "/")) then
      "~" ++ String.ofList (dir.toList.drop home.length)
    else dir
  | none => dir

/-- The directory stack, the current directory first. -/
def directoryStack (sh : Session) : List String := sh.cwdText :: sh.dirStack

/-- The directory stack as `dirs` writes it: on one line, or one to a line (`perLine`),
numbered (`numbered`); with `~` for the home directory unless `long`. -/
def stackText (sh : Session) (long perLine numbered : Bool) : String :=
  let dirs := sh.directoryStack.map fun d => if long then d else sh.politePath d
  if numbered then String.join (dirs.zipIdx.map fun (d, i) =>
    (if i < 10 then " " else "") ++ toString i ++ "  " ++ d ++ "\n")
  else if perLine then String.join (dirs.map (· ++ "\n"))
  else " ".intercalate dirs ++ "\n"

/-- Runs `dirs`: clears the stack (`-c`), writes one entry (`+n` from the top, `-n` from
the bottom), or writes the stack. -/
def dirsCommand (sh : Session) (fds : List (Nat × Dest)) (line : Nat) (args : List String) : Step :=
  let (flags, rest) := args.partition fun a => a.startsWith "-" && a.length > 1 && (a.toList.drop 1).all Char.isAlpha
  let letters := flags.flatMap fun f => f.toList.drop 1
  match letters.find? (!"clpv".toList.contains ·) with
  | some c =>
    let sh := sh.complain fds line ("dirs: -" ++ c.toString ++ ": invalid option")
    (sh.complain fds line "dirs: usage: dirs [-clpv] [+N] [-N]", 2, .normal)
  | none =>
    if letters.contains 'c' then ({ sh with dirStack := [] }, 0, .normal)
    else
      match rest with
      | [] => (sh.say fds 1 (sh.stackText (letters.contains 'l') (letters.contains 'p') (letters.contains 'v')), 0, .normal)
      | a :: _ =>
        let stack := sh.directoryStack
        let entry? : Option String := match a.toList with
          | '+' :: ds => (String.ofList ds).toNat?.bind fun n => stack[n]?
          | '-' :: ds => (String.ofList ds).toNat?.bind fun n => if n < stack.length then stack[stack.length - 1 - n]? else none
          | _ => none
        match entry? with
        | some d => (sh.say fds 1 ((if letters.contains 'l' then d else sh.politePath d) ++ "\n"), 0, .normal)
        | none =>
          if a.startsWith "+" || a.startsWith "-" then
            (sh.complain fds line ("dirs: " ++ String.ofList (a.toList.drop 1) ++ ": directory stack index out of range"),
              1, .normal)
          else
            let sh := sh.complain fds line ("dirs: " ++ a ++ ": invalid option")
            (sh.complain fds line "dirs: usage: dirs [-clpv] [+N] [-N]", 2, .normal)

/-- Why a directory cannot be made the current one. -/
def whyNotDirectory (sh : Session) (dir : String) : String :=
  match sh.kindOf? dir with
  | some .dir => "Permission denied"
  | some _ => "Not a directory"
  | none => "No such file or directory"

/-- Runs `pushd`: makes a directory the current one and puts the one before on the stack,
or with no directory swaps the two at the top; then writes the stack, unless `-n`. -/
def pushdCommand (sh : Session) (fds : List (Nat × Dest)) (line : Nat) (args : List String) : Step :=
  let quiet := args.contains "-n"
  let args := args.filter (· != "-n")
  let shown (sh : Session) : Step := (if quiet then sh else sh.say fds 1 (sh.stackText false false false), 0, .normal)
  match args with
  | [] =>
    match sh.dirStack with
    | [] => (sh.complain fds line "pushd: no other directory", 1, .normal)
    | top :: below =>
      let old := sh.cwdText
      match sh.changeTo top false with
      | some moved => shown { moved with dirStack := old :: below }
      | none => (sh.complain fds line ("pushd: " ++ top ++ ": " ++ sh.whyNotDirectory top), 1, .normal)
  | dir :: _ =>
    let old := sh.cwdText
    match sh.changeTo dir false with
    | some moved => shown { moved with dirStack := old :: sh.dirStack }
    | none => (sh.complain fds line ("pushd: " ++ dir ++ ": " ++ sh.whyNotDirectory dir), 1, .normal)

/-- Runs `popd`: makes the directory at the top of the stack the current one and takes it
off; then writes the stack, unless `-n`. -/
def popdCommand (sh : Session) (fds : List (Nat × Dest)) (line : Nat) (args : List String) : Step :=
  let quiet := args.contains "-n"
  match sh.dirStack with
  | [] => (sh.complain fds line "popd: directory stack empty", 1, .normal)
  | top :: below =>
    match sh.changeTo top false with
    | some moved =>
      let moved := { moved with dirStack := below }
      (if quiet then moved else moved.say fds 1 (moved.stackText false false false), 0, .normal)
    | none => (sh.complain fds line ("popd: " ++ top ++ ": " ++ sh.whyNotDirectory top), 1, .normal)

/-- Runs `enable`: turns built-in commands off (`-n`) or on, or lists them: those on, or
with `-n` those off, as the commands that would set them so. -/
def enableCommand (sh : Session) (fds : List (Nat × Dest)) (line : Nat) (args : List String) : Step :=
  let off := args.contains "-n"
  let listAll := args.contains "-a"
  let names := args.filter fun a => !a.startsWith "-"
  if names.isEmpty then
    let shown := bashBuiltins.filter fun b =>
      listAll || (if off then sh.disabled.contains b else !sh.disabled.contains b)
    (sh.say fds 1 (String.join (shown.map fun b => "enable " ++ (if sh.disabled.contains b then "-n " else "") ++ b ++ "\n")),
      0, .normal)
  else
    names.foldl (fun (sh, st, fl) n =>
      if !bashBuiltins.contains n then (sh.complain fds line ("enable: " ++ n ++ ": not a shell builtin"), 1, fl)
      else if off then ({ sh with disabled := (sh.disabled ++ [n]).eraseDups }, st, fl)
      else ({ sh with disabled := sh.disabled.filter (· != n) }, st, fl)) (sh, 0, .normal)

/-- Runs `help` with `-d`: each topic a word asks for, with the sentence that describes it.
A word that asks for no topic is reported, and the status is 1 when no word asked for one. -/
def helpCommand (sh : Session) (fds : List (Nat × Dest)) (line : Nat) (args : List String) : Step :=
  let words := args.filter fun a => !a.startsWith "-"
  let shortForm := args.contains "-s"
  let found := words.flatMap helpMatches
  let text := String.join (found.map fun (n, synopsis, d) =>
    if shortForm then n ++ ": " ++ synopsis ++ "\n" else n ++ " - " ++ d ++ "\n")
  let sh := sh.say fds 1 text
  match found, words.getLast? with
  | [], some w =>
    (sh.complain fds line ("help: no help topics match `" ++ w ++ "'.  Try `help help' or `man -k " ++ w ++
      "' or `info " ++ w ++ "'."), 1, .normal)
  | _, _ => (sh, 0, .normal)

/-- Runs `complete`: sets the completion described for each name, removes completions
(`-r`), or writes them (`-p`, or no options and no names). -/
def completeCommand (sh : Session) (fds : List (Nat × Dest)) (line : Nat) (args : List String) : Step :=
  let usage := "complete [-abcdefgjksuv] [-pr] [-DEI] [-o option] [-A action] [-G globpat] [-W wordlist] [-F function] [-C command] [-X filterpat] [-P prefix] [-S suffix] [name ...]"
  match readCompletion (args.length + 1) {} args with
  | .error (m, st) =>
    let sh := sh.complain fds line ("complete: " ++ m)
    if st == 2 && m.endsWith "option" then (sh.complain fds line ("complete: usage: " ++ usage), 2, .normal)
    else (sh, st, .normal)
  | .ok r =>
    if r.remove then
      if r.words.isEmpty then ({ sh with completions := [] }, 0, .normal)
      else
        r.words.foldl (fun (sh, st, fl) n =>
          if sh.completions.any (·.1 == n) then ({ sh with completions := sh.completions.filter (·.1 != n) }, st, fl)
          else (sh.complain fds line ("complete: " ++ n ++ ": no completion specification"), 1, fl)) (sh, 0, .normal)
    else if r.print || args.isEmpty then
      if r.words.isEmpty then (sh.say fds 1 (String.join (sh.completions.map fun (_, t) => t ++ "\n")), 0, .normal)
      else
        r.words.foldl (fun (sh, st, fl) n =>
          match sh.completions.lookup n with
          | some t => (sh.say fds 1 (t ++ "\n"), st, fl)
          | none => (sh.complain fds line ("complete: " ++ n ++ ": no completion specification"), 1, fl)) (sh, 0, .normal)
    else
      (r.words.foldl (fun sh n => { sh with completions := setIn' sh.completions n (r.completion.text n) }) sh, 0, .normal)

/-- Runs `compopt`, which changes the completion being computed: outside completion it
has none to change. -/
def compoptCommand (sh : Session) (fds : List (Nat × Dest)) (line : Nat) (args : List String) : Step :=
  let names := args.filter fun a => !a.startsWith "-" && !completionOptions.contains a
  match names with
  | [] => (sh.complain fds line "compopt: not currently executing completion function", 1, .normal)
  | _ =>
    names.foldl (fun (sh, st, fl) n =>
      if sh.completions.any (·.1 == n) then (sh, st, fl)
      else (sh.complain fds line ("compopt: " ++ n ++ ": no completion specification"), 1, fl)) (sh, 0, .normal)

/-- Runs `compgen`: the words of `-W` and the names of the actions asked for that begin
with the word given, one to a line; the status is 1 when there are none. -/
def compgenCommand (sh : Session) (fds : List (Nat × Dest)) (line : Nat) (args : List String) : Step :=
  match readCompletion (args.length + 1) {} args with
  | .error (m, st) => (sh.complain fds line ("compgen: " ++ m), st, .normal)
  | .ok r =>
    let c := r.completion
    let word := r.words.headD ""
    let splitWords (s : String) : List String :=
      ((s.toList.splitBy fun a b => (a == ' ' || a == '\t' || a == '\n') == (b == ' ' || b == '\t' || b == '\n')).filter
        fun run => !run.all fun ch => ch == ' ' || ch == '\t' || ch == '\n').map String.ofList
    let byLetter (l : Char) : List String :=
      if !c.letters.contains l then []
      else match l with
        | 'a' => sh.aliases.map Prod.fst
        | 'b' => bashBuiltins
        | 'k' => bashReservedWords
        | 'v' => (sh.vars.map Prod.fst ++ sh.arrays.map Prod.fst)
        | 'e' => sh.exported
        | _ => []
    let candidates := "abkve".toList.flatMap byLetter ++
      (if c.actions.contains "function" then sh.functions.map Prod.fst else []) ++
      ((c.arguments.lookup 'W').map splitWords).getD []
    let found := candidates.filter (·.startsWith word)
    let prefix_ := (c.arguments.lookup 'P').getD ""
    let suffix := (c.arguments.lookup 'S').getD ""
    (sh.say fds 1 (String.join (found.map fun w => prefix_ ++ w ++ suffix ++ "\n")), if found.isEmpty then 1 else 0, .normal)

/-- Runs `disown`: takes the current job, or the jobs named, out of the table of jobs. A job
that is not there is reported, with status 1. -/
def disownCommand (sh : Session) (fds : List (Nat × Dest)) (line : Nat) (args : List String) : Step :=
  let opts := args.filter (·.startsWith "-")
  let names := args.filter fun a => !a.startsWith "-"
  if opts.any (fun o => o.contains 'a') then ({ sh with jobs := [] }, 0, .normal)
  else if names.isEmpty then
    match sh.ownJobs.getLast? with
    | some j => ({ sh with jobs := sh.jobs.filter fun (k : Job) => k.number != j.number }, 0, .normal)
    | none => (sh.complain fds line "disown: current: no such job", 1, .normal)
  else
    names.foldl (fun ((sh, st, fl) : Step) n =>
      let job? : Option Job := match n.toList with
        | '%' :: ds => (String.ofList ds).toNat?.bind fun k => sh.jobs.find? fun (j : Job) => j.number == k
        | _ => n.toNat?.bind fun p => sh.jobs.find? fun (j : Job) => j.pid == p
      match job? with
      | some j => ({ sh with jobs := sh.jobs.filter fun (k : Job) => k.number != j.number }, st, fl)
      | none => (sh.complain fds line ("disown: " ++ n ++ ": no such job"), 1, fl)) (sh, 0, .normal)

/-- Runs one of the commands for a terminal by name; `none` for other names. -/
def terminalBuiltin (sh : Session) (fds : List (Nat × Dest)) (line : Nat) (name : String) (args : List String) :
    Option Step :=
  match name with
  | "dirs" => some (sh.dirsCommand fds line args)
  | "pushd" => some (sh.pushdCommand fds line args)
  | "popd" => some (sh.popdCommand fds line args)
  | "enable" => some (sh.enableCommand fds line args)
  | "help" => some (sh.helpCommand fds line args)
  | "complete" => some (sh.completeCommand fds line args)
  | "compopt" => some (sh.compoptCommand fds line args)
  | "compgen" => some (sh.compgenCommand fds line args)
  | "disown" => some (sh.disownCommand fds line args)
  | "suspend" => some (sh.complain fds line "suspend: cannot suspend: no job control", 1, .normal)
  | "logout" => some (sh.complain fds line "logout: not login shell: use `exit'", 1, .normal)
  | "fc" | "history" => some (sh, 0, .normal)
  | _ => none

end Session

end HelpMan.Shell
