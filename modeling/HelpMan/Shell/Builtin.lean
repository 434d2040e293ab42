import HelpMan.Shell.State
import HelpMan.Shell.Test
import HelpMan.Shell.Parse
import HelpMan.Shell.Program

/-!
# Built-in commands

`Session.builtin` runs the commands that the shell runs itself, by name; the commands
that run other commands (`eval`, `exec`, `.`, `command`, functions, programs) belong to
the running of scripts.

- The special built-in commands (`specialBuiltins`) come before functions, their
  assignments stay, and a problem in one ends the shell with status 2; a problem in
  another built-in command gives status 2 and the shell goes on (`Session.fail`).
- Problems are reported with the script's name, the line and the command's name
  (`Session.complain`); `getopts`, `alias` and `unalias` write some of theirs bare.
- Options are read as the shell reads them for all its commands (`optionsFrom`): letters
  after `-`, in clusters, up to `--` or the first word that is no option.
- Numbers are read by `countOf?`: decimal, at most `2 ^ 31 - 1`.
-/

namespace HelpMan.Shell

/-- What a command leaves: the shell, its status, and how running goes on. -/
abbrev Step := Session × Nat × Flow

/-- The other built-in commands. -/
def regularBuiltins : List String :=
  ["[", "alias", "bg", "cd", "chdir", "command", "echo", "false", "fg", "getopts", "hash", "jobs", "kill", "printf",
   "pwd", "read", "test", "true", "type", "ulimit", "umask", "unalias", "wait"]

/-! ## Options and quoting -/

/-- Whether an option letter of a specification takes an argument: a `:` follows it. -/
def takesArgument (spec : List Char) (c : Char) : Bool :=
  match spec.dropWhile (· != c) with
  | _ :: ':' :: _ => true
  | _ => false

/-- Reads one cluster of option letters: each letter, with its argument (the rest of the
cluster, or else the next word), and the words left. -/
def optionCluster (spec : List Char) : List Char → List (Char × String) → List String →
    Except String (List (Char × String) × List String)
  | [], got, rest => .ok (got, rest)
  | c :: cs, got, rest =>
    if c == ':' || !spec.contains c then .error ("Illegal option -" ++ c.toString)
    else if takesArgument spec c then
      if !cs.isEmpty then .ok (got ++ [(c, String.ofList cs)], rest)
      else
        match rest with
        | a :: more => .ok (got ++ [(c, a)], more)
        | [] => .error ("No arg for -" ++ c.toString ++ " option")
    else optionCluster spec cs (got ++ [(c, "")]) rest

/-- Reads the options of a built-in command: the letters of `spec` (a letter followed by
`:` takes an argument), in clusters after `-`, up to `--` (dropped), `-` or the first word
that does not start with `-`. -/
def optionsFrom (spec : String) : Nat → List (Char × String) → List String →
    Except String (List (Char × String) × List String)
  | 0, got, args => .ok (got, args)
  | _ + 1, got, [] => .ok (got, [])
  | fuel + 1, got, a :: rest =>
    if a == "--" then .ok (got, rest)
    else
      match a.toList with
      | '-' :: c :: cs => do
        let (got, rest) ← optionCluster spec.toList (c :: cs) got rest
        optionsFrom spec fuel got rest
      | _ => .ok (got, a :: rest)

/-- Reads the options of a built-in command's arguments. -/
def readOptions (spec : String) (args : List String) : Except String (List (Char × String) × List String) :=
  optionsFrom spec (args.length + 1) [] args

/-- Quoted runs of a text: the characters up to a single quote in single quotes, then a
run of single quotes in double quotes, and so on while characters are left. -/
def quotedRuns : Nat → List Char → List Char
  | 0, _ => []
  | fuel + 1, cs =>
    let plain := cs.takeWhile (· ≠ '\'')
    let rest := cs.drop plain.length
    let quotes := rest.takeWhile (· = '\'')
    let after := rest.drop quotes.length
    '\'' :: plain ++ ['\''] ++
      (if quotes.isEmpty then [] else '"' :: quotes ++ ['"'] ++ (if after.isEmpty then [] else quotedRuns fuel after))

/-- A text quoted so that the shell reads it back as it is: in single quotes, with single
quotes inside written in double quotes. -/
def singleQuote (s : String) : String := String.ofList (quotedRuns (s.length + 1) s.toList)

example : singleQuote "it's" = "'it'\"'\"'s'" := by decide +kernel

/-- The signal a `trap` operand names: `EXIT` (in any case) or `0` for the shell's exit,
or a signal. -/
def trapSignalOf? (s : String) : Option Nat := if s.toUpper == "EXIT" then some 0 else signalOf? s

/-- The location a path names when `..` goes up from the names written before it, as the
shell follows the current directory. -/
def logicalPath (cwd : Location) (path : String) : Location :=
  let parts := (Text.splitOn '/' path.toList).map String.ofList
  let (start, parts) := match parts with
    | "" :: rest => ([], rest)
    | "$DIR" :: rest => (Workspace.home, rest)
    | ps => (cwd, ps)
  parts.foldl (fun loc p => if p == "" || p == "." then loc else if p == ".." then loc.dropLast else loc ++ [p]) start

example : logicalPath Workspace.home "nodir/../sub" = Workspace.home ++ ["sub"] := by decide +kernel

/-- A problem that `readOptions` found, as the `bash` dialect words it. -/
def bashOptionProblem (m : String) : String :=
  if m.startsWith "Illegal option " then String.ofList (m.toList.drop 15) ++ ": invalid option"
  else if m.startsWith "No arg for " then
    String.ofList ((m.toList.drop 11).take (m.length - 18)) ++ ": option requires an argument"
  else m

example : bashOptionProblem "Illegal option -z" = "-z: invalid option" ∧
    bashOptionProblem "No arg for -v option" = "-v: option requires an argument" := by decide +kernel

/-- The arguments of a built-in command of the `bash` dialect that takes no options: a
first `--` is dropped, and a first word of `-` and a letter is a problem, reported with the
letter. -/
def withoutOptions (args : List String) : Except String (List String) :=
  match args with
  | "--" :: rest => .ok rest
  | a :: _ =>
    match a.toList with
    | '-' :: c :: _ => .error (String.ofList ['-', c] ++ ": invalid option")
    | _ => .ok args
  | [] => .ok []

example : withoutOptions ["--", "-x"] = .ok ["-x"] := rfl
example : withoutOptions ["-zq"] = .error "-z: invalid option" := rfl

namespace Session

/-- Reports a problem of a built-in command, with its name: status 2, and the end of the
shell when the command is special. -/
def fail (sh : Session) (fds : List (Nat × Dest)) (line : Nat) (special : Bool) (name msg : String) : Step :=
  (sh.complain fds line (name ++ ": " ++ msg), 2, if special then .exit 2 else .normal)

/-- Reports a wrong use of a built-in command of the `bash` dialect, with status 2: the
problem, if there is one, as other problems are reported, then the command's synopsis,
which names only the command. -/
def usageFail (sh : Session) (fds : List (Nat × Dest)) (line : Nat) (name problem usage : String) : Step :=
  let sh := if problem.isEmpty then sh else sh.complain fds line (name ++ ": " ++ problem)
  (sh.say fds 2 (name ++ ": usage: " ++ usage ++ "\n"), 2, .normal)

/-- Reports a problem of a built-in command, with status 1. -/
def problem (sh : Session) (fds : List (Nat × Dest)) (line : Nat) (name msg : String) : Step :=
  (sh.complain fds line (name ++ ": " ++ msg), 1, .normal)

/-! ## Aliases -/

/-- The shell with an alias set: a new one after the others, a known one changed where
it stands. -/
def setAlias (sh : Session) (n v : String) : Session :=
  if sh.aliases.any (·.1 == n) then { sh with aliases := sh.aliases.map fun (m, w) => if m == n then (m, v) else (m, w) }
  else { sh with aliases := sh.aliases ++ [(n, v)] }

/-- How an alias is listed: its name, `=`, and its text quoted. -/
def aliasLine (n v : String) : String := n ++ "=" ++ singleQuote v ++ "\n"

/-- Runs `alias`: lists all aliases, or sets each `name=text` and lists each name given
alone; a name that is not an alias is reported, with status 1. -/
def aliasCommand (sh : Session) (fds : List (Nat × Dest)) (args : List String) : Step :=
  if args.isEmpty then
    (sh.say fds 1 (String.join ((inBuckets 39 sh.aliases).map fun (n, v) => aliasLine n v)), 0, .normal)
  else
    args.foldl (fun (sh, st, fl) a =>
      match a.toList with
      | c :: cs =>
        let name := cs.takeWhile (· != '=')
        if name.length < cs.length then
          (sh.setAlias (String.ofList (c :: name)) (String.ofList (cs.drop (name.length + 1))), st, fl)
        else
          match sh.aliases.lookup a with
          | some v => (sh.say fds 1 (aliasLine a v), st, fl)
          | none => (sh.say fds 2 ("alias: " ++ a ++ " not found\n"), 1, fl)
      | [] => (sh.say fds 2 "alias:  not found\n", 1, fl)) (sh, 0, .normal)

/-- Runs `unalias`: removes the aliases named, or all with `-a`; a name that is not an
alias is reported, with status 1. -/
def unaliasCommand (sh : Session) (fds : List (Nat × Dest)) (line : Nat) (args : List String) : Step :=
  match readOptions "a" args with
  | .error m => sh.fail fds line false "unalias" m
  | .ok (opts, names) =>
    if !opts.isEmpty then ({ sh with aliases := [] }, 0, .normal)
    else
      names.foldl (fun (sh, st, fl) n =>
        if sh.aliases.any (·.1 == n) then ({ sh with aliases := sh.aliases.filter (·.1 != n) }, st, fl)
        else (sh.say fds 2 ("unalias: " ++ n ++ " not found\n"), 1, fl)) (sh, 0, .normal)

/-! ## Options of the shell -/

/-- The shell with the option of a letter on or off; `V` and `E` turn each other off. -/
def setLetter (sh : Session) (c : Char) (on : Bool) : Except String Session :=
  match optionTable.find? (·.2 == some c) with
  | some (n, _) =>
    let sh := sh.setOption n on
    if on && c == 'V' then .ok (sh.setOption "emacs" false)
    else if on && c == 'E' then .ok (sh.setOption "vi" false)
    else .ok sh
  | none => .error ("Illegal option -" ++ c.toString)

/-- The listing of `set -o` (when `on`) or `set +o`. -/
def optionListing (sh : Session) (on : Bool) : String :=
  if on then
    "Current option settings\n" ++ String.join (optionTable.map fun (n, _) =>
      n ++ String.ofList (List.replicate (16 - n.length) ' ') ++ (if sh.isOn n then "on" else "off") ++ "\n")
  else String.join (optionTable.map fun (n, _) => "set " ++ (if sh.isOn n then "-o " else "+o ") ++ n ++ "\n")

/-- Reads the letters of one word of options of `set`: `o` takes the next word as the
name of an option, or lists the options when there is none. -/
def setLetters (fds : List (Nat × Dest)) (on : Bool) : List Char → Session → List String →
    Except String (Session × List String)
  | [], sh, rest => .ok (sh, rest)
  | 'o' :: cs, sh, rest =>
    match rest with
    | n :: more =>
      if optionTable.any (·.1 == n) then setLetters fds on cs (sh.setOption n on) more
      else .error ("Illegal option -o " ++ n)
    | [] => setLetters fds on cs (sh.say fds 1 (sh.optionListing on)) []
  | c :: cs, sh, rest => do
    let sh ← sh.setLetter c on
    setLetters fds on cs sh rest

/-- Reads the words of `set`: options, then the new positional parameters if any are
left. `-` turns off `-x` and `-v` and ends the options; `--` ends them and sets the
parameters even when none follow. -/
def setWords (fds : List (Nat × Dest)) : Nat → Session → List String → Except String (Session × Option (List String))
  | 0, sh, _ => .ok (sh, none)
  | _ + 1, sh, [] => .ok (sh, none)
  | fuel + 1, sh, a :: rest =>
    match a.toList with
    | ['-'] =>
      let sh := (sh.setOption "xtrace" false).setOption "verbose" false
      .ok (sh, if rest.isEmpty then none else some rest)
    | ['-', '-'] => .ok (sh, some rest)
    | '-' :: cs => do
      let (sh, rest) ← setLetters fds true cs sh rest
      setWords fds fuel sh rest
    | '+' :: cs => do
      let (sh, rest) ← setLetters fds false cs sh rest
      setWords fds fuel sh rest
    | _ => .ok (sh, some (a :: rest))

/-- The variables as `set` lists them: by name, each with its value quoted. -/
def variableListing (vars : List (String × String)) (lead : String) : String :=
  String.join ((vars.mergeSort fun a b => !(b.1 < a.1)).map fun (n, v) => lead ++ n ++ "=" ++ singleQuote v ++ "\n")

/-- Runs `set`: without arguments it lists the variables; otherwise it sets options and
then, if any are given, the positional parameters. -/
def setCommand (sh : Session) (fds : List (Nat × Dest)) (line : Nat) (special : Bool) (args : List String) : Step :=
  if args.isEmpty then (sh.say fds 1 (variableListing sh.vars ""), 0, .normal)
  else
    match setWords fds (args.length + 1) sh args with
    | .error m => sh.fail fds line special "set" m
    -- new positional parameters start `getopts` over
    | .ok (sh, params) =>
      ((params.map fun ps => { sh with args := ps, optionIndex := 1, optionOffset := none }).getD sh, 0, .normal)

/-! ## Variables -/

/-- Splits `name=value`; `none` without `=`. -/
def splitAssignment (a : String) : Option (String × String) :=
  let cs := a.toList
  let n := cs.takeWhile (· != '=')
  if n.length < cs.length then some (String.ofList n, String.ofList (cs.drop (n.length + 1))) else none

/-- The listing of `export -p` or `readonly -p`: the marked variables by name, with their
values quoted when they are set. -/
def markedListing (sh : Session) (command : String) (marked : List String) : String :=
  let names := marked.eraseDups.mergeSort fun a b => !(b < a)
  String.join (names.map fun n =>
    command ++ " " ++ n ++ ((sh.lookupVar n).map fun v => "=" ++ singleQuote v).getD "" ++ "\n")

/-- Runs `export` or `readonly`: marks each name, setting it first when a value is given;
without names, or with `-p`, lists the marked variables. -/
def markCommand (sh : Session) (fds : List (Nat × Dest)) (line : Nat) (special : Bool) (name : String)
    (args : List String) : Step :=
  match readOptions "p" args with
  | .error m => sh.fail fds line special name m
  | .ok (opts, words) =>
    let readonly := name == "readonly"
    let marked := if readonly then sh.readonly else sh.exported
    if !opts.isEmpty || words.isEmpty then (sh.say fds 1 (sh.markedListing name marked), 0, .normal)
    else
      let markOne (sh : Session) (n : String) : Session :=
        if readonly then { sh with readonly := if sh.readonly.contains n then sh.readonly else sh.readonly ++ [n] }
        else sh.markExported n
      let rec go : List String → Session → Step
        | [], sh => (sh, 0, .normal)
        | w :: more, sh =>
          let (n, v?) := match splitAssignment w with
            | some (n, v) => (n, some v)
            | none => (w, none)
          if !isName n then sh.fail fds line special name (n ++ ": bad variable name")
          else
            match v? with
            | some v =>
              match sh.assign n v with
              | .ok sh => go more (markOne sh n)
              | .error m => sh.fail fds line special name m
            | none => go more (markOne sh n)
      go words sh

/-- The shell without a variable, or the message when it may not be removed. -/
def unsetVar (sh : Session) (n : String) : Except String Session :=
  if sh.readonly.contains n then .error (n ++ ": is read only")
  -- `OPTIND` without a value is no number
  else if n == "OPTIND" then .error "Illegal number: "
  else .ok { sh with vars := sh.vars.filter (·.1 != n), exported := sh.exported.filter (· != n) }

/-- Runs `unset`: removes the variables named, or with `-f` the functions; without an
option a name that no variable has names a function. -/
def unsetCommand (sh : Session) (fds : List (Nat × Dest)) (line : Nat) (special : Bool) (args : List String) : Step :=
  match readOptions "vf" args with
  | .error m => sh.fail fds line special "unset" m
  | .ok (opts, names) =>
    let flag := opts.getLast?.map (·.1)
    if flag == some 'f' then
      ({ sh with functions := sh.functions.filter fun (n, _) => !names.contains n }, 0, .normal)
    else
      let rec go : List String → Session → Step
        | [], sh => (sh, 0, .normal)
        | n :: more, sh =>
          let sh := if flag.isNone && (List.lookup n sh.vars).isNone then
              { sh with functions := sh.functions.filter (·.1 != n) }
            else sh
          match sh.unsetVar n with
          | .ok sh => go more sh
          | .error m => sh.fail fds line special "unset" m
      go names sh

/-- Runs `local`: each name becomes local to the running function, set when a value is
given and keeping its value otherwise. -/
def localCommand (sh : Session) (fds : List (Nat × Dest)) (line : Nat) (special : Bool) (args : List String) : Step :=
  if sh.functionLine = 0 then sh.fail fds line special "local" "not in a function"
  else
    let rec go : List String → Session → Step
      | [], sh => (sh, 0, .normal)
      | w :: more, sh =>
        match splitAssignment w with
        | some (n, v) =>
          if !isName n then sh.fail fds line special "local" (n ++ ": bad variable name")
          else
            match (sh.makeLocal n).assign n v with
            | .ok sh => go more sh
            | .error m => sh.fail fds line special "local" m
        | none =>
          if w == "-" then go more sh.makeOptionsLocal
          else if !isName w then sh.fail fds line special "local" (w ++ ": bad variable name")
          else go more (sh.makeLocal w)
    go args sh

/-! ## Reading lines -/

/-- Reads one line for `read`: its characters, each with whether a backslash kept it
from splitting, whether a line end ended it, and the bytes after it. Null bytes are
passed over; unless `raw`, a backslash keeps the next byte and a backslash before a line
end joins the lines. -/
def readLine (raw : Bool) : Nat → List UInt8 → List (Char × Bool) × Bool × List UInt8
  | 0, bs => ([], false, bs)
  | _ + 1, [] => ([], false, [])
  | fuel + 1, b :: rest =>
    if b == 10 then ([], true, rest)
    else if b == 0 then readLine raw fuel rest
    else if b == 92 && !raw then
      match rest.dropWhile (· == 0) with
      | 10 :: more => readLine raw fuel more
      | c :: more =>
        let (l, e, r) := readLine raw fuel more
        ((Char.ofNat c.toNat, true) :: l, e, r)
      | [] => ([], false, [])
    else
      let (l, e, r) := readLine raw fuel rest
      ((Char.ofNat b.toNat, false) :: l, e, r)

/-- Whether a character of a line separates fields: it is in `IFS` and no backslash
kept it. -/
def separates (ifs : List Char) (c : Char × Bool) : Bool := !c.2 && ifs.contains c.1

/-- Whether a character of a line is white space that separates fields. -/
def separatesWhite (ifs : List Char) (c : Char × Bool) : Bool := separates ifs c && isIfsWhite c.1

/-- The characters after the separator at the front: white space, at most one other
separator, and white space. -/
def afterSeparator (ifs : List Char) (cs : List (Char × Bool)) : List (Char × Bool) :=
  let cs := cs.dropWhile (separatesWhite ifs)
  match cs with
  | c :: rest => if separates ifs c then rest.dropWhile (separatesWhite ifs) else cs
  | [] => []

/-- The values that `read` gives its variables from a line: a field each, and to the
last the rest of the line. The rest is its one field when exactly one is left, and
otherwise the rest without the white space of `IFS` at its end. -/
def readFields (ifs : List Char) : List String → List (Char × Bool) → List (String × String)
  | [], _ => []
  | [v], cs =>
    let cs := cs.dropWhile (separatesWhite ifs)
    let field := cs.takeWhile (!separates ifs ·)
    let rest := afterSeparator ifs (cs.drop field.length)
    let value := if rest.isEmpty then field else (cs.reverse.dropWhile (separatesWhite ifs)).reverse
    [(v, String.ofList (value.map Prod.fst))]
  | v :: vs, cs =>
    let cs := cs.dropWhile (separatesWhite ifs)
    let field := cs.takeWhile (!separates ifs ·)
    (v, String.ofList (field.map Prod.fst)) :: readFields ifs vs (afterSeparator ifs (cs.drop field.length))

example : readFields [':'] ["a", "b"] ("x:y:".toList.map (·, false)) = [("a", "x"), ("b", "y")] ∧
    readFields [':'] ["a", "b"] ("x:y:z:".toList.map (·, false)) = [("a", "x"), ("b", "y:z:")] := by decide +kernel

/-- Runs `read`: a line from standard input into the variables, using it up; status 1
when the input ended before a line end. -/
def readCommand (sh : Session) (fds : List (Nat × Dest)) (line : Nat) (args : List String) : Step :=
  match readOptions "p:r" args with
  | .error m => sh.fail fds line false "read" m
  | .ok (opts, names) =>
    if names.isEmpty then sh.fail fds line false "read" "arg count"
    else
      let raw := opts.any (·.1 == 'r')
      let input := inputOf fds
      let (chars, ended, rest) := readLine raw (input.length + 1) input
      -- the descriptors of the shell that share the input read from go on after the line
      let sh := { sh with fds := afterInput sh.fds fds rest }
      let rec assignAll : List (String × String) → Session → Step
        | [], sh => (sh, if ended then 0 else 1, .normal)
        | (n, v) :: more, sh =>
          if !isName n then sh.fail fds line false "read" (n ++ ": bad variable name")
          else
            match sh.assign n v with
            | .ok sh => assignAll more sh
            | .error m => sh.fail fds line false "read" m
      assignAll (readFields sh.ifs names chars) sh

/-! ## Options of scripts -/

/-- The argument of `getopts` at a place counted from one. -/
def argumentAt (base : List String) (k : Nat) : Option String := if k = 0 then none else base[k - 1]?

/-- Where `getopts` goes on: the characters left of the argument it stands in, or those
of the next argument when that one is used up, with the place of the argument they are
taken from, and the place of the argument after the one read. `none` when the options
are at their end. -/
def getoptsNext (base : List String) (index : Nat) (offset : Option Nat) : Option (List Char × Nat) × Nat :=
  let current : Option (List Char) := match offset, argumentAt base (index - 1) with
    | some o, some a => if index ≤ 1 || a.length < o then none else some (a.toList.drop o)
    | _, _ => none
  match current with
  | some (c :: cs) => (some (c :: cs, index - 1), index)
  | _ =>
    match argumentAt base index with
    | some a =>
      match a.toList with
      | '-' :: '-' :: [] => (none, index + 1)
      | '-' :: c :: cs => (some (c :: cs, index), index + 1)
      | _ => (none, index)
    | none => (none, index)

/-- Whether an option letter is in the option string of `getopts`, and if so whether it
takes an argument. -/
def optionIn (c : Char) : List Char → Option Bool
  | [] => none
  | q :: ':' :: rest => if q == c then some true else optionIn c rest
  | q :: rest => if q == c then some false else optionIn c rest

/-- Runs `getopts`: reads the next option letter of the positional parameters (or of
the arguments given after the variable) into the variable, its argument into `OPTARG`,
and the place of the next argument into `OPTIND`; status 1 at the end of the options.
A letter that is not in the option string, or that misses its argument, is reported on
standard error, unless the option string starts with `:`, which makes `OPTARG` the
letter instead. -/
def getoptsCommand (sh : Session) (fds : List (Nat × Dest)) (line : Nat) (args : List String) : Step :=
  match args with
  | optstr :: var :: rest =>
    let base := if rest.isEmpty then sh.args else rest
    let (index, offset) := if sh.optionIndex > base.length + 1 then (1, none) else (sh.optionIndex, sh.optionOffset)
    let silent := optstr.startsWith ":"
    -- a name that may not be set is reported after `OPTIND` is set, and the next call starts afresh
    let finish (sh : Session) (letter : Char) (next : Nat) (left : Option Nat) (status : Nat) : Step :=
      let sh := sh.setVar "OPTIND" (toString next)
      let refused (sh : Session) (m : String) : Step :=
        ({ sh with optionIndex := 1, optionOffset := none } : Session).fail fds line false "getopts" m
      if !isName var then refused sh (var ++ ": bad variable name")
      else
        match sh.assign var letter.toString with
        | .error m => refused sh m
        | .ok sh => ({ sh with optionIndex := next, optionOffset := left }, status, .normal)
    let unsetArg (sh : Session) : Session := { sh with vars := sh.vars.filter (·.1 != "OPTARG") }
    match getoptsNext base index offset with
    | (none, next) => finish sh '?' next none 1
    | (some ([], _), next) => finish sh '?' next none 1
    | (some (c :: cs, argPlace), next) =>
      let argLength := ((argumentAt base argPlace).map String.length).getD 0
      match optionIn c optstr.toList with
      | none =>
        let sh := if silent then sh.setVar "OPTARG" c.toString
          else unsetArg (sh.say fds 2 ("Illegal option -" ++ c.toString ++ "\n"))
        finish sh '?' next (some (argLength - cs.length)) 0
      | some true =>
        if !cs.isEmpty then finish (sh.setVar "OPTARG" (String.ofList cs)) c next none 0
        else
          match argumentAt base next with
          | some a => finish (sh.setVar "OPTARG" a) c (next + 1) none 0
          | none =>
            if silent then finish (sh.setVar "OPTARG" c.toString) ':' next none 0
            else finish (unsetArg (sh.say fds 2 ("No arg for -" ++ c.toString ++ " option\n"))) '?' next none 0
      | some false => finish (sh.setVar "OPTARG" "") c next (some (argLength - cs.length)) 0
  | _ => sh.fail fds line false "getopts" "Usage: getopts optstring var [arg...]"

/-! ## Directories -/

/-- The shell in a new current directory, with `OLDPWD` and `PWD` set and exported. -/
def moveTo (sh : Session) (loc : Location) : Session :=
  let old := sh.cwdText
  let sh := ({ sh with cwd := loc } : Session)
  let sh := (sh.setVar "OLDPWD" old).markExported "OLDPWD"
  (sh.setVar "PWD" sh.cwdText).markExported "PWD"

/-- Changes to a directory named by a path: by the names as written (`..` going up from
the name before it), or as the file system follows them with `physical`. -/
def changeTo (sh : Session) (path : String) (physical : Bool) : Option Session :=
  if physical then
    match sh.find path with
    | .present loc .dir => some (sh.moveTo loc)
    | _ => none
  else
    let loc := logicalPath sh.cwd (pathText path)
    if sh.workspace.kindAt loc == some .dir then some (sh.moveTo loc) else none

/-- Whether `cd` takes a path as it is, without looking in `CDPATH`: it starts with `/`,
or is `.` or `..` or starts with `./` or `../`. -/
def isDirectPath (p : String) : Bool :=
  p.startsWith "/" || p == "." || p == ".." || p.startsWith "./" || p.startsWith "../"

/-- Runs `cd`: to the directory given, `HOME` without one, or `OLDPWD` for `-` (then
written out). A relative path is looked for in the directories of `CDPATH` first; one
found through a directory that is not empty is written out. -/
def cdCommand (sh : Session) (fds : List (Nat × Dest)) (line : Nat) (args : List String) : Step :=
  match readOptions "LP" args with
  | .error m => sh.fail fds line false "cd" m
  | .ok (opts, rest) =>
    let physical := (opts.getLast?.map (·.1)) == some 'P'
    let (dest, dash) := match rest with
      | [] => ((sh.lookupVar "HOME").getD "", false)
      | "-" :: _ => ((sh.lookupVar "OLDPWD").getD "", true)
      | d :: _ => (d, false)
    let target := if dest.isEmpty then "." else dest
    let viaPath : Option (String × Bool) := match sh.lookupVar "CDPATH" with
      | some cdpath =>
        if isDirectPath dest then none
        else
          ((cdpath.splitOn ":").map fun d => if d.isEmpty then (target, false) else (d ++ "/" ++ target, true)).find?
            fun (p, _) => sh.kindOf? p == some .dir
      | none => none
    let (path, shown) := viaPath.getD (target, false)
    match sh.changeTo path physical with
    | some sh => (if shown || dash then sh.say fds 1 (sh.cwdText ++ "\n") else sh, 0, .normal)
    | none => sh.fail fds line false "cd" ("can't cd to " ++ dest)

/-- Runs `pwd`: writes the current directory. -/
def pwdCommand (sh : Session) (fds : List (Nat × Dest)) (line : Nat) (args : List String) : Step :=
  match readOptions "LP" args with
  | .error m => sh.fail fds line false "pwd" m
  | .ok _ => (sh.say fds 1 (sh.cwdText ++ "\n"), 0, .normal)

/-- Runs `umask`: writes the mask in octal (or with `-S` as the permissions it leaves),
or sets it from an octal number or from permissions such as `u=rwx,g+w`. -/
def umaskCommand (sh : Session) (fds : List (Nat × Dest)) (line : Nat) (args : List String) : Step :=
  match readOptions "S" args with
  | .error m => sh.fail fds line false "umask" m
  | .ok (opts, rest) =>
    match rest with
    | [] =>
      if opts.isEmpty then
        let ds := (digitsIn 8 sh.umask).map fun d => Char.ofNat (48 + d)
        (sh.say fds 1 (String.ofList (List.replicate (4 - ds.length) '0' ++ ds) ++ "\n"), 0, .normal)
      else
        let allowed := 511 - sh.umask
        let part (who : String) (shift : Nat) : String :=
          who ++ "=" ++ String.ofList ([('r', 4), ('w', 2), ('x', 1)].filterMap fun (c, bit) =>
            if (allowed / Nat.pow 2 shift) % 8 / bit % 2 == 1 then some c else none)
        (sh.say fds 1 (part "u" 6 ++ "," ++ part "g" 3 ++ "," ++ part "o" 0 ++ "\n"), 0, .normal)
    | m :: _ =>
      if m.toList.head?.any Char.isDigit then
        if m.all fun c => '0' ≤ c && c ≤ '7' then
          ({ sh with umask := (m.toList.foldl (fun v c => v * 8 + (c.toNat - 48)) 0) % 512 }, 0, .normal)
        else sh.fail fds line false "umask" ("Illegal number: " ++ m)
      else
        match symbolicMode (511 - sh.umask) (m.length + 1) (511 - sh.umask) 0 m.toList with
        | some allowed => ({ sh with umask := 511 - allowed % 512 }, 0, .normal)
        | none => sh.fail fds line false "umask" ("Illegal mode: " ++ m)
where
  /-- Applies clauses such as `u=rwx,g+w` to the allowed bits, starting from `allowed`:
  each names whom it is for (`ugoa`, all when none is named, and those of the clause before
  when it follows another action without a comma) and sets (`=`), adds (`+`) or removes
  (`-`) permissions; `u`, `g` and `o` among them stand for the permissions that the mask
  allowed to start with, and `X` for execution when it allowed any. -/
  symbolicMode (original : Nat) : Nat → Nat → Nat → List Char → Option Nat
    | 0, allowed, _, _ => some allowed
    | _ + 1, allowed, _, [] => some allowed
    | fuel + 1, allowed, positions, cs =>
      let who := cs.takeWhile fun c => "augo".toList.contains c
      let positions := who.foldl (fun p c =>
        p ||| (match c with
          | 'u' => 64
          | 'g' => 8
          | 'o' => 1
          | _ => 73)) positions
      let positions := if positions == 0 then 73 else positions
      match cs.drop who.length with
      | op :: more =>
        if !"=+-".toList.contains op then none
        else
          let perms := more.takeWhile fun c => "rwxugoXs".toList.contains c
          let value := perms.foldl (fun v c =>
            v ||| (match c with
              | 'r' => 4
              | 'w' => 2
              | 'x' => 1
              | 'u' => original / 64
              | 'g' => original / 8
              | 'o' => original
              | 'X' => if original &&& 73 != 0 then 1 else 0
              | _ => 0)) 0
          let value := (value % 8) * positions
          let allowed := match op with
            | '-' => allowed &&& (511 - value)
            | '=' => value ||| (allowed &&& (511 - positions * 7))
            | _ => allowed ||| value
          match more.drop perms.length with
          | [] => some allowed
          | ',' :: after => symbolicMode original fuel allowed 0 after
          | c :: after =>
            if "=+-".toList.contains c then symbolicMode original fuel allowed positions (c :: after) else none
      | [] => none

/-! ## Describing commands -/

/-- How a name is run, as `type` and `command -v` find it. -/
inductive Resolution where
  | keyword
  | alias (text : String)
  | function
  | builtin (special : Bool)
  /-- A program by its path; `tracked` when the path was found before. -/
  | program (path : String) (tracked : Bool)
  | none

/-- Finds how a name is run: a reserved word, an alias, a program found before, a
function, a built-in command, or a regular file of the search path, which is noted as
found. A name with a `/` is a program when something is there. `fixedPath` looks on a
fixed search path, and notes nothing. -/
def lookupCommand (sh : Session) (name : String) (fixedPath : Option String) : Session × Resolution :=
  if reservedWords.contains name then (sh, .keyword)
  else
    match sh.aliases.lookup name with
    | some v => (sh, .alias v)
    | none =>
      if name.contains '/' then (sh, if (sh.kindOf? name).isSome then .program name false else .none)
      else
        match (if fixedPath.isSome then none else sh.tracked.lookup name) with
        | some p => (sh, .program p true)
        | none =>
          if sh.functions.any (·.1 == name) then (sh, .function)
          else if specialBuiltins.contains name then (sh, .builtin true)
          else if regularBuiltins.contains name then (sh, .builtin false)
          else
            match shellLookup sh.workspace sh.cwd (fixedPath.getD (sh.var "PATH")) name false with
            | some (_, p) =>
              if fixedPath.isSome then (sh, .program p false)
              else ({ sh with tracked := sh.tracked ++ [(name, p)] }, .program p false)
            | none => (sh, .none)

/-- The line that describes a name: the sentence of `type` when `verbose`, otherwise the
name, the path of a program, or the `alias` command that makes an alias; `none` when the
name names nothing. -/
def describeLine (name : String) (verbose : Bool) : Resolution → Option String
  | .keyword => some (if verbose then name ++ " is a shell keyword" else name)
  | .alias v => some (if verbose then name ++ " is an alias for " ++ v else "alias " ++ String.ofList (aliasLine name v).toList.dropLast)
  | .function => some (if verbose then name ++ " is a shell function" else name)
  | .builtin special =>
    some (if verbose then name ++ " is a " ++ (if special then "special " else "") ++ "shell builtin" else name)
  | .program p tracked =>
    some (if verbose then name ++ " is " ++ (if tracked then "a tracked alias for " else "") ++ p else p)
  | .none => none

/-- Describes one name for `type` and `command -v`: the shell, and the status. -/
def describe (sh : Session) (fds : List (Nat × Dest)) (name : String) (verbose : Bool)
    (fixedPath : Option String) : Session × Nat :=
  let (sh, found) := sh.lookupCommand name fixedPath
  match describeLine name verbose found with
  | some text => (sh.say fds 1 (text ++ "\n"), 0)
  | none => (if verbose then sh.say fds 1 (name ++ ": not found\n") else sh, 127)

/-- Runs `type`: a sentence for each name, and status 127 if one names nothing. -/
def typeCommand (sh : Session) (fds : List (Nat × Dest)) (names : List String) : Step :=
  names.foldl (fun (sh, st, fl) n =>
    let (sh, s) := sh.describe fds n true none
    (sh, if s != 0 then s else st, fl)) (sh, 0, .normal)

/-- Runs `hash`: lists the programs found so far, forgets them with `-r`, or looks each
name up, reporting one that is not found. -/
def hashCommand (sh : Session) (fds : List (Nat × Dest)) (line : Nat) (args : List String) : Step :=
  match readOptions "r" args with
  | .error m => sh.fail fds line false "hash" m
  | .ok (opts, names) =>
    if !opts.isEmpty then ({ sh with tracked := [] }, 0, .normal)
    else if names.isEmpty then
      (sh.say fds 1 (String.join ((inBuckets 31 sh.tracked).map fun (_, p) => p ++ "\n")), 0, .normal)
    else
      names.foldl (fun (sh, st, fl) n =>
        let sh := { sh with tracked := sh.tracked.filter (·.1 != n) }
        match sh.lookupCommand n none with
        | (sh, .none) =>
          let why := if shellBlocked sh.workspace sh.cwd (sh.var "PATH") n then "Permission denied" else "not found"
          (sh.complain fds line ("hash: " ++ n ++ ": " ++ why), 1, fl)
        | (sh, _) => (sh, st, fl)) (sh, 0, .normal)

/-! ## Signals -/

/-- How `kill` was asked: the signal if one was named, whether it lists signal names,
and the arguments left. -/
structure KillRequest where
  signal : Option Nat
  list : Bool
  rest : List String

/-- Reads the options of `kill` (`-l`, and `-s` with a signal, in clusters) up to the
first argument that is no option or after `--`. -/
def killOptions : Nat → KillRequest → List Char → Except String KillRequest
  | 0, r, _ => .ok r
  | fuel + 1, r, 'l' :: cs => killOptions fuel { r with list := true } cs
  | fuel + 1, r, 's' :: cs =>
    let (arg?, rest) := if cs.isEmpty then (r.rest.head?, r.rest.drop 1) else (some (String.ofList cs), r.rest)
    match arg? with
    | none => .error "No arg for -s option"
    | some a =>
      match signalOf? a with
      | none => .error ("invalid signal number or name: " ++ a)
      | some n => killOptions fuel { r with signal := some n, rest := rest } []
  | _ + 1, _, c :: _ => .error ("Illegal option -" ++ String.singleton c)
  | fuel + 1, r, [] =>
    match r.rest with
    | "--" :: more => .ok { r with rest := more }
    | a :: more =>
      match a.toList with
      | '-' :: c :: cs => killOptions fuel { r with rest := more } (c :: cs)
      | _ => .ok r
    | [] => .ok r

/-- How `kill` reads its arguments: a first argument `-signal` names the signal, and
otherwise the arguments start with options. -/
def KillRequest.read (args : List String) : Except String KillRequest :=
  match args with
  | a :: more =>
    match a.toList with
    | '-' :: cs =>
      match signalOf? (String.ofList cs) with
      | some n => .ok ⟨some n, false, more⟩
      | none => killOptions (args.foldl (fun n a => n + a.length + 1) 1) ⟨none, false, args⟩ []
    | _ => .ok ⟨none, false, args⟩
  | [] => .ok ⟨none, false, []⟩

/-- The usage message of `kill`. -/
def killUsage : String :=
  "Usage: kill [-s sigspec | -signum | -sigspec] [pid | job]... or\nkill -l [exitstatus]"

/-- Sends a signal to each process named, in order, with the status so far: the shell
itself is the only process there is, so another number is reported as not found, and a job
is never found. A signal that ends the shell ends the sending. -/
def signalEach (sh : Session) (fds : List (Nat × Dest)) (line : Nat) (signal : Nat) : List String → Nat → Step
  | [], status => (sh, status, .normal)
  | p :: rest, status =>
    if p.startsWith "%" then
      -- a job is signalled as a process group, and a shell without job control makes none
      match sh.findJob? p with
      | some _ => signalEach (sh.complain fds line "kill: No such process\n") fds line signal rest 1
      | none => sh.fail fds line false "kill" ("No such job: " ++ p)
    else
      match countOf? p with
      | none => sh.fail fds line false "kill" ("Illegal number: " ++ p)
      | some n =>
        if n = sh.pid then
          -- the null signal only checks the process; a copy of the shell sends the signal
          -- to the shell's own process, which gets it once the copy ends
          if signal = 0 then signalEach sh fds line signal rest status
          else if sh.copy then signalEach { sh with sentUp := sh.sentUp ++ [signal] } fds line signal rest status
          else
            match sh.deliver signal with
            | (sh, some n) => (sh, 128 + n, .signaled n)
            | (sh, none) => signalEach sh fds line signal rest status
        else if sh.jobs.any fun j => j.pid == n && j.present sh.workspace.clock then
          signalEach (sh.signalJob n signal) fds line signal rest status
        else signalEach (sh.complain fds line "kill: No such process\n") fds line signal rest 1

/-- Runs `kill`: signals the processes named, or with `-l` lists the signal names (or
names the signal of an exit status). -/
def killCommand (sh : Session) (fds : List (Nat × Dest)) (line : Nat) (args : List String) : Step :=
  if args.isEmpty then sh.fail fds line false "kill" killUsage
  else
  match KillRequest.read args with
  | .error msg => sh.fail fds line false "kill" msg
  | .ok r =>
    let signal? := if !r.list && r.signal.isNone then some 15 else r.signal
    if (signal?.isNone || r.rest.isEmpty) != r.list then sh.fail fds line false "kill" killUsage
    else if r.list then
      match r.rest with
      | [] =>
        let names := (List.range' 1 (signalCount - 1)).map fun n => signalName n ++ "\n"
        (sh.say fds 1 (String.join ("0\n" :: names)), 0, .normal)
      | a :: _ =>
        match countOf? a with
        | none => sh.fail fds line false "kill" ("Illegal number: " ++ a)
        | some n =>
          let n := if n > 128 then n - 128 else n
          if 0 < n && n < signalCount then (sh.say fds 1 (signalName n ++ "\n"), 0, .normal)
          else sh.fail fds line false "kill" ("invalid signal number or exit status: " ++ a)
    else sh.signalEach fds line (signal?.getD 15) r.rest 0

/-- Sets the command of `trap` for each operand (removes it for `none` or `-`); an operand
that names no signal is reported and ends the setting with status 1. -/
def setTraps (sh : Session) (fds : List (Nat × Dest)) (action : Option String) : List String → Step
  | [] => (sh, 0, .normal)
  | s :: rest =>
    match trapSignalOf? s with
    | none => (sh.say fds 2 ("trap: " ++ s ++ ": bad trap\n"), 1, .normal)
    | some n =>
      let traps := sh.traps.filter (·.1 != n)
      let traps := match action with
        | some a => if a = "-" then traps else traps ++ [(n, a)]
        | none => traps
      setTraps { sh with traps := traps } fds action rest

/-- Runs `trap`: without operands it lists the commands set, by signal number; with one
operand, or a first operand that is a number, the operands' commands are removed;
otherwise the first operand is the command for the signals after it. -/
def trapOperands (sh : Session) (fds : List (Nat × Dest)) (args : List String) : Step :=
  match args with
  | [] =>
    let listed := (sh.traps.mergeSort fun a b => a.1 ≤ b.1).map fun (n, a) =>
      "trap -- " ++ singleQuote a ++ " " ++ signalName n ++ "\n"
    (sh.say fds 1 (String.join listed), 0, .normal)
  | a :: rest =>
    if rest.isEmpty || (countOf? a).isSome then sh.setTraps fds none args
    else sh.setTraps fds (some a) rest

/-- Runs `trap`, which takes no options: an operand that starts with `-` and is not `-`
is refused. -/
def trapCommand (sh : Session) (fds : List (Nat × Dest)) (line : Nat) (special : Bool) (args : List String) :
    Step :=
  match args with
  | "--" :: rest => sh.trapOperands fds rest
  | o :: _ =>
    match o.toList with
    | '-' :: c :: _ => sh.fail fds line special "trap" ("Illegal option -" ++ c.toString)
    | _ => sh.trapOperands fds args
  | [] => sh.trapOperands fds args

/-! ## Control -/

/-- Runs `break` or `continue`: out of, or on with, a loop this many levels out, or
nothing outside loops. -/
def loopControl (sh : Session) (fds : List (Nat × Dest)) (line : Nat) (special : Bool) (name : String)
    (args : List String) : Step :=
  let n? := match args with
    | a :: _ => (countOf? a).filter (· > 0)
    | [] => some 1
  match n? with
  | none => sh.fail fds line special name ("Illegal number: " ++ args.headD "")
  | some n =>
    let n := min n sh.loops
    if n = 0 then (sh, 0, .normal)
    else (sh, 0, if name = "break" then .breakLoop n else .continueLoop n)

/-- Runs `wait`: gives the status of the last job named that is found among the shell's own,
127 when none is, and 0 when none is named; the jobs it names, or all of them, are then
waited for. A job named that a signal ended, and whose end the shell has not yet taken in
while waiting for something else, is reported with the description of the signal. -/
def waitCommand (sh : Session) (fds : List (Nat × Dest)) (line : Nat) (args : List String) : Step :=
  match readOptions "" args with
  | .error m => sh.fail fds line false "wait" m
  | .ok (_, []) => (sh.waitFor fun _ => true, 0, .normal)
  | .ok (_, pids) =>
    -- a job that a signal ended while the shell waits for it is reported with the signal
    let waited (sh : Session) (j : Job) : Session :=
      let sh := if j.waited || j.reaped then sh
        else match j.signal with
          | some n => sh.say fds 2 (deathNotice n)
          | none => sh
      sh.waitFor (· == j)
    let rec go : Session → List String → Nat → Step
      | sh, [], status => (sh, status, .normal)
      | sh, p :: rest, status =>
        if p.startsWith "%" then
          match sh.findJob? p with
          | some j => go (waited sh j) rest j.status
          | none => sh.fail fds line false "wait" ("No such job: " ++ p)
        else
          match countOf? p with
          | none => sh.fail fds line false "wait" ("Illegal number: " ++ p)
          | some n =>
            match sh.ownJobs.find? (·.pid == n) with
            | some j => go (waited sh j) rest j.status
            | none => go sh rest status
    go sh pids 127

/-- Runs `jobs`: each job, the last started first, with its number, `+` for the last and
`-` for the one before it, its process number with `-l`, and its state, padded to 33
columns; the jobs reported done leave the table. With `-p` only the process numbers are
written, and no job leaves. -/
def jobsCommand (sh : Session) (fds : List (Nat × Dest)) (line : Nat) (args : List String) : Step :=
  match readOptions "lp" args with
  | .error m => sh.fail fds line false "jobs" m
  | .ok (opts, _) =>
    let recent := sh.ownJobs.reverse
    if opts.any (·.1 == 'p') then (sh.say fds 1 (String.join (recent.map fun j => toString j.pid ++ "\n")), 0, .normal)
    else
      let showPid := opts.any (·.1 == 'l')
      let lines := recent.zipIdx.map fun (j, i) =>
        let mark := if i == 0 then "+" else if i == 1 then "-" else " "
        let head := "[" ++ toString j.number ++ "] " ++ mark ++ " " ++ (if showPid then toString j.pid ++ " " else "") ++
          j.stateText sh.workspace.clock
        head ++ String.ofList (List.replicate (max (33 - head.length) 1) ' ') ++ "\n"
      ({ sh.say fds 1 (String.join lines) with jobs := sh.jobs.filter fun j => j.foreign || !j.over sh.workspace.clock },
        0, .normal)

/-- Runs `fg` or `bg`: there is no job to continue. -/
def resume (sh : Session) (fds : List (Nat × Dest)) (line : Nat) (name : String) (args : List String) : Step :=
  match readOptions "" args with
  | .error m => sh.fail fds line false name m
  | .ok (_, []) => sh.fail fds line false name "No current job"
  | .ok (_, j :: _) => sh.fail fds line false name ("No such job: " ++ j)

/-- How a limit of `ulimit` reads: its number, or `unlimited`. -/
def limitText : Option Nat → String
  | some n => toString n
  | none => "unlimited"

/-- Whether a soft limit stays within a hard one, as the system requires. -/
def limitWithin : Option Nat → Option Nat → Bool
  | some s, some h => s ≤ h
  | none, some _ => false
  | _, none => true

/-- What the `bash` dialect calls the resource of a letter of `ulimit` in its messages. -/
def resourceName (c : Char) : String :=
  match c with
  | 't' => "cpu time" | 'd' => "data seg size" | 's' => "stack size" | 'c' => "core file size"
  | 'm' => "max memory size" | 'l' => "max locked memory" | 'p' => "pipe size" | 'n' => "open files"
  | 'v' => "virtual memory" | 'w' => "file locks" | 'r' => "real-time priority" | _ => "file size"

/-- Runs `ulimit`: writes the limit of a resource (the size of files when no letter names
one), sets it with an operand (a number or `unlimited`), or lists all with `-a`. `-H` and
`-S` choose the hard or the soft limit; a limit set without them is both, and one written
without them is the soft one. A limit no one set is unlimited, and a soft limit above the
hard one is refused, as is a hard limit raised. -/
def ulimitCommand (sh : Session) (fds : List (Nat × Dest)) (line : Nat) (args : List String) : Step :=
  let limits : List (Char × String) :=
    [('t', "time(seconds)"), ('f', "file(blocks)"), ('d', "data(kbytes)"), ('s', "stack(kbytes)"),
     ('c', "coredump(blocks)"), ('m', "memory(kbytes)"), ('l', "locked memory(kbytes)"), ('p', "process"),
     ('n', "nofiles"), ('v', "vmemory(kbytes)"), ('w', "locks"), ('r', "rtprio")]
  let problem (msg : String) : Step :=
    if (sh.dialect == .bash) then (sh.complain fds line ("ulimit: " ++ msg), 1, .normal) else sh.fail fds line false "ulimit" msg
  match readOptions "HSatfdscmlpnvwr" args with
  | .error m => sh.fail fds line false "ulimit" m
  | .ok (opts, rest) =>
    let letters := opts.map (·.1)
    -- the last of `-H` and `-S` counts, and the `bash` dialect takes both together
    let how := letters.filter fun c => c == 'H' || c == 'S'
    let (soft, hard) := if how.isEmpty then (true, true)
      else if (sh.dialect == .bash) then (how.contains 'S', how.contains 'H')
      else (how.getLast? == some 'S', how.getLast? == some 'H')
    let what := ((letters.filter fun c => !"HSa".toList.contains c).getLast?).getD 'f'
    let (cur, max) := (sh.limits.lookup what).getD (none, none)
    let shown (c : Char) : String :=
      let (s, h) := (sh.limits.lookup c).getD (none, none)
      limitText (if soft then s else h)
    let all := letters.contains 'a'
    match rest with
    | [] =>
      if all then
        (sh.say fds 1 (String.join (limits.map fun (c, n) =>
          n ++ String.ofList (List.replicate (20 - n.length) ' ') ++ " " ++ shown c ++ "\n")), 0, .normal)
      else (sh.say fds 1 (shown what ++ "\n"), 0, .normal)
    | v :: more =>
      if (all || !more.isEmpty) && !(sh.dialect == .bash) then problem "too many arguments"
      else
        let value : Option (Option Nat) :=
          if v == "unlimited" then some none
          else if v.all Char.isDigit && (!v.isEmpty || !(sh.dialect == .bash)) then some (some v.toNat!)
          else none
        match value with
        | none => problem (if (sh.dialect == .bash) then v ++ ": invalid number" else "bad number")
        | some n =>
          let (old, cur) := (max, if soft then n else cur)
          let max := if hard then n else max
          -- a soft limit above the hard one is wrong, and only a privileged process raises a hard one
          let why := if !limitWithin cur max then some "Invalid argument"
            else if !limitWithin max old then some "Operation not permitted" else none
          match why with
          | some why =>
            problem (if (sh.dialect == .bash) then resourceName what ++ ": cannot modify limit: " ++ why
              else "error setting limit (" ++ why ++ ")")
          | none => ({ sh with limits := (what, cur, max) :: sh.limits.filter (·.1 != what) }, 0, .normal)

/-! ## Running built-in commands -/

/-- Runs `test` or `[`, with `[` needing its `]` last. -/
def testCommand (sh : Session) (fds : List (Nat × Dest)) (line : Nat) (name : String) (args : List String) : Step :=
  let files : Test.Files := Test.Files.ofWorkspace sh.workspace sh.cwd (sh.dialect == .bash)
  let args? := if name = "[" then (if args.getLast? == some "]" then some args.dropLast else none) else some args
  match args? with
  | none => sh.fail fds line false name "missing ]"
  | some targs =>
    match Test.status files targs with
    | .ok st => (sh, st, .normal)
    | .error m => sh.fail fds line false name m

/-- Runs a built-in command that does not run other commands, by name; `none` for other
names. `special` when a problem ends the shell. -/
def builtin (sh : Session) (fds : List (Nat × Dest)) (line : Nat) (special : Bool) (name : String)
    (args : List String) : Option Step :=
  match name with
  | ":" | "true" => some (sh, 0, .normal)
  | "false" => some (sh, 1, .normal)
  | "jobs" => some (sh.jobsCommand fds line args)
  | "times" => some (sh.say fds 1 "0m0.000000s 0m0.000000s\n0m0.000000s 0m0.000000s\n", 0, .normal)
  | "echo" => some (sh.write fds 1 (echo args), 0, .normal)
  | "printf" =>
    match readOptions "" args with
    | .error m => some (sh.fail fds line false "printf" m)
    | .ok (_, []) => some (sh.fail fds line false "printf" "usage: printf format [arg ...]")
    | .ok (_, format :: rest) =>
      let r := printf format rest
      let sh := sh.write fds 1 r.out
      let shown := if r.failed then r.problems.dropLast else r.problems
      let sh := shown.foldl (fun sh p => sh.complain fds line ("printf: " ++ p)) sh
      if r.failed then some (sh.fail fds line false "printf" (r.problems.getLastD ""))
      else some (sh, if r.problems.isEmpty then 0 else 1, .normal)
  | "test" | "[" => some (sh.testCommand fds line name args)
  | "alias" => some (sh.aliasCommand fds args)
  | "unalias" => some (sh.unaliasCommand fds line args)
  | "set" => some (sh.setCommand fds line special args)
  | "export" | "readonly" => some (sh.markCommand fds line special name args)
  | "unset" => some (sh.unsetCommand fds line special args)
  | "local" => some (sh.localCommand fds line special args)
  | "read" => some (sh.readCommand fds line args)
  | "getopts" => some (sh.getoptsCommand fds line args)
  | "cd" | "chdir" => some (sh.cdCommand fds line args)
  | "pwd" => some (sh.pwdCommand fds line args)
  | "umask" => some (sh.umaskCommand fds line args)
  | "type" => some (sh.typeCommand fds args)
  | "hash" => some (sh.hashCommand fds line args)
  | "kill" => some (sh.killCommand fds line args)
  | "trap" => some (sh.trapCommand fds line special args)
  | "wait" => some (sh.waitCommand fds line args)
  | "fg" | "bg" => some (sh.resume fds line name args)
  | "ulimit" => some (sh.ulimitCommand fds line args)
  | "break" | "continue" => some (sh.loopControl fds line special name args)
  | "shift" =>
    let n? := match args with
      | a :: _ => countOf? a
      | [] => some 1
    match n? with
    | none => some (sh.fail fds line special "shift" ("Illegal number: " ++ args.headD ""))
    | some n =>
      if n > sh.args.length then some (sh.fail fds line special "shift" "can't shift that many")
      else some ({ sh with args := sh.args.drop n, optionIndex := 1, optionOffset := none }, 0, .normal)
  | "return" =>
    match args with
    | a :: _ =>
      match countOf? a with
      | some n => some (sh, n, .returned)
      | none => some (sh.fail fds line special "return" ("Illegal number: " ++ a))
    | [] => some (sh, sh.status, .returned)
  | "exit" =>
    match args with
    | a :: _ =>
      match countOf? a with
      | some n => some (sh, n, .exit n)
      | none => some (sh.fail fds line special "exit" ("Illegal number: " ++ a))
    | [] => some (sh, sh.status, .exit sh.status)
  | _ => none

/-- Runs a built-in command, holding what it writes to standard output until it ends, and
reports a write to standard output that failed: status 1 and the message
`name: I/O error`. The command names itself in its messages. -/
def runBuiltin (sh : Session) (fds : List (Nat × Dest)) (line : Nat) (special : Bool) (name : String)
    (args : List String) : Option Step :=
  match ({ sh with writeFailed := false, held := some [], context := none } : Session).builtin fds line special name args with
  | some (after, status, flow) =>
    let after := ({ after with held := none, context := sh.context } : Session).write fds 1 (after.held.getD [])
    if after.writeFailed then
      some (({ after with writeFailed := false } : Session).complain fds line (name ++ ": " ++ name ++ ": I/O error"), 1, flow)
    else some (after, status, flow)
  | none => none

end Session

end HelpMan.Shell
