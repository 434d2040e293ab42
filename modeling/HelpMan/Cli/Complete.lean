import HelpMan.Cli.Command

/-!
# Shell completion requests

A shell asks the program what may follow a partly typed command line by running it as
`genman __complete <words>... <word>`: the last word is the one being typed, the words
before it are complete. The program prints one choice per line, each a word and a tab
and its description, then `:<directive>`, a number that tells the shell what else to
do; `__completeNoDesc` asks for the words without descriptions.

`complete` answers such a request:

* it finds the command the complete words name (`findNode`), reading down from the main
  command, with the `completion` command's shells and the request command itself among
  the commands (`Node`);
* a word after a flag that takes a value, or a `--flag=` word, asks for the flag's value
  (`valueFlag`); no flag offers values, so nothing is offered for it;
* a word starting with `-` asks for flag names: every flag of the command not given yet,
  long and short forms whose text starts with the word;
* otherwise, when no argument and no flag of the command's own is given yet, the
  subcommands whose names start with the word are offered; `help` offers the
  subcommands of the command its arguments name.

The directive is `ShellCompDirectiveNoFileComp` (4) when files are not to be offered,
which is so for flag names and wherever subcommands could be offered, and
`ShellCompDirectiveDefault` (0) otherwise.
-/

namespace HelpMan.Cli

/-- What the shell is to do besides offering the choices. -/
inductive Directive where
  | default
  | noSpace
  | noFileComp
  deriving DecidableEq, Repr

namespace Directive

/-- The number the shell reads. -/
def code : Directive → Nat
  | .default => 0
  | .noSpace => 2
  | .noFileComp => 4

/-- The name of a directive, as the closing message on standard error gives it. -/
def name : Directive → String
  | .default => "ShellCompDirectiveDefault"
  | .noSpace => "ShellCompDirectiveNoSpace"
  | .noFileComp => "ShellCompDirectiveNoFileComp"

end Directive

/-- A command as completion sees it: one of the program's commands, a shell that the
`completion` command writes a script for, or the request command `__complete`. -/
inductive Node where
  | command (c : Command)
  | shell (name : String)
  | request
  deriving DecidableEq, Repr

/-- The name of the request command. -/
def requestName : String := "__complete"

/-- The other name of the request command, which asks for choices without descriptions. -/
def requestNoDescName : String := "__completeNoDesc"

/-- The switch of a shell's command that leaves descriptions out of its script. -/
def noDescriptionsFlag : Flag := Command.switchFlag "no-descriptions" "disable completion descriptions"

namespace Node

/-- The name a node is called by. -/
def name : Node → String
  | .command c => c.name
  | .shell s => s
  | .request => requestName

/-- The one-line summary of a node. -/
def short : Node → String
  | .command c => c.short
  | .shell s => "Generate the autocompletion script for " ++ s
  | .request => "Request shell completion choices for the specified command-line"

/-- Whether a word calls a node: its name, or the request command's other name. -/
def calledBy (n : Node) (word : String) : Bool :=
  n.name == word || (n == .request && word == requestNoDescName)

/-- The subcommands of a node, sorted by name; the request command is a subcommand of
the main command. -/
def children (t : Tree) : Node → List Node
  | .command .main =>
    Node.request :: ((Command.main.children t).mergeSort fun a b => decide (a.name ≤ b.name)).map .command
  | .command .completion => (shells.map Prod.fst).map .shell
  | _ => []

/-- Whether completion offers a node as a subcommand: the request command and hidden
commands are never offered, and `help` only as the main command's help command. -/
def available (t : Tree) : Node → Bool
  | .command c => Command.available t c
  | .shell _ => true
  | .request => false

/-- Whether a node is the help command of another. -/
def helpOf : Node → Node → Bool
  | .command .main, .command .help => true
  | _, _ => false

/-- The flags a node has from the main command. -/
def inheritedFlags : Node → List Flag
  | .command c => c.inheritedFlags
  | _ => Command.main.persistentFlags

/-- The switch that asks for a node's help. -/
def helpFlag (n : Node) : Flag := ⟨"help", some 'h', .switch, "help for " ++ n.name⟩

/-- The flags a node declares itself, its help switch included. -/
def ownFlags : Node → List Flag
  | .command c => c.ownFlags
  | n@(.shell _) => [noDescriptionsFlag, n.helpFlag]
  | .request => [Node.request.helpFlag]

/-- The flags of a node that its subcommands do not have, its help switch included. -/
def localFlags : Node → List Flag
  | .command c => c.localFlags ++ [c.helpFlag]
  | n => n.ownFlags

/-- The flags known while commands are looked for, before the help switch is added. -/
def knownFlags (n : Node) : List Flag := n.ownFlags.filter (·.name != "help") ++ n.inheritedFlags

/-- All flags of a node. -/
def flags (n : Node) : List Flag := n.ownFlags ++ n.inheritedFlags

/-- Whether a node reads its arguments itself, flags included. -/
def rawArguments : Node → Bool
  | .request => true
  | _ => false

end Node

/-- The node a command line names and the arguments left for it: the first bare word
that calls a subcommand leads to that subcommand, and the search goes on from there. -/
def findNode (t : Tree) : Nat → Node → List String → Node × List String
  | 0, n, args => (n, args)
  | depth + 1, n, args =>
    let known := n.knownFlags
    match Flag.bareWords known (args.length + 1) args with
    | [] => (n, args)
    | w :: _ =>
      match (n.children t).find? (·.calledBy w) with
      | some c => findNode t depth c (Flag.dropWord known w (args.length + 1) args)
      | none => (n, args)

/-- The node a command line names, from the main command. -/
def findFromMain (t : Tree) (args : List String) : Node × List String :=
  findNode t 3 (.command .main) args

/-- The choices a node offers as subcommands for a word: those it offers whose names
start with the word, each with its summary. -/
def subcommandChoices (t : Tree) (n : Node) (word : String) : List String :=
  ((n.children t).filter fun c => c.available t || n.helpOf c).filterMap fun c =>
    if c.name.startsWith word then some (c.name ++ "\t" ++ c.short) else none

/-- Whether a node has subcommands that completion offers. -/
def offersSubcommands (t : Tree) (n : Node) : Bool :=
  (n.children t).any fun c => c.available t || n.helpOf c

/-- The choices and directive of a node's own argument completion, if it has one: `help`
offers the subcommands of the command its arguments name, and `completion` and its
shells offer nothing but turn file names off. -/
def argumentChoices (t : Tree) (n : Node) (args : List String) (word : String) :
    Option (List String × Directive) :=
  match n with
  | .command .help =>
    let (named, _) := findFromMain t args
    some (subcommandChoices t named word, .noFileComp)
  | .command .completion | .shell _ => some ([], .noFileComp)
  | _ => none

/-- The choices for a flag name: its long form, and its short form if it has one, when
they start with the word. -/
def flagNameChoices (f : Flag) (word : String) : List String :=
  let long := "--" ++ f.name
  (if long.startsWith word then [long ++ "\t" ++ f.usage] else []) ++
  match f.short with
  | some c =>
    let short := "-" ++ c.toString
    if short.startsWith word then [short ++ "\t" ++ f.usage] else []
  | none => []

/-- Whether an argument looks like a whole flag: `--` and at least one more byte, or `-`
and a byte other than `-`. -/
def looksLikeFlag (arg : String) : Bool :=
  match arg.toList with
  | '-' :: '-' :: _ :: _ => true
  | '-' :: c :: _ => c != '-'
  | _ => false

/-- The flag a name stands for: a one-byte name is a short name, any other a long one. -/
def lookupFlag (flags : List Flag) (name : String) : Option Flag :=
  match name.toList with
  | [c] => if c.toNat < 128 then Flag.byShort flags c else Flag.byName flags name
  | _ => Flag.byName flags name

/-- The last byte of a text, as a text: the last character when it is ASCII, and
otherwise a lone byte that is not UTF-8, which reads as the replacement character. -/
def lastCharText (s : String) : String :=
  match s.toList.getLast? with
  | some c => if c.toNat < 128 then c.toString else "\uFFFD"
  | none => ""

/-- The flag named after a word that is cut at `=`: the text after `--`, or else the last
character of a short group. -/
def nameBefore (before : String) : String :=
  if before.startsWith "--" then String.ofList (before.toList.drop 2) else lastCharText before

/-- The flag whose value the word being typed is, if any, named by the word itself when it
is a `--name=` or `-x=` word (the text after `=` is then what is typed), or else by the
complete argument before it when that is a flag without `=`, which is then left out of
the arguments. A switch named by the argument before takes no value, and the word is then
read as an argument. A name that no flag has is an error, and the arguments and word are
then kept as they were. Gives the flag, the arguments, the text typed and the error. -/
def valueFlag (n : Node) (args : List String) (word : String) :
    Option Flag × List String × String × Option String :=
  if n.rawArguments then (none, args, word, none) else
  let cut : Option (String × String) :=
    if word.startsWith "-" then
      match word.toList.span (· ≠ '=') with
      | (before, '=' :: after) => some (nameBefore (String.ofList before), String.ofList after)
      | _ => none
    else none
  if word.startsWith "-" && cut.isNone then (none, args, word, none) else
  let withEqual := cut.isSome
  let typed := match cut with
    | some (_, after) => after
    | none => word
  let fromWord := match cut with
    | some (name, _) => name
    | none => ""
  let (named, kept) : String × List String :=
    if !fromWord.isEmpty then (fromWord, args)
    else
      match args.getLast? with
      | some prev =>
        if looksLikeFlag prev && !prev.contains '=' then (nameBefore prev, args.dropLast)
        else ("", args)
      | none => ("", args)
  if named.isEmpty then (none, kept, typed, none)
  else
    match lookupFlag n.flags named with
    | none => (none, args, word,
        some ("Subcommand '" ++ n.name ++ "' does not support flag '" ++ named ++ "'"))
    | some f =>
      if !withEqual && f.kind == .switch then (none, args, typed, none)
      else (some f, kept, typed, none)

/-- The flags a node offers as flag names, in the order they are offered: the inherited
ones, then its own, each sorted by name. -/
def offeredFlags (n : Node) : List Flag := sortFlags n.inheritedFlags ++ sortFlags n.ownFlags

/-- What a completion request gives: the choices, the directive, and the error that
stopped it early, if any. -/
structure Choices where
  choices : List String
  directive : Directive
  error : Option String
  deriving Repr

/-- The choices for the last of a list of words, the ones before it being complete. -/
def completions (t : Tree) (words : List String) : Choices :=
  let word := words.getLast?.getD ""
  let (node, args) := findFromMain t words.dropLast
  let (flag, args, word, flagError) := valueFlag node args word
  let parsed : Except String (Bool × Given) :=
    if node.rawArguments then .ok (true, ⟨[], args⟩)
    else
      match Flag.parse node.flags args with
      | .error e =>
        .error ("Error while parsing flags from args [" ++ " ".intercalate args ++ "]: " ++ e.message)
      | .ok given =>
        let closed := match Flag.parse node.flags (args ++ ["--"]) with
          | .ok g => g.args.length
          | .error _ => 0
        .ok (closed ≤ given.args.length, given)
  match parsed with
  | .error e => ⟨[], .default, some e⟩
  | .ok (flagCompletion, given) =>
    if flagError.isSome && flagCompletion then ⟨[], .default, flagError⟩ else
    if given.changed "help" then ⟨[], .noFileComp, none⟩ else
    let args := given.args
    let fromArguments (cs : List String) (d : Directive) : Choices :=
      let own := if flag.isSome && flagCompletion then none else argumentChoices t node args word
      match own with
      | some (more, d') => ⟨cs ++ more, d', none⟩
      | none => ⟨cs, d, none⟩
    if flag.isNone && word.startsWith "-" && !word.contains '=' && flagCompletion then
      let cs := (offeredFlags node).flatMap fun f =>
        if given.changed f.name then [] else flagNameChoices f word
      let d := match cs with
        | [c] => if c.endsWith "=" then Directive.noSpace else .noFileComp
        | _ => .noFileComp
      if node.rawArguments then fromArguments cs d else ⟨cs, d, none⟩
    else if flag.isNone then
      let localGiven := node.localFlags.any fun f => given.changed f.name
      if args.isEmpty && !localGiven then
        fromArguments (subcommandChoices t node word)
          (if offersSubcommands t node then .noFileComp else .default)
      else fromArguments [] .default
    else fromArguments [] .default

/-- A choice as printed: without its description when none are wanted, only its first
line, without blanks at its ends. -/
def Choices.line (descriptions : Bool) (choice : String) : String :=
  let c := if descriptions then choice else (choice.splitOn "\t").headD ""
  ((c.splitOn "\n").headD "").trimBlank

/-- Whether descriptions are wanted: not when asked as `__completeNoDesc`, otherwise as
`GENMAN_COMPLETION_DESCRIPTIONS` (or else `COBRA_COMPLETION_DESCRIPTIONS`) says, if it
holds a truth value, and by default yes; `getenv` reads a variable, empty when unset. -/
def wantsDescriptions (calledAs : String) (getenv : String → String) : Bool :=
  if calledAs == requestNoDescName then false
  else
    let v := getenv "GENMAN_COMPLETION_DESCRIPTIONS"
    let v := if v.isEmpty then getenv "COBRA_COMPLETION_DESCRIPTIONS" else v
    (parseSwitch v).getD true

/-- The output of a completion request: the choices, one a line, then the directive's
number after a colon; and the closing message for standard error. -/
def Choices.output (c : Choices) (descriptions : Bool) : String × String :=
  (String.join (c.choices.map fun x => Choices.line descriptions x ++ "\n") ++
    ":" ++ toString c.directive.code ++ "\n",
   "Completion ended with directive: " ++ c.directive.name ++ "\n")

end HelpMan.Cli
