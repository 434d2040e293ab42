import HelpMan.Cli.Flag
import HelpMan.Text.Blank
import HelpMan.Text.Lines

/-!
# The commands

The program is one main command, `genman`, which documents a utility, with subcommands:
`version`, which prints the program's own version; `man`, hidden, which prints the
program's own man page; `help`, which prints the help of a command; and `completion`,
which writes shell completion scripts and is only present when the program runs from the
command line (`Tree`).

Each command has a use line, a one-line summary, a longer description, examples and
flags. The main command's persistent flags (`--config`, `--log-level`, `--verbose`,
`--debug`) hold for every subcommand as well, and every command has a `--help` switch
of its own.

`find` picks the command that a command line names: the first bare word, read past the
flags known at that point, that names a subcommand. `Command.helpText` is the text that
`--help` prints: the description, then the usage (`Command.usage`), which lists the use
lines, examples, subcommands and flags.
-/

namespace HelpMan.Cli

/-- The commands of the program. -/
inductive Command where
  | main
  | version
  | manual
  | help
  | completion
  deriving DecidableEq, Repr

/-- Which commands are present: all but `completion` always. -/
structure Tree where
  completion : Bool
  deriving DecidableEq, Repr

/-- The name of the program. -/
def programName : String := "genman"

/-- The shells that `completion` has a subcommand for, with their summaries. -/
def shells : List (String × String) :=
  ["bash", "fish", "powershell", "zsh"].map fun s => (s, "Generate the autocompletion script for " ++ s)

namespace Command

/-- The name a command is called by. -/
def name : Command → String
  | .main => programName
  | .version => "version"
  | .manual => "man"
  | .help => "help"
  | .completion => "completion"

/-- The use line as declared: the name and what follows it. -/
def use : Command → String
  | .main => "genman [flags] <utility>"
  | .help => "help [command]"
  | c => c.name

/-- The one-line summary. -/
def short : Command → String
  | .main => "Generate a man page from a utility's help output"
  | .version => "Print version information"
  | .manual => "Print the man page for genman itself"
  | .help => "Help about any command"
  | .completion => "Generate the autocompletion script for the specified shell"

/-- The longer description, empty when there is none. -/
def long : Command → String
  | .main =>
    "genman runs \"<utility> help\" (or \"<utility> help <subcommand>\"), reads the\n" ++
    "summary, details, options, examples and commands sections it prints, and\n" ++
    "writes a troff man page for it.\n\n" ++
    "The page is written to <utility>.1 (or <utility>-<subcommand>.1) unless\n" ++
    "--output names another file. Use --output - to write to standard output."
  | .version =>
    "Print detailed version information including build details.\n\n" ++
    "This is the version of genman itself; use --version to set the version\n" ++
    "printed in a generated page."
  | .manual => ""
  | .help =>
    "Help provides help for any command in the application.\n" ++
    "Simply type genman help [path to command] for full details."
  | .completion =>
    "Generate the autocompletion script for genman for the specified shell.\n" ++
    "See each sub-command's help for details on how to use the generated script.\n"

/-- The examples, empty when there are none. -/
def examples : Command → String
  | .main =>
    "  genman widget\n" ++
    "  genman -s deploy -t \"Widget Manual\" -v 1.2.0 widget\n" ++
    "  genman -o - -f \"$(printf '/etc/widget.conf\\tsystem configuration')\" widget | man -l -"
  | _ => ""

/-- Whether a command is left out of listings. -/
def hidden : Command → Bool
  | .manual => true
  | _ => false

/-- Whether a command does something when run; `completion` only has subcommands. -/
def runnable : Command → Bool
  | .completion => false
  | _ => true

/-- The subcommands of a command that are commands of the tree. -/
def children (t : Tree) : Command → List Command
  | .main => [.version, .manual, .help] ++ (if t.completion then [.completion] else [])
  | _ => []

/-- The names and summaries of all subcommands of a command. -/
def subcommands (t : Tree) (c : Command) : List (String × String) :=
  match c with
  | .completion => shells
  | _ => (c.children t).map fun s => (s.name, s.short)

/-- Whether a command is offered to the user: not hidden, and either runnable or with
subcommands; the help command is never offered as a subcommand. -/
def available (t : Tree) (c : Command) : Bool :=
  !c.hidden && c != .help && (c.runnable || !(c.subcommands t).isEmpty)

/-- The subcommands offered to the user. -/
def offered (t : Tree) (c : Command) : List Command := (c.children t).filter (available t)

/-- Whether a command has subcommands offered to the user. -/
def hasOffered (t : Tree) : Command → Bool
  | .completion => true
  | c => !(c.offered t).isEmpty

/-- The command path: the program's name, then the subcommand's. -/
def path : Command → String
  | .main => programName
  | c => programName ++ " " ++ c.name

/-! ## Flags -/

/-- A text flag. -/
def textFlag (name : String) (short : Option Char) (usage : String) : Flag := ⟨name, short, .text, usage⟩

/-- A switch. -/
def switchFlag (name : String) (usage : String) : Flag := ⟨name, none, .switch, usage⟩

/-- The flags of a command that its subcommands do not have. -/
def localFlags : Command → List Flag
  | .main =>
    [textFlag "also" (some 'a') "tab separated extra references for the end of the page",
     textFlag "files" (some 'f') "files to document, one \"<path>\\t<description>\" entry per line",
     textFlag "output" (some 'o') "output file, - for stdout (default <utility>[-<subcommand>].1)",
     textFlag "subcommand" (some 's') "document this subcommand of the utility",
     textFlag "title" (some 't') "document title (env: GENMAN_TITLE)",
     textFlag "version" (some 'v') "document version (default 0.0.1, env: GENMAN_VERSION)"]
  | _ => []

/-- The flags of a command that its subcommands have too. -/
def persistentFlags : Command → List Flag
  | .main =>
    [textFlag "config" none "config file path (env: GENMAN_CONFIG)",
     textFlag "log-level" none "log level: debug, info, warn, error (env: GENMAN_LOG_LEVEL)",
     switchFlag "verbose" "enable info-level logging to stderr",
     switchFlag "debug" "enable debug-level logging to stderr"]
  | _ => []

/-- The flags a command has from the commands above it. -/
def inheritedFlags : Command → List Flag
  | .main => []
  | _ => persistentFlags .main

/-- The switch that asks for a command's help. -/
def helpFlag (c : Command) : Flag := ⟨"help", some 'h', .switch, "help for " ++ c.name⟩

/-- The flags a command declares itself, its help switch included. -/
def ownFlags (c : Command) : List Flag := c.localFlags ++ c.persistentFlags ++ [c.helpFlag]

/-- The flags known before a command runs, when subcommands are looked for: all but the
help switch, which is added when the command runs. -/
def knownFlags (c : Command) : List Flag := c.localFlags ++ c.persistentFlags ++ c.inheritedFlags

/-- All flags of a running command. -/
def flags (c : Command) : List Flag := c.ownFlags ++ c.inheritedFlags

/-- The use line: the command path and the declared use, with `[flags]` at the end
unless the use names it. -/
def useLine (c : Command) : String :=
  let line := match c with
    | .main => c.use
    | _ => programName ++ " " ++ c.use
  if Text.isInfix "[flags]".toList line.toList then line else line ++ " [flags]"

end Command

/-! ## Finding the command -/

/-- The command a command line names, and the arguments left for it. -/
def find (t : Tree) (args : List String) : Command × List String :=
  let known := Command.main.knownFlags
  match Flag.bareWords known (args.length + 1) args with
  | [] => (.main, args)
  | w :: _ =>
    match (Command.main.children t).find? (·.name == w) with
    | some c => (c, Flag.dropWord known w (args.length + 1) args)
    | none => (.main, args)

/-! ## Help and usage text -/

/-- Flags sorted by name. -/
def sortFlags (fs : List Flag) : List Flag := fs.mergeSort fun a b => decide (a.name ≤ b.name)

/-- The start of a flag's line in a flag list: its names and the kind of value it takes. -/
def Flag.head (f : Flag) : String :=
  (match f.short with
    | some c => "  -" ++ c.toString ++ ", --" ++ f.name
    | none => "      --" ++ f.name) ++
  (if f.kind == .text then " string" else "")

/-- Spaces. -/
def spaces (n : Nat) : String := String.ofList (List.replicate n ' ')

/-- A list of flags, sorted by name, one per line, with their usages aligned one column
after the longest head; the later lines of a usage are indented to the same column. -/
def flagUsages (fs : List Flag) : String :=
  let sorted := sortFlags fs
  let width := (sorted.map fun f => f.head.utf8ByteSize + 1).foldl max 0
  String.join (sorted.map fun f =>
    let indented := ("\n" ++ spaces (width + 2)).intercalate (f.usage.splitOn "\n")
    f.head ++ " " ++ spaces (width - f.head.utf8ByteSize) ++ " " ++ indented ++ "\n")

/-- A text without blank characters at its end. -/
def trimEnd (s : String) : String := String.ofList (Text.dropBlank s.toList.reverse).reverse

/-- The width of the name column in a list of subcommands. -/
def nameColumn (names : List String) : Nat := (names.map String.length).foldl max 11

/-- A text padded with spaces to a width. -/
def padRight (s : String) (width : Nat) : String := s ++ spaces (width - s.length)

namespace Command

/-- The usage of a command. -/
def usage (t : Tree) (c : Command) : String :=
  let subs := c.hasOffered t
  let listed := (c.subcommands t).filter fun (n, _) =>
    n == "help" || match (c.children t).find? (·.name == n) with
      | some s => available t s
      | none => true
  let sorted := listed.mergeSort fun a b => decide (a.1 ≤ b.1)
  let column := nameColumn ((c.subcommands t).map Prod.fst)
  "Usage:" ++
  (if c.runnable then "\n  " ++ c.useLine else "") ++
  (if subs then "\n  " ++ c.path ++ " [command]" else "") ++
  (if c.examples.isEmpty then "" else "\n\nExamples:\n" ++ c.examples) ++
  (if subs then
    "\n\nAvailable Commands:" ++ String.join (sorted.map fun (n, s) => "\n  " ++ padRight n column ++ " " ++ s)
  else "") ++
  "\n\nFlags:\n" ++ trimEnd (flagUsages c.ownFlags) ++
  (if c.inheritedFlags.isEmpty then "" else "\n\nGlobal Flags:\n" ++ trimEnd (flagUsages c.inheritedFlags)) ++
  (if subs then "\n\nUse \"" ++ c.path ++ " [command] --help\" for more information about a command." else "") ++
  "\n"

/-- The help of a command: its description, or its summary, then its usage when it runs
or has subcommands. -/
def helpText (t : Tree) (c : Command) : String :=
  let lead := trimEnd (if c.long.isEmpty then c.short else c.long)
  (if lead.isEmpty then "" else lead ++ "\n\n") ++
  (if c.runnable || !(c.subcommands t).isEmpty then c.usage t else "")

end Command

end HelpMan.Cli
