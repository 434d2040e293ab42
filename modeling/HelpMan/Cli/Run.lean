import HelpMan.Cli.Complete
import HelpMan.Cli.Manual
import HelpMan.Settings.Load
import HelpMan.Utility.Exec

/-!
# Running the command line

`execute` runs the program on a command line. It picks the command (`find`), reads the
command's flags, and then:

* with `--help`, or for a command that only has subcommands, prints the command's help;
* `version` prints the program's version, and `man` the program's own man page; both
  refuse arguments;
* `help` prints the help of the command its arguments name;
* the main command needs exactly one utility: with none (or a blank one) it prints its
  usage and fails; with more it fails with a usage error. It then loads the settings
  (from `--config`, or else `GENMAN_CONFIG` or the default file, and the environment),
  lays the flags over them (`--log-level` when not empty, `--version` and `--title` when
  given), checks them, and generates the page: to standard output for `--output -`,
  otherwise into the file `--output` names, or `<utility>.1` (`<utility>-<sub>.1` for a
  subcommand), which is only written once the whole page is ready.

A command line whose first bare word is `__complete` or `__completeNoDesc` is a shell's
completion request, answered by `completions`.

Logs go to standard error; `--debug` logs everything, `--verbose` from info up, and
otherwise the settings' level decides. Help and pages go to standard output; usage and
version text go where the caller says (`Setup.usageToStdout`).
-/

namespace HelpMan.Cli

open Log Page

/-- What programs run from the command line see and change, and the utilities asked. -/
structure World where
  host : Utility.Host
  calls : List (List String)

/-- How the command line runs: its arguments, the time, where usage text goes, which
commands are present, and how utilities run. -/
structure Setup where
  args : List String
  now : Clock.Reading
  usageToStdout : Bool
  tree : Tree
  run : Utility.Runner World

/-- What a run gives: its outputs, its failure if it failed, and the world after it. -/
structure Outcome where
  stdout : String
  stderr : String
  failure : Option Failure
  world : World

/-- The environment of a world. -/
def World.environment (w : World) : Environment := ⟨w.host.env⟩

/-- The world with a new working directory. -/
def World.withWorkspace (w : World) (ws : Workspace) : World := { w with host := { w.host with workspace := ws } }

/-- An outcome that printed a text to standard output. -/
def printed (text : String) (w : World) : Outcome := ⟨text, "", none, w⟩

/-- An outcome that failed without printing. -/
def failed (e : Failure) (w : World) : Outcome := ⟨"", "", some e, w⟩

/-- An outcome that printed usage or version text, where the setup says it goes. -/
def Setup.console (s : Setup) (text : String) (e : Option Failure) (w : World) : Outcome :=
  if s.usageToStdout then ⟨text, "", e, w⟩ else ⟨"", text, e, w⟩

/-- The failure of a command that takes no arguments. -/
def unknownCommand (c : Command) (arg : String) : Failure :=
  .plain ("unknown command " ++ Text.quote arg ++ " for " ++ Text.quote c.path)

/-- The settings of a run of the main command, with the flags laid over them, or why
they cannot be had. -/
def settingsFor (given : Given) (w : World) : Except Failure Settings := do
  let env := w.environment
  let path := given.text "config"
  let loaded := if path.isEmpty then Settings.loadDefault w.host.workspace env (Settings.defaultPaths env)
    else Settings.load w.host.workspace env path
  let s ← match loaded with
    | .ok s => pure s
    | .error (.fault m) => throw (.fault m)
    | .error e => throw (.configuration "config" "failed to load configuration"
        "Check that the file named by --config or GENMAN_CONFIG exists and is valid YAML" (some e))
  let level := given.text "log-level"
  let s := if level.isEmpty then s else { s with logLevel := level }
  let s := if given.changed "version" then { s with version := given.text "version" } else s
  let s := if given.changed "title" then { s with title := given.text "title" } else s
  match s.check with
  | some why => throw (.configuration "config" "invalid configuration"
      "Use one of debug, info, warn or error for the log level and give every environment entry a name"
      (some (.plain why.message)))
  | none => pure s

/-- The logger of a run: `--debug`, then `--verbose`, then the settings' level. -/
def loggerFor (given : Given) (s : Settings) (now : Clock.Reading) : Logger :=
  let level := if given.on "debug" then Level.debug
    else if given.on "verbose" then Level.info
    else (Level.parse? s.logLevel).getD Level.error
  ⟨level, true, now.clock, now.elapsed⟩

/-- The request a run generates from: the utility, the subcommand and the files list its flags
give, the title and the version of its settings, and the extra references that `--also` gives
when it is given, even empty, else those of the settings. -/
def requestFor (given : Given) (utility : String) (cfg : Settings) : Request :=
  ⟨utility, given.text "subcommand", cfg.title, cfg.version, given.text "files",
    if given.changed "also" then splitRefs (given.text "also") else cfg.also⟩

/-- Generates the page of a utility, as the main command does once its settings are
ready. -/
def generate (s : Setup) (given : Given) (utility : String) (cfg : Settings) (w : World) : Outcome :=
  let logger := loggerFor given cfg s.now
  let sub := given.text "subcommand"
  let req := requestFor given utility cfg
  let source (c sub : String) (w : World) : HelpAnswer × World := Utility.askHelp s.run logger c sub w
  let gen : Generator World := ⟨some source, cfg.environment, logger, s.now⟩
  let output := given.text "output"
  let path := if output.isEmpty then filename utility sub else output
  let (g, w) := gen.generate req .accepts w
  match g.result with
  | .error e => ⟨"", g.log, some e, w⟩
  | .ok () =>
    if path = "-" then ⟨g.written, g.log, none, w⟩
    else
      match w.host.workspace.write path g.written with
      | .error why =>
        ⟨"", g.log, some (.output path "failed to write man page to"
          "Check that the output directory exists and is writable, or use --output -" (some (.plain why))), w⟩
      | .ok ws => ⟨"", g.log ++ logger.info ("man page written to " ++ path), none, w.withWorkspace ws⟩

/-- Runs the main command with its flags read. -/
def runMain (s : Setup) (given : Given) (w : World) : Outcome :=
  match given.args with
  | [utility] =>
    if utility.isBlankText then s.console (Command.main.usage s.tree) (some Failure.missingUtility) w
    else
      match settingsFor given w with
      | .error e => failed e w
      | .ok cfg => generate s given utility cfg w
  | [] => s.console (Command.main.usage s.tree) (some Failure.missingUtility) w
  | args =>
    failed (.usage ("expected one utility, got " ++ toString args.length ++ ": " ++ " ".intercalate args)
      "Document one utility per run; use --subcommand for its subcommands") w

/-- Answers a completion request made with the given name and words: the choices on
standard output, and on standard error the closing message, after the reason the request
stopped early when standard error is the program's own. That reason is also added to the
end of the file that the variable BASH_COMP_DEBUG_FILE names, when it names one that can be opened. -/
def answerCompletion (s : Setup) (calledAs : String) (words : List String) (w : World) : Outcome :=
  match words with
  | [] => failed (.plain "requires at least 1 arg(s), only received 0") w
  | _ =>
    let c := completions s.tree words
    let (out, closing) := c.output (wantsDescriptions calledAs w.environment.get)
    let reason := match c.error with
      | some e => if s.usageToStdout then "" else "[Debug] [Error] " ++ e ++ "\n"
      | none => ""
    let debugFile := w.environment.get "BASH_COMP_DEBUG_FILE"
    let w := match c.error with
      | some e =>
        if debugFile.isEmpty then w else
        match w.host.workspace.writeAt Workspace.home debugFile ("[Debug] [Error] " ++ e ++ "\n").toUTF8.toList true with
        | .ok ws => w.withWorkspace ws
        | .error _ => w
      | none => w
    ⟨out, reason ++ closing, none, w⟩

/-- The completion request a command line makes, if it makes one: the name it is made
with and the words after it. -/
def completionRequest (args : List String) : Option (String × List String) :=
  let known := Command.main.knownFlags
  match Flag.bareWords known (args.length + 1) args with
  | w :: _ =>
    if Node.request.calledBy w then some (w, Flag.dropWord known w (args.length + 1) args) else none
  | [] => none

/-- Runs the program on a command line. -/
def execute (s : Setup) (w : World) : Outcome :=
  match completionRequest s.args with
  | some (calledAs, words) => answerCompletion s calledAs words w
  | none =>
  let (cmd, rest) := find s.tree s.args
  match Flag.parse cmd.flags rest with
  | .error e => failed (.plain e.message) w
  | .ok given =>
    if given.on "help" || !cmd.runnable then printed (cmd.helpText s.tree) w
    else
      match cmd with
      | .main => runMain s given w
      | .version =>
        match given.args with
        | a :: _ => failed (unknownCommand cmd a) w
        | [] => s.console versionText none w
      | .manual =>
        match given.args with
        | a :: _ => failed (unknownCommand cmd a) w
        | [] => printed (manualPage s.tree s.now) w
      | .help => printed ((find s.tree given.args).1.helpText s.tree) w
      | .completion => printed (cmd.helpText s.tree) w

/-- What the program prints when it fails: for a fault, that it stopped on it; otherwise
a line that the run was interrupted, if it was, and the failure's message with advice. -/
def failureReport (o : Outcome) : String :=
  match o.failure with
  | none => ""
  | some (.fault m) => "genman: panic while generating man page: " ++ m ++ "\n"
  | some e =>
    (if o.world.host.interrupted then "genman: interrupted, no man page written\n" else "") ++ e.enhanced ++ "\n"

/-- The status the program exits with: 2 after a fault, 1 after another failure. -/
def Outcome.exitCode (o : Outcome) : Nat :=
  match o.failure with
  | none => 0
  | some (.fault _) => 2
  | some _ => 1

end HelpMan.Cli
