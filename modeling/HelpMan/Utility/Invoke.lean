import HelpMan.Page.Generate
import HelpMan.Text.Utf8

/-!
# Asking a utility for its help

The help of a utility is what it prints when run as `<utility> help`, or
`<utility> help <subcommand>` for a subcommand (`helpArgs`). The run is logged at info
level before it starts. A run that fails gives its failure unchanged; output that is not
UTF-8 is refused with the offset of its first bad byte; otherwise the size of the output
is logged at debug level and the help is the output trimmed of blank characters
(`askHelp`).

Programs are started by a runner, which acts on a state of the caller's choice.
-/

namespace HelpMan.Utility

open Log Page

/-- Starts a program with arguments and gives its standard output or a failure. -/
abbrev Runner (σ : Type) := String → List String → σ → Except Failure (List UInt8) × σ

/-- The arguments that ask for help. -/
def helpArgs (subcommand : String) : List String :=
  if subcommand = "" then ["help"] else ["help", subcommand]

/-- Runs the utility's help and reads its output. -/
def askHelp (run : Runner σ) (logger : Logger) (command subcommand : String) (st : σ) :
    HelpAnswer × σ :=
  let args := helpArgs subcommand
  let argv := command :: args
  let running := logger.info ("running " ++ " ".intercalate argv)
  let (out, st) := run command args st
  match out with
  | .error e => (⟨.error e, running⟩, st)
  | .ok bytes =>
    match Text.firstInvalid bytes with
    | some off => (⟨.error (.undecodable argv off), running⟩, st)
    | none =>
      (⟨.ok (String.ofList (Text.trimBlank (Text.decode bytes))),
        running ++ logger.debug ("read " ++ toString bytes.length ++ " bytes of help output")⟩, st)

end HelpMan.Utility
