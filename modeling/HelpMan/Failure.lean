import HelpMan.Page.Entry
import HelpMan.Text.Blank
import HelpMan.Text.Quoted

/-!
# Why a run fails

Every failure of the program is one value of `Failure`, named for its cause. Some causes
carry the failure they arose from (`Failure.chain` lists a failure and those behind it).
A failure has a message (`Failure.message`), a kind that names its cause for callers
(`Failure.kind`), and advice on how to recover (`Failure.guidance`), taken from the first
cause in the chain that has any, looked up in a fixed order of causes.
-/

namespace HelpMan

/-- The causes of failure. -/
inductive Failure where
  /-- The utility exited with a status other than zero; `-1` when a signal killed it. -/
  | exited (command : List String) (status : Int) (stdout stderr : String)
  /-- The utility's help output is not UTF-8; the offset of the first bad byte. -/
  | undecodable (command : List String) (offset : Nat)
  /-- No executable of this name is on the search path. -/
  | notFound (name : String)
  /-- A line of the files list has no tab. -/
  | badFileEntry (entry : Page.BadEntry)
  /-- No utility was named to the page generator. -/
  | noCommand
  /-- The configuration could not be loaded or is invalid. -/
  | configuration (field message guidance : String) (inner : Option Failure)
  /-- The command line is not right. -/
  | usage (message guidance : String)
  /-- The page could not be written to its file. -/
  | output (path message guidance : String) (inner : Option Failure)
  /-- A failure seen from the step that met it: `context: inner`. -/
  | wrap (context : String) (inner : Failure)
  /-- A failure with nothing but a message. -/
  | plain (message : String)
  /-- A runtime fault that stops the program where it happens, such as a collection used
  as a key that has to be hashed; no step wraps it in its context. -/
  | fault (message : String)
  deriving Repr

namespace Failure

/-- The usage failure of a command line that names no utility. -/
def missingUtility : Failure :=
  .usage "missing utility name" "Name the utility to document, for example: genman widget"

/-- The first line of a text. -/
def firstLine (s : String) : String :=
  String.ofList ((s.toList).takeWhile (· ≠ '\n'))

/-- The failure's message. -/
def message : Failure → String
  | .exited command status _ stderr =>
    let base := "command " ++ Text.quote (" ".intercalate command) ++ " exited with status " ++
      toString status
    let err := stderr.trimBlank
    if err.isEmpty then base else base ++ ": " ++ firstLine err
  | .undecodable command offset =>
    "output of " ++ Text.quote (" ".intercalate command) ++ " is not valid UTF-8 (byte offset " ++
      toString offset ++ ")"
  | .notFound name => "exec: " ++ Text.quote name ++ ": executable file not found in $PATH"
  | .badFileEntry e => e.message
  | .noCommand => "no utility to document"
  | .configuration _ msg _ none => "configuration error: " ++ msg
  | .configuration _ msg _ (some inner) => "configuration error: " ++ msg ++ ": " ++ inner.message
  | .usage msg _ => "usage error: " ++ msg
  | .output path msg _ inner =>
    "output error: " ++ msg ++ " " ++ path ++ ": " ++
      match inner with
      | some e => e.message
      | none => "<nil>"
  | .wrap context inner => context ++ ": " ++ inner.message
  | .plain msg => msg
  | .fault msg => msg

/-- The failure as the step with the given context reports it: wrapped in the context,
unless it is a fault, which passes every step unchanged. -/
def within (context : String) : Failure → Failure
  | .fault msg => .fault msg
  | e => .wrap context e

/-- The failure and the failures behind it, outermost first. -/
def chain : Failure → List Failure
  | e@(.configuration _ _ _ (some inner)) => e :: inner.chain
  | e@(.output _ _ _ (some inner)) => e :: inner.chain
  | e@(.wrap _ inner) => e :: inner.chain
  | e => [e]

/-- The name of the failure's cause, for callers that tell causes apart. -/
def kind : Failure → String
  | .exited .. => "ProcessExecutionError"
  | .undecodable .. => "DecodeError"
  | .badFileEntry _ => "FileEntryError"
  | .noCommand => "NoCommand"
  | .configuration .. => "ConfigurationError"
  | .usage .. => "UsageError"
  | .output .. => "OutputError"
  | .fault _ => "panic"
  | _ => "Error"

/-- The advice a single cause gives, at its place in the order of causes (a lower
place wins). -/
def advice : Failure → Option (Nat × String)
  | .configuration _ _ g _ => some (0, g)
  | .usage _ g => some (1, g)
  | .output _ _ g _ => some (2, g)
  | .exited command .. =>
    some (3, "Check that " ++ Text.quote (" ".intercalate command) ++ " works when run by hand")
  | .undecodable .. => some (4, "The utility must print its help as UTF-8 text")
  | .badFileEntry _ =>
    some (5, "Separate each files entry path from its description with a tab, one entry per line")
  | .noCommand => some (6, "Name the utility to document, for example: genman widget")
  | .notFound _ => some (7, "Verify the utility is installed and on your PATH")
  | _ => none

/-- The best advice among a list of causes: the lowest place, the first of equals. -/
def bestAdvice : List Failure → Option (Nat × String)
  | [] => none
  | e :: es =>
    match advice e, bestAdvice es with
    | some a, some b => if b.1 < a.1 then some b else some a
    | some a, none => some a
    | none, b => b

/-- How to recover from the failure, or the empty text. -/
def guidance (e : Failure) : String := ((bestAdvice e.chain).map Prod.snd).getD ""

/-- The message and the advice, as the command line prints them. -/
def enhanced (e : Failure) : String :=
  let g := e.guidance
  "Error: " ++ e.message ++ (if g.isEmpty then "" else "\nHelp: " ++ g)

end Failure

end HelpMan
