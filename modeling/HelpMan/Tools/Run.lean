import HelpMan.Tools.Text
import HelpMan.Tools.Dump
import HelpMan.Tools.Files
import HelpMan.Tools.Copy
import HelpMan.Tools.Remove
import HelpMan.Tools.Listing
import HelpMan.Tools.Sequence
import HelpMan.Tools.Print
import HelpMan.Tools.Env
import HelpMan.Tools.Translate
import HelpMan.Tools.Condition
import HelpMan.Tools.Usage

/-!
# The programs of the system, by name

`Tools.run?` runs a program of `/usr/bin` by its name. The shells and `env`, which run
other programs, and `kill`, which acts on processes, are not among them: the shell runs
those itself.
-/

namespace HelpMan.Tools

/-- Runs `test`, or `[` with its closing `]`: status 0 or 1, or 2 with a message. -/
def test (cx : Context) (name : String) (args : List String) : Outcome :=
  let files : Shell.Test.Files :=
    { Shell.Test.Files.ofWorkspace cx.workspace cx.cwd true with
      size := fun p => match cx.readFile p with
        | .ok bs => bs.length
        | .error _ => 0 }
  let args? := if name = "[" then (if args.getLast? == some "]" then some args.dropLast else none) else some args
  match args? with
  | none => cx.failWith ("[: missing " ++ quote "]" ++ "\n") 2
  | some targs =>
    match Condition.status files targs with
    | .ok st => { cx.done [] with status := st }
    | .error m => cx.failWith (name ++ ": " ++ m ++ "\n") 2

/-- The message and status of a program whose writing to its standard output failed. -/
def writeError (name why : String) : String × Nat :=
  match name with
  | "head" | "tail" => (name ++ ": error writing " ++ quoteAlways "standard output" ++ ": " ++ why ++ "\n", 1)
  | "tee" => ("tee: standard output: " ++ why ++ "\n", 1)
  | "ls" => ("ls: write error: " ++ why ++ "\n", 2)
  | _ => (name ++ ": write error: " ++ why ++ "\n", 1)

/-- Runs a program of the system by its own name, with its writes in the order it makes
them; `none` for a name that is not one of them. -/
def runByName? (cx : Context) (name : String) (args : List String) : Option Outcome :=
  match name with
  | "cat" => some (cat cx args)
  | "head" | "tail" => some (cut name cx args)
  | "wc" => some (wc cx args)
  | "tee" => some (tee cx args)
  | "od" => some (od cx args)
  | "ls" => some (ls cx args)
  | "mkdir" => some (mkdir cx args)
  | "rmdir" => some (rmdir cx args)
  | "rm" => some (rm cx args)
  | "touch" => some (touch cx args)
  | "chmod" => some (chmod cx args)
  | "cp" => some (cp cx args)
  | "mv" => some (mv cx args)
  | "ln" => some (ln cx args)
  | "basename" => some (basename cx args)
  | "dirname" => some (dirname cx args)
  | "pwd" => some (pwd cx args)
  | "seq" => some (seq cx args)
  | "sleep" => some (sleep cx args)
  | "echo" => some (echo cx args)
  | "printf" => some (printf cx args)
  | "printenv" => some (printenv cx args)
  | "tr" => some (tr cx args)
  | "test" | "[" => some (test cx name args)
  | "true" => some (cx.done [])
  | "false" => some { cx.done [] with status := 1 }
  | _ => none

/-- The programs that write to standard output as they go, without a buffer. -/
def unbuffered : List String := ["cat", "tee"]

/-- Runs a program of the system by name; `none` for a name that is not one of them. Its
writes are in the order they arrive, and its messages call it as it was invoked; the
arguments may ask for its help instead. -/
def run? (cx : Context) (name : String) (args : List String) : Option Outcome :=
  match helpAsked name cx.program args with
  | some text => some (cx.done (bytes text))
  | none =>
  (runByName? cx name args).map fun o =>
    let o := if unbuffered.contains name then o else { o with writes := buffered o.writes }
    o.calledAs name cx.program

end HelpMan.Tools
