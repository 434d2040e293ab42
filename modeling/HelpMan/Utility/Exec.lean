import HelpMan.Shell.Run
import HelpMan.Utility.Invoke

/-!
# Running utilities

`Host.run` starts a program as the operating system does: the name
is found as a path or on the search path (`Shell.findProgram`), and the program runs to
its end. An empty name, a name that is found nowhere, and a program that does not
start, fail with `failed to run <name>: ...`; a program that exits with a status other than zero, or is
killed, fails with its status (`-1` for a signal), its output and its error output.
Otherwise the result is its output.

A program that an interruption stopped is noted in the host (`Host.interrupted`), so
that the caller can say that it was interrupted.
-/

namespace HelpMan.Utility

/-- The host that programs run on: the working directory and the environment,
and whether an interruption is coming or came. -/
structure Host where
  workspace : Workspace
  env : List (String × String)
  /-- Whether an interruption comes once the file `started` exists. -/
  interrupt : Bool
  /-- Whether an interruption stopped a program. -/
  interrupted : Bool

/-- The value of a variable of the environment, empty when it is not set. -/
def Host.var (host : Host) (n : String) : String :=
  ((host.env.find? (·.1 == n)).map Prod.snd).getD ""

/-- Runs a program and gives its output, or why it failed. -/
def Host.run : Runner Host := fun name args sys =>
  if name.isEmpty then (.error (.wrap "failed to run " (.plain "exec: no command")), sys) else
  match Shell.findProgram sys.workspace Workspace.home (sys.var "PATH") name with
  | .error (_, .notFound) => (.error (.wrap ("failed to run " ++ name) (.notFound name)), sys)
  | .error (_, .relative) =>
    (.error (.wrap ("failed to run " ++ name) (.plain ("exec: " ++ Text.quote name ++ ": " ++ Shell.StartError.relative.reason))), sys)
  | .error (path, e) =>
    (.error (.wrap ("failed to run " ++ name) (.plain ("fork/exec " ++ path ++ ": " ++ e.reason))), sys)
  | .ok (path, program) =>
    let r := match program with
      | .script _ content => Shell.run sys.workspace sys.env path args content sys.interrupt
      | .tool t => Shell.runTool sys.workspace sys.env t args sys.interrupt
    let sys := { sys with workspace := r.workspace, interrupted := sys.interrupted || r.ending == .stopped }
    let failed (status : Int) : Failure :=
      .exited (name :: args) status (Shell.textOf r.out) (Shell.textOf r.err)
    match r.ending with
    | .exited 0 => (.ok r.out, sys)
    | .exited n => (.error (failed n), sys)
    | .signaled _ | .stopped => (.error (failed (-1)), sys)

end HelpMan.Utility
