import HelpMan.Cli.Manual
import HelpMan.Workspace

/-!
# Writing the program's own man page

`writeManual` writes the program's man page into a file, replacing it; the page is that
of the commands present in every run (`Tree` without `completion`).

`manualTool` is a small program of its own: with `-o file` (or `--output file`) it writes
the page into the file and says so on standard output, or reports why it could not on
standard error and fails; without it, it prints the page. A command line that does
not read fails with status 2.
-/

namespace HelpMan.Cli

/-- The commands that the program's man page describes. -/
def manualTree : Tree := ⟨false⟩

/-- Writes the program's man page into a file. -/
def writeManual (ws : Workspace) (path : String) (now : Clock.Reading) : Except String Workspace :=
  ws.write path (manualPage manualTree now)

/-- What the man page tool gives: its outputs, its exit status and the working directory
after it. -/
structure ToolRun where
  stdout : String
  stderr : String
  exitCode : Nat
  workspace : Workspace

/-- The flag of the man page tool. -/
def manualToolFlags : List Flag := [⟨"output", some 'o', .text, "output file for man page (default: stdout)"⟩]

/-- Runs the man page tool on a command line. -/
def manualTool (args : List String) (ws : Workspace) (now : Clock.Reading) : ToolRun :=
  match Flag.parse manualToolFlags args with
  | .error e => ⟨"", e.message ++ "\n", 2, ws⟩
  | .ok g =>
    let output := g.text "output"
    if output.isEmpty then ⟨manualPage manualTree now, "", 0, ws⟩
    else
      match writeManual ws output now with
      | .ok ws => ⟨"Man page written to " ++ output ++ "\n", "", 0, ws⟩
      | .error why => ⟨"", "Error writing man page to file: " ++ why ++ "\n", 1, ws⟩

end HelpMan.Cli
