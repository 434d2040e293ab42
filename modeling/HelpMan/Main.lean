import HelpMan.Cli.Run

/-!
# The command line

`main` runs the program on its arguments. It reads the variables of the environment
that a run looks at, and the files of the working directory that the run may read: the
files that the arguments and `GENMAN_CONFIG` name, which may be settings or scripts to
run. It prints what the run prints, writes the files the run wrote, and exits with the
run's status. Pages are dated by `SOURCE_DATE_EPOCH` when it is set.
-/

open HelpMan

/-- The variables of the environment that a run reads. -/
def readVariables : List String :=
  ["PATH", "HOME", "XDG_CONFIG_HOME", "GENMAN_CONFIG", "GENMAN_LOG_LEVEL", "GENMAN_VERSION", "GENMAN_TITLE"]

/-- The content of a file, if it reads. -/
def readIfAny (path : String) : IO (Option (String × String)) := do
  try
    return some (path, ← IO.FS.readFile path)
  catch _ =>
    return none

/-- The paths a run may read: the arguments, their values after `=`, and the settings
file of the environment. -/
def candidatePaths (args : List String) (named : String) : List String :=
  let values := args.map fun a => String.ofList ((a.toList.dropWhile (· ≠ '=')).drop 1)
  ((named :: args ++ values).filter fun p => !p.isEmpty && !p.startsWith "-" && !p.startsWith "/").eraseDups

/-- Runs the program. -/
def main (args : List String) : IO UInt32 := do
  let env ← readVariables.filterMapM fun n => do
    return (← IO.getEnv n).map (n, ·)
  let named := ((env.find? (·.1 == "GENMAN_CONFIG")).map Prod.snd).getD ""
  let files ← (candidatePaths args named).filterMapM readIfAny
  let ws := Workspace.prepare files [] (files.map Prod.fst)
  let epoch := (((← IO.getEnv "SOURCE_DATE_EPOCH").bind String.toInt?).getD 0)
  let now := Clock.Reading.ofSeconds epoch "0s"
  let world : Cli.World := ⟨⟨ws, env, false, false⟩, []⟩
  let runner : Utility.Runner Cli.World := fun c a w =>
    let (r, host) := Utility.Host.run c a w.host
    (r, { w with host := host })
  let o := Cli.execute ⟨args, now, false, ⟨true⟩, runner⟩ world
  IO.print o.stdout
  IO.eprint (o.stderr ++ Cli.failureReport o)
  for (path, content) in Workspace.changes ws o.world.host.workspace do
    IO.FS.writeBinFile path (ByteArray.mk content.toArray)
  return o.exitCode.toUInt32
