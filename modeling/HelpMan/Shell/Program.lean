import HelpMan.Workspace
import HelpMan.Shell.Syntax

/-!
# Finding programs

A program is named by a path, when the name has a `/`, or else by a bare name that is
looked for in the directories of the search path, in order: the first directory with an
executable file of that name wins (`findProgram`). An empty directory in the search path
is the current one.

Programs are the executable files of the working directory and the programs of the
system (`Workspace.systemPrograms`). A file of the working directory starts when it is
executable and begins with `#!` naming a shell; an executable file without `#!` does not
start ("exec format error"), nor does a directory or a file that is not executable
("permission denied"), nor a path that names nothing ("no such file or directory").
-/

namespace HelpMan.Shell

open Workspace

/-- The interpreters that run a script: the shells of the system, and `env`. -/
def shells : List String :=
  ["/bin/sh", "/usr/bin/sh", "/bin/dash", "/usr/bin/dash", "/bin/bash", "/usr/bin/bash", "/usr/bin/env"]

/-- A program that starts. -/
inductive Program where
  /-- A script: the path it was started by, and its bytes. -/
  | script (path : String) (content : List UInt8)
  /-- A program of the system, by name. -/
  | tool (name : String)
  deriving DecidableEq, Repr

/-- Why a program does not start. -/
inductive StartError where
  /-- No executable file of the name is in the directories of the search path. -/
  | notFound
  | missing
  | notDirectory
  | denied
  | badFormat
  /-- The first executable file of the name on the search path is under a directory
  given by a relative path, which a program that looks names up itself refuses to run. -/
  | relative
  deriving DecidableEq, Repr

/-- The text of the system's error for a program that does not start. -/
def StartError.reason : StartError → String
  | .notFound => "executable file not found in $PATH"
  | .missing => "no such file or directory"
  | .notDirectory => "not a directory"
  | .denied => "permission denied"
  | .badFormat => "exec format error"
  | .relative => "cannot run executable found relative to current directory"

/-- The last component of a path. -/
def baseName (path : String) : String := (path.splitOn "/").getLast?.getD path

/-- The interpreter that the first line of a script names, after `#!`. -/
def interpreter (content : List UInt8) : String :=
  let line := (content.drop 2).takeWhile (· != 10)
  let word := (line.dropWhile (fun b => b == 32 || b == 9)).takeWhile (fun b => b != 32 && b != 9)
  String.ofList (Text.decodeLossy word)

/-- The dialect a script is run in: `bash` when its first line names `bash`, directly or
as the program that `env` starts. -/
def scriptDialect (content : List UInt8) : Dialect :=
  let line := (content.drop 2).takeWhile (· != 10)
  let words := (String.ofList (Text.decodeLossy line)).splitOn " " |>.filter (!·.isEmpty)
  match words with
  | p :: rest =>
    if baseName p == "bash" then .bash
    else if baseName p == "env" && rest.head? == some "bash" then .bash
    else .posix
  | [] => .posix

/-- The path of the shell that a script names on its first line, as that shell knows it:
the path written there, or for `env` and a name, the name as found in `/usr/bin`. -/
def interpreterPath (content : List UInt8) : String :=
  let line := (content.drop 2).takeWhile (· != 10)
  let words := (String.ofList (Text.decodeLossy line)).splitOn " " |>.filter (!·.isEmpty)
  match words with
  | p :: rest => if baseName p == "env" then (rest.head?.map ("/usr/bin/" ++ ·)).getD p else p
  | [] => "/bin/sh"

/-- Starts the program at a path from the directory `cwd`. -/
def startAt (ws : Workspace) (cwd : Location) (path : String) : Except StartError Program :=
  match ws.find cwd path with
  | .present loc .file =>
    if isSystemProgram loc then .ok (.tool (loc.getLast?.getD ""))
    else if !ws.isExecutableAt loc then .error .denied
    else
      let content := ws.contentAt loc
      if content.take 2 == [35, 33] then
        if shells.contains (interpreter content) then .ok (.script path content) else .error .missing
      else .error .badFormat
  | .present .. => .error .denied
  | .blocked .notDir => .error .notDirectory
  | _ => .error .missing

/-- The paths that a search path gives for a name, in order: each directory with the
name after a `/`, and the name alone for an empty directory. -/
def candidates (searchPath : String) (name : String) : List String :=
  (searchPath.splitOn ":").map fun d => if d.isEmpty then name else d ++ "/" ++ name

/-- Whether a path names a file that may be run as a program. -/
def isProgramFile (ws : Workspace) (cwd : Location) (path : String) : Bool :=
  match ws.find cwd path with
  | .present loc .file => ws.isExecutableAt loc
  | _ => false

/-- Where the shell finds a bare name on a search path: the place in the search path and
the path of the first executable regular file of the name. When there is none, `lenient`
takes the first regular file that is not executable, so that running it reports why it
does not start. -/
def shellLookup (ws : Workspace) (cwd : Location) (searchPath : String) (name : String) (lenient : Bool) :
    Option (Nat × String) :=
  let places := (candidates searchPath name).zipIdx
  let pick (ok : String → Bool) : Option (Nat × String) := (places.find? fun (p, _) => ok p).map fun (p, i) => (i, p)
  match pick (isProgramFile ws cwd) with
  | some found => some found
  | none => if lenient then pick fun p => ws.kindOf? cwd p == some .file else none

/-- Whether something of the name, of any kind, stands in a directory of the search path:
a name found there but not as an executable file is refused, not missing. -/
def shellBlocked (ws : Workspace) (cwd : Location) (searchPath : String) (name : String) : Bool :=
  (candidates searchPath name).any fun p => (ws.kindOf? cwd p).isSome

/-- Starts a program that the shell found at a place of the search path: the paths from
there on are tried in order, and the first that starts runs. When none starts, the error
is "permission denied" if one of them was not executable, and otherwise the error of the
first. -/
def shellStart (ws : Workspace) (cwd : Location) (searchPath : String) (name : String) (from_ : Nat) :
    Except (String × StartError) (String × Program) :=
  let tries := ((candidates searchPath name).drop from_).map fun p => (p, startAt ws cwd p)
  match tries.find? (fun (_, r) => r matches .ok _) with
  | some (p, .ok prog) => .ok (p, prog)
  | _ =>
    match tries.find? (fun (_, r) => r matches .error .denied) with
    | some (p, _) => .error (p, .denied)
    | none =>
      match tries.find? (fun (_, r) => !(r matches .error .missing) && !(r matches .error .notDirectory)) with
      | some (p, .error e) => .error (p, e)
      | _ => .error (name, .missing)

/-- The path a bare name is found at in the directories of a search path. -/
def searchFor (ws : Workspace) (cwd : Location) (searchPath : String) (name : String) : Option String :=
  let dirs := (searchPath.splitOn ":").map fun d => if d.isEmpty then "." else d
  (dirs.map (· ++ "/" ++ name)).find? (isProgramFile ws cwd)

/-- Finds and starts a program by name: the path it runs from and the program, or the
path that did not start (the name itself when none was found) and why. A bare name whose
first executable file is under a directory given by a relative path does not start. -/
def findProgram (ws : Workspace) (cwd : Location) (searchPath : String) (name : String) :
    Except (String × StartError) (String × Program) :=
  let path? := if name.contains '/' then some name else searchFor ws cwd searchPath name
  match path? with
  | some path =>
    if !name.contains '/' && !path.startsWith "/" && !path.startsWith "$DIR/" then .error (path, .relative) else
    match startAt ws cwd path with
    | .ok p => .ok (path, p)
    | .error e => .error (path, e)
  | none => .error (name, .notFound)

end HelpMan.Shell
