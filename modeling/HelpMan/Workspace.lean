import HelpMan.Text.Lines
import HelpMan.Text.Utf8

/-!
# The file system

A run sees a file system: the directories, devices and files of the system, and among
them its working directory, which paths and messages name `$DIR`. A place is a
`Location`, the names from the root down to it.

A path is followed name by name from where it starts: the root for a path that starts
with `/`, the working directory for one that starts with `$DIR`, and the current
directory otherwise (`Workspace.find`). `.` stays, `..` goes up (and stays at the root),
empty names between slashes are passed over. Every name but the last must be a
directory that exists: a missing one fails with "no such file or directory", a file with
"not a directory". A path that ends with `/` names a directory only. The last name may be
missing, and then the path names a free place in an existing directory.

The operations follow the rules of the system: reading a directory fails with "is a
directory", creating a file at a path that ends with `/` fails so too, making a
directory where something stands fails with "file exists", and removing a directory
that holds something fails with "directory not empty". A device such as `/dev/null`
reads as nothing and takes any writing. Files hold bytes.

A symbolic link holds a path. Following a path, a link on the way is replaced by the
names of its path, from the root or from the link's directory, as often as links lead
on, up to a bound that ends a loop of links; `linkAt?` finds the link a path names
itself, for what acts on the link and not on what it leads to.

Every place has a mode, the one `chmod` set or a default by its kind, and the time it
last changed. The run keeps a clock that every change moves on by a millisecond, so that
what changed later is newer; a new or removed entry changes its directory too. What the
run was given changed a second before it started, the system's own a day before.
-/

namespace HelpMan

/-- A place in the file system: the names of the directories from the root down to it,
and its own name last. -/
abbrev Location := List String

/-- What stands at a place. -/
inductive Kind where
  | file
  | dir
  /-- A device: reading it gives nothing, and it takes any writing. -/
  | device
  deriving DecidableEq, Repr

/-- Why an operation on a path fails. -/
inductive Fault where
  | noEntry
  | notDir
  | isDir
  | alreadyExists
  | notEmpty
  | denied
  | invalid
  /-- A descriptor that is not open, such as a closed standard input. -/
  | badDescriptor
  /-- Symbolic links that lead to each other without end. -/
  | loop
  /-- The root, which is in use and cannot be removed. -/
  | busy
  deriving DecidableEq, Repr

/-- The message of a fault, as the C library words it. -/
def Fault.reason : Fault → String
  | .noEntry => "No such file or directory"
  | .notDir => "Not a directory"
  | .isDir => "Is a directory"
  | .alreadyExists => "File exists"
  | .notEmpty => "Directory not empty"
  | .denied => "Permission denied"
  | .invalid => "Invalid argument"
  | .badDescriptor => "Bad file descriptor"
  | .loop => "Too many levels of symbolic links"
  | .busy => "Device or resource busy"

/-- The message of a fault with a small first letter, as error values word it. -/
def Fault.text (f : Fault) : String :=
  match f.reason.toList with
  | c :: cs => String.ofList (c.toLower :: cs)
  | [] => ""

/-- Where a path leads. -/
inductive Found where
  /-- Something of a kind stands at the location. -/
  | present (loc : Location) (kind : Kind)
  /-- Nothing stands at the location, and its parent is a directory; `asDir` when the
  path ends with `/`, so that only a directory may stand there. -/
  | absent (loc : Location) (asDir : Bool)
  /-- The path cannot be followed. -/
  | blocked (f : Fault)
  deriving DecidableEq, Repr

/-- Why what a path leads to cannot be used when something must stand there: the fault
on the way, or that nothing stands there. -/
def Found.reason : Found → String
  | .blocked f => f.reason
  | _ => Fault.noEntry.reason

/-- The files and directories that a run made or was given; the system's own stand
beside them. -/
structure Workspace where
  /-- The regular files, by location, with their bytes. -/
  files : List (Location × List UInt8)
  /-- The directories made. -/
  dirs : List Location
  /-- The files that may be run as programs. -/
  executables : List Location
  /-- The symbolic links made, each with the path it leads to. -/
  links : List (Location × String) := []
  /-- The modes that were set, by location: the bits of permission, and `0o1000` for the
  bit that keeps others from removing what a directory holds. -/
  modes : List (Location × Nat) := []
  /-- The time each place last changed during the run, in nanoseconds since 1970. -/
  times : List (Location × Int) := []
  /-- How long the run has gone on, in nanoseconds. -/
  clock : Nat := 0
  /-- How much of that time programs spent sleeping, in nanoseconds. -/
  slept : Nat := 0
  deriving Repr

namespace Workspace

/-- The location of the working directory. -/
def home : Location := ["tmp", "$DIR"]

/-- The programs of the system, each in `/usr/bin` and in `/bin`. -/
def systemPrograms : List String :=
  ["[", "basename", "bash", "cat", "chmod", "cp", "dash", "dirname", "echo", "env", "false", "head", "kill", "ln",
   "ls", "mkdir", "mv", "od", "printenv", "printf", "pwd", "rm", "rmdir", "seq", "sh", "sleep", "tail", "tee",
   "test", "touch", "tr", "true", "wc"]

/-- The directories that hold the programs of the system. -/
def programDirs : List Location := [["usr", "bin"], ["bin"]]

/-- The directories of the system. -/
def systemDirs : List Location :=
  [[], ["bin"], ["boot"], ["dev"], ["etc"], ["home"], ["lib"], ["lib64"], ["media"], ["mnt"], ["opt"], ["proc"],
   ["root"], ["run"], ["sbin"], ["srv"], ["sys"], ["tmp"], ["usr"], ["var"], ["usr", "bin"], ["usr", "lib"],
   ["usr", "local"], ["usr", "sbin"], ["usr", "share"], home]

/-- The devices of the system. -/
def devices : List Location :=
  [["dev", "null"], ["dev", "zero"], ["dev", "full"], ["dev", "random"], ["dev", "urandom"], ["dev", "tty"]]

/-- The files of the system besides its programs, with their bytes. -/
def systemFiles : List (Location × List UInt8) :=
  [(["etc", "passwd"], "root:x:0:0:root:/root:/bin/bash\n".toUTF8.toList),
   (["etc", "group"], "root:x:0:\n".toUTF8.toList),
   (["etc", "hostname"], "localhost\n".toUTF8.toList)]

/-- Whether a location is a program of the system. -/
def isSystemProgram (loc : Location) : Bool :=
  programDirs.contains loc.dropLast && match loc.getLast? with
    | some n => systemPrograms.contains n
    | none => false

/-- How a location is written: from `$DIR` inside the working directory, from `/`
elsewhere. -/
def showLocation (loc : Location) : String :=
  if home.isPrefixOf loc then "/".intercalate ("$DIR" :: loc.drop home.length) else "/" ++ "/".intercalate loc

/-- The bytes of the file at a location, empty for anything else. -/
def contentAt (ws : Workspace) (loc : Location) : List UInt8 :=
  match ws.files.lookup loc with
  | some c => c
  | none => (systemFiles.lookup loc).getD []

/-- What stands at a location, symbolic links aside: a device, a file, a directory of the
system, a directory made, or a directory that holds something made. -/
def baseKind (ws : Workspace) (loc : Location) : Option Kind :=
  if devices.contains loc then some .device
  else if (ws.files.lookup loc).isSome || (systemFiles.lookup loc).isSome || isSystemProgram loc then some .file
  else if systemDirs.contains loc || ws.dirs.any (loc.isPrefixOf ·) ||
      ws.files.any (fun (f, _) => loc.length < f.length && loc.isPrefixOf f) then some .dir
  else none

/-- Where a path starts from the directory `cwd`, and its names after that. -/
def startOf (cwd : Location) (path : String) : Location × List String :=
  match (Text.splitOn '/' path.toList).map String.ofList with
  | "" :: rest => ([], rest)
  | "$DIR" :: rest => (home, rest)
  | names => (cwd, names)

/-- Follows the names of a path from a directory; a symbolic link on the way is replaced
by the names of the path it leads to, from the root or from the link's directory. The
fuel bounds the names followed, so that links that lead to each other end in `loop`. -/
def walkFrom (ws : Workspace) : Nat → Location → List String → Found
  | _, loc, [] => .present loc .dir
  | 0, _, _ :: _ => .blocked .loop
  | fuel + 1, loc, name :: rest =>
    if name = "" || name = "." then walkFrom ws fuel loc rest
    else
      let next := if name = ".." then loc.dropLast else loc ++ [name]
      match ws.links.lookup next with
      | some target =>
        let (start, names) := startOf loc target
        walkFrom ws fuel start (names ++ rest)
      | none =>
        match ws.baseKind next with
        | some .dir => walkFrom ws fuel next rest
        | some k => if rest.isEmpty then .present next k else .blocked .notDir
        | none => if rest.any (· ≠ "") then .blocked .noEntry else .absent next (!rest.isEmpty)

/-- The fuel a walk of some names is given: enough for them and for forty links. -/
def walkFuel (names : List String) : Nat := names.length + 40 * 64

/-- Follows the names of a path from a directory. -/
def walk (ws : Workspace) (loc : Location) (names : List String) : Found :=
  ws.walkFrom (walkFuel names) loc names

/-- What stands at a location, a symbolic link followed to what it leads to. -/
def kindAt (ws : Workspace) (loc : Location) : Option Kind :=
  match ws.links.lookup loc with
  | some _ =>
    match ws.walk loc.dropLast [loc.getLast?.getD ""] with
    | .present _ k => some k
    | _ => none
  | none => ws.baseKind loc

/-- Where a path leads from the directory `cwd`. -/
def find (ws : Workspace) (cwd : Location) (path : String) : Found :=
  if path.isEmpty then .blocked .noEntry
  else
    let (start, names) := startOf cwd path
    ws.walk start names

/-- The location of the symbolic link that a path names from `cwd`, if it names one: the
last name of the path is not followed, unless a `/` comes after it. -/
def linkAt? (ws : Workspace) (cwd : Location) (path : String) : Option Location :=
  let (start, names) := startOf cwd path
  match names.reverse with
  | last :: before =>
    if last = "" || last = "." || last = ".." then none
    else
      match ws.walk start before.reverse with
      | .present dir .dir => if (ws.links.lookup (dir ++ [last])).isSome then some (dir ++ [last]) else none
      | _ => none
  | [] => none

/-- The kind of what a path names from `cwd`, if it names something. -/
def kindOf? (ws : Workspace) (cwd : Location) (path : String) : Option Kind :=
  match ws.find cwd path with
  | .present _ k => some k
  | _ => none

/-- The bytes of the file a path names from `cwd`; a device gives none. -/
def readAt (ws : Workspace) (cwd : Location) (path : String) : Except Fault (List UInt8) :=
  match ws.find cwd path with
  | .present loc .file => .ok (ws.contentAt loc)
  | .present _ .device => .ok []
  | .present _ .dir => .error .isDir
  | .absent .. => .error .noEntry
  | .blocked f => .error f

/-- The location a path names from `cwd` when it is opened to be written, creating a file
if none is there; `none` for a device, which swallows what is written. -/
def openAt (ws : Workspace) (cwd : Location) (path : String) : Except Fault (Option Location) :=
  match ws.find cwd path with
  | .present loc .file => .ok (some loc)
  | .present _ .device => .ok none
  | .present _ .dir => .error .isDir
  | .absent loc asDir => if asDir then .error .isDir else .ok (some loc)
  | .blocked f => .error f

/-- The moment a run starts, in nanoseconds since 1970: 2026-01-01 00:00:00. -/
def startTime : Int := 1767225600000000000

/-- The present moment of a run. -/
def now (ws : Workspace) : Int := startTime + ws.clock

/-- The time of the last change of what stands at a location: the time the run gave it,
or else a second before the run for what the run was given and a day before it for the
system's own. -/
def timeAt (ws : Workspace) (loc : Location) : Int :=
  match ws.times.lookup loc with
  | some t => t
  | none => if home.isPrefixOf loc then startTime - 1000000000 else startTime - 86400000000000

/-- The workspace with the time of a location set. -/
def setTime (ws : Workspace) (loc : Location) (t : Int) : Workspace :=
  { ws with times := (loc, t) :: ws.times.filter (·.1 != loc) }

/-- The workspace with the locations changed now, and its clock a millisecond on, the
time a change takes. -/
def stamp (ws : Workspace) (locs : List Location) : Workspace :=
  let t := ws.now
  { locs.foldl (fun ws l => ws.setTime l t) ws with clock := ws.clock + 1000000 }

/-- The workspace after waiting some nanoseconds. -/
def wait (ws : Workspace) (ns : Nat) : Workspace := { ws with clock := ws.clock + ns, slept := ws.slept + ns }

/-- The working directory with the file at a location holding the given bytes; a file
that is new changes its directory too. -/
def put (ws : Workspace) (loc : Location) (bs : List UInt8) : Workspace :=
  let fresh := (ws.files.lookup loc).isNone
  let ws' : Workspace := { ws with files := ws.files.filter (fun (l, _) => l != loc) ++ [(loc, bs)] }
  ws'.stamp (loc :: if fresh then [loc.dropLast] else [])

/-- Writes bytes to the file a path names from `cwd`, replacing its content, or adding to
it when `append`. -/
def writeAt (ws : Workspace) (cwd : Location) (path : String) (bs : List UInt8) (append : Bool) :
    Except Fault Workspace := do
  match ← ws.openAt cwd path with
  | some loc => return ws.put loc ((if append then ws.contentAt loc else []) ++ bs)
  | none => return ws

/-- The workspace with a directory made at a location. -/
def addDir (ws : Workspace) (loc : Location) : Workspace :=
  { ws with dirs := ws.dirs ++ [loc] }.stamp [loc, loc.dropLast]

/-- The workspace with a symbolic link made at a location, leading to a path. -/
def addLink (ws : Workspace) (loc : Location) (target : String) : Workspace :=
  let ws' : Workspace := { ws with links := ws.links.filter (fun (l, _) => l != loc) ++ [(loc, target)] }
  ws'.stamp [loc, loc.dropLast]

/-- Makes a directory at a path from `cwd`. -/
def makeDirAt (ws : Workspace) (cwd : Location) (path : String) : Except Fault Workspace :=
  match ws.find cwd path with
  | .present .. => .error .alreadyExists
  | .absent loc _ => .ok (ws.addDir loc)
  | .blocked f => .error f

/-- The names in a directory, each once, in the order of their bytes. -/
def namesIn (ws : Workspace) (dir : Location) : List String :=
  let below (l : Location) : Option String := if dir.isPrefixOf l then l[dir.length]? else none
  let all := (ws.files.map Prod.fst ++ ws.dirs ++ ws.links.map Prod.fst ++ systemDirs ++ devices ++ systemFiles.map Prod.fst ++
    programDirs.flatMap fun d => systemPrograms.map (d ++ [·])).filterMap below
  all.eraseDups.mergeSort fun a b => !(b < a)

/-- The working directory without what stands at a location and below it; its directory
changes. -/
def erase (ws : Workspace) (loc : Location) : Workspace :=
  let kept (l : Location) : Bool := !loc.isPrefixOf l
  { ws with files := ws.files.filter (kept ·.1), dirs := ws.dirs.filter kept, executables := ws.executables.filter kept,
            links := ws.links.filter (kept ·.1), modes := ws.modes.filter (kept ·.1),
            times := ws.times.filter (kept ·.1) }.stamp [loc.dropLast]

/-- Removes the file (not a directory) that a path names from `cwd`; a symbolic link goes
itself, not what it leads to. -/
def unlinkAt (ws : Workspace) (cwd : Location) (path : String) : Except Fault Workspace :=
  match ws.linkAt? cwd path, ws.find cwd path with
  | some loc, _ => .ok (ws.erase loc)
  | none, found =>
  match found with
  | .present loc .file => .ok (ws.erase loc)
  | .present _ .dir => .error .isDir
  | .present _ .device => .error .denied
  | .absent .. => .error .noEntry
  | .blocked f => .error f

/-- Removes the empty directory that a path names from `cwd`. -/
def removeDirAt (ws : Workspace) (cwd : Location) (path : String) : Except Fault Workspace :=
  let last := ((Text.splitOn '/' path.toList).map String.ofList).reverse.find? (· ≠ "")
  if last == some "." then .error .invalid
  else if (ws.linkAt? cwd path).isSome then .error .notDir
  else
    match ws.find cwd path with
    | .present loc .dir =>
      if loc.isEmpty then .error .busy
      else if !(ws.namesIn loc).isEmpty then .error .notEmpty
      else if systemDirs.contains loc then .error .denied
      else .ok (ws.erase loc)
    | .present .. => .error .notDir
    | .absent .. => .error .noEntry
    | .blocked f => .error f

/-- The mode of what stands at a location: the mode set on it, or else `0o755` for a
directory or a program, `0o1777` for `/tmp`, `0o700` for the working directory, `0o666`
for a device and `0o644` for a file. -/
def modeAt (ws : Workspace) (loc : Location) : Nat :=
  match ws.modes.lookup loc with
  | some m => m
  | none =>
    if loc == ["tmp"] then 0o1777
    else if loc == home then 0o700
    else
      match ws.kindAt loc with
      | some .dir => 0o755
      | some .device => 0o666
      | _ => if ws.executables.contains loc || isSystemProgram loc then 0o755 else 0o644

/-- The workspace with the mode of a location set. -/
def setMode (ws : Workspace) (loc : Location) (m : Nat) : Workspace :=
  { ws with modes := (loc, m) :: ws.modes.filter (·.1 != loc) }

/-- The workspace with an empty file made at a location where none was, by a process
whose mask of new files is `mask`: its mode is `0o666` without the bits of the mask. -/
def createFile (ws : Workspace) (loc : Location) (mask : Nat) : Workspace :=
  if (ws.files.lookup loc).isSome then ws
  else
    let m := 0o666 &&& (0o7777 ^^^ mask)
    if m != 0o644 then (ws.put loc []).setMode loc m else ws.put loc []

/-- The workspace with a new directory's mode set as a process whose mask of new files
is `mask` makes it: `0o777` without the bits of the mask. -/
def maskDir (ws : Workspace) (loc : Location) (mask : Nat) : Workspace :=
  let m := 0o777 &&& (0o7777 ^^^ mask)
  if m != 0o755 then ws.setMode loc m else ws

/-- Whether a location holds a file that may be run as a program. -/
def isExecutableAt (ws : Workspace) (loc : Location) : Bool :=
  ws.modeAt loc &&& 0o111 != 0

/-- Whether the directory at a location keeps others from removing what it holds. -/
def isStickyAt (ws : Workspace) (loc : Location) : Bool :=
  ws.modeAt loc &&& 0o1000 != 0

/-- The workspace with what stands at `src`, and all below it, moved to `dst`, where
nothing stands: it keeps its modes and times, and the directories of both change. -/
def relocate (ws : Workspace) (src dst : Location) : Workspace :=
  let move (l : Location) : Location := if src.isPrefixOf l then dst ++ l.drop src.length else l
  let moved : Workspace :=
    { ws with files := ws.files.map (fun (l, c) => (move l, c)),
              dirs := ws.dirs.map move ++ (if ws.baseKind src == some .dir && !ws.dirs.contains src then [dst] else []),
              executables := ws.executables.map move, links := ws.links.map (fun (l, t) => (move l, t)),
              modes := ws.modes.map (fun (l, m) => (move l, m)) ++
                (if (ws.modes.lookup src).isNone then [(dst, ws.modeAt src)] else []),
              times := ws.times.map (fun (l, t) => (move l, t)) ++
                (if (ws.times.lookup src).isNone then [(dst, ws.timeAt src)] else []) }
  moved.stamp [src.dropLast, dst.dropLast]

/-- The location of a path relative to the working directory, as requests give them. -/
def inHome (path : String) : Location :=
  home ++ ((Text.splitOn '/' path.toList).map String.ofList).filter (· ≠ "")

/-- A working directory with files, directories and programs given by paths relative to it;
files are given as text. -/
def prepare (files : List (String × String)) (dirs : List String) (programs : List String) : Workspace :=
  { files := files.map (fun (p, c) => (inHome p, c.toUTF8.toList)), dirs := dirs.map inHome,
    executables := programs.map inHome }

/-- Reads a file as text, as a program of this library does: the message of the failure
names the path as it was given. -/
def read (ws : Workspace) (path : String) : Except String String :=
  match ws.readAt home path with
  | .ok bs => .ok (String.ofList (Text.decodeLossy bs))
  | .error .isDir => .error ("read " ++ path ++ ": is a directory")
  | .error f => .error ("open " ++ path ++ ": " ++ f.text)

/-- Writes a text into a file, creating it or replacing its content. -/
def write (ws : Workspace) (path content : String) : Except String Workspace :=
  match ws.writeAt home path content.toUTF8.toList false with
  | .ok ws => .ok ws
  | .error f => .error ("open " ++ path ++ ": " ++ f.text)

/-- Whether a path names something that exists. -/
def exists? (ws : Workspace) (path : String) : Bool := (ws.kindOf? home path).isSome

/-- The files of the working directory that are new in `after` or whose bytes differ from
`before`, by path relative to it. -/
def changes (before after : Workspace) : List (String × List UInt8) :=
  after.files.filterMap fun (loc, c) =>
    if home.isPrefixOf loc && before.files.lookup loc != some c then
      some ("/".intercalate (loc.drop home.length), c)
    else none

example : (prepare [("a/b.txt", "x")] [] []).kindOf? home "a" = some .dir ∧
    (prepare [] [] []).find home "nodir/../m.1" = .blocked .noEntry ∧
    (prepare [("c.yaml", "")] [] []).find home "c.yaml/" = .blocked .notDir ∧
    (match (prepare [] [] []).openAt home "x/" with
      | .error .isDir => true
      | _ => false) = true ∧
    ((prepare [] [] []).openAt home "/dev/null").toOption = some none := by
  decide +kernel

end Workspace

/-- The environment of a run: variables and their values. An unset variable reads as
empty. -/
structure Environment where
  vars : List (String × String)
  deriving Repr

/-- The value of a variable, empty if it is not set. -/
def Environment.get (env : Environment) (name : String) : String :=
  ((env.vars.reverse.find? (·.1 == name)).map Prod.snd).getD ""

end HelpMan
