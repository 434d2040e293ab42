import HelpMan.Failure
import HelpMan.Settings.Decode
import HelpMan.Text.Lower
import HelpMan.Workspace

/-!
# Loading settings

A settings file is read from the workspace and decoded by its extension: `.yaml` and
`.yml`, in any case, are YAML, and any other extension is refused (`readFile`).

`load` takes the file a path names, if one is named, and fails if it cannot be read.
`loadDefault` takes the file that `GENMAN_CONFIG` names, if it is set, and fails the same
way; otherwise it takes the first of the default paths that exists and reads, skipping
those that exist but do not read. Both then lay the environment variables over the
result (`Settings.ofEnvironment`).

On Linux the default path is `genman/config.yaml` under `XDG_CONFIG_HOME`, or under
`.config` in the home directory when that is not set (`defaultPaths`). Paths are joined with
`/` and written plainly, without `.` components, repeated `/` or a `..` after a component
(`joinPath`, `cleanPath`).
-/

namespace HelpMan.Settings

/-- The extension of a path: from the last `.` of its last component, or empty. -/
def extension (path : String) : String :=
  let last := (path.toList.reverse.takeWhile (· ≠ '/')).reverse
  if last.contains '.' then String.ofList ('.' :: (last.reverse.takeWhile (· ≠ '.')).reverse) else ""

/-- Reads a settings file. -/
def readFile (ws : Workspace) (path : String) : Except Failure Settings :=
  match ws.read path with
  | .error why => .error (.wrap "failed to read config file" (.plain why))
  | .ok data =>
    let ext := Text.lowerText (extension path)
    if ext == ".yaml" || ext == ".yml" then
      match ofYaml data with
      | .ok s => .ok s
      | .error (.reported m) => .error (.wrap "failed to parse YAML config" (.plain m))
      | .error (.fault m) => .error (.fault m)
    else .error (.plain ("unsupported config file format: " ++ ext ++ " (only YAML is supported)"))

/-- The settings of the defaults, the file a path names (if any), and the environment. -/
def load (ws : Workspace) (env : Environment) (path : String) : Except Failure Settings := do
  let file ← if path.isEmpty then pure empty else
    match readFile ws path with
    | .ok s => pure s
    | .error e => throw (e.within "failed to load config file")
  return (defaults.overlay file).overlay (ofEnvironment env.get)

/-- One component of a path read onto the components kept so far, the last one first: an
empty component and `.` are dropped, and `..` removes the component before it; a `..` with
nothing before it is kept, or dropped at the root. -/
def pushComponent (rooted : Bool) (kept : List String) (c : String) : List String :=
  if c = "" ∨ c = "." then kept
  else if c = ".." then
    match kept with
    | [] => if rooted then [] else [".."]
    | k :: rest => if k = ".." then ".." :: kept else rest
  else c :: kept

/-- A path written plainly: one `/` between components, no `.` components, and each `..`
taking away the component before it. A path that keeps nothing is `/` at the root and `.`
elsewhere. -/
def cleanPath (path : String) : String :=
  let rooted := path.startsWith "/"
  let kept := ((Text.splitOn '/' path.toList).map String.ofList).foldl (pushComponent rooted) []
  let body := "/".intercalate kept.reverse
  if rooted then "/" ++ body else if body.isEmpty then "." else body

/-- Joins path components: the non-empty ones with `/` between them, written plainly
(`cleanPath`); the empty path when every component is empty. -/
def joinPath (parts : List String) : String :=
  match parts.filter (· ≠ "") with
  | [] => ""
  | ps => cleanPath ("/".intercalate ps)

/-- The default paths of the settings file: under `XDG_CONFIG_HOME`, else under the home
directory's `.config`; none when neither is set. -/
def defaultPaths (env : Environment) : List String :=
  let xdg := env.get "XDG_CONFIG_HOME"
  let dir := if xdg.isEmpty then (let home := env.get "HOME"; if home.isEmpty then "" else joinPath [home, ".config"])
    else xdg
  if dir.isEmpty then [] else [joinPath [dir, "genman", "config.yaml"]]

/-- The first of the paths that exists and reads; a fault while reading one stops the
search. -/
def firstReadable (ws : Workspace) : List String → Except Failure Settings
  | [] => .ok empty
  | p :: ps =>
    if !ws.exists? p then firstReadable ws ps
    else
      match readFile ws p with
      | .ok s => .ok s
      | .error (.fault m) => .error (.fault m)
      | .error _ => firstReadable ws ps

/-- The settings of the defaults, the file that `GENMAN_CONFIG` names or else the first
default path that reads, and the environment. -/
def loadDefault (ws : Workspace) (env : Environment) (paths : List String) : Except Failure Settings := do
  let named := env.get "GENMAN_CONFIG"
  let file ← if named.isEmpty then firstReadable ws paths else
    match readFile ws named with
    | .ok s => pure s
    | .error e => throw (e.within "failed to load config from GENMAN_CONFIG path")
  return (defaults.overlay file).overlay (ofEnvironment env.get)

end HelpMan.Settings
