import HelpMan.Tools.Files

/-!
# `rm`: removing files and trees of directories

`rm` reads its arguments in order (`RemoveRequest.read`), acting on each option as it
comes: the last of `-f`, `-i`, `-I` and `--interactive` decides whether it asks before
each removal (`Asking.always`), never, or once before it starts (`-I`, when it removes
recursively or more than three operands). A bad option ends it before it removes
anything.

It then takes the operands one after the other (`Progress.operand`). A directory is
refused unless `-r`, or `-d` and it is empty; `.` and `..` are refused, and so is `/`
under `-r` unless `--no-preserve-root`. What a directory holds goes first, in the order of
the names (`Progress.visit`), and the directory after it. A directory is kept, without a
word, when something below it could not be removed or the answer was no to going into
it; an answer of no to removing a file in it leaves it to fail as not empty.

Answers are lines of standard input, yes when they start with `y` or `Y`. Standard input
that comes from a regular file is given back past the lines read; from a pipe it goes in
blocks of 4096 bytes (`Progress.unread`).
-/

namespace HelpMan.Tools

/-- When `rm` asks before it removes. -/
inductive Asking where
  /-- Never (`-f`, `--interactive=never`). -/
  | never
  /-- Only about files it may not write, and only when standard input is a terminal,
  which it never is here. -/
  | sometimes
  /-- Before every removal (`-i`). -/
  | always
  deriving DecidableEq, Repr

/-- What the options of `rm` ask for. -/
structure RemoveRequest where
  asking : Asking := .sometimes
  /-- Ask once, before anything, when removing recursively or more than three operands. -/
  askFirst : Bool := false
  /-- Pass over operands that do not exist (`-f`). -/
  ignoreMissing : Bool := false
  recursive : Bool := false
  /-- Remove empty directories too (`-d`). -/
  emptyDirs : Bool := false
  verbose : Bool := false
  /-- Refuse to remove `/` recursively. -/
  keepRoot : Bool := true
  deriving Repr

namespace RemoveRequest

/-- The request after an option letter, or the letter a long option stands for. -/
def set (r : RemoveRequest) : Char → RemoveRequest
  | 'd' => { r with emptyDirs := true }
  | 'f' => { r with asking := .never, ignoreMissing := true, askFirst := false }
  | 'i' => { r with asking := .always, ignoreMissing := false, askFirst := false }
  | 'I' => { r with asking := .sometimes, ignoreMissing := false, askFirst := true }
  | 'r' | 'R' => { r with recursive := true }
  | 'v' => { r with verbose := true }
  | _ => r

/-- The request after `--interactive` with what its word stands for. -/
def interactive (r : RemoveRequest) : String → RemoveRequest
  | "never" => { r with asking := .never, askFirst := false }
  | "once" => { r with asking := .sometimes, ignoreMissing := false, askFirst := true }
  | _ => { r with asking := .always, ignoreMissing := false, askFirst := false }

/-- The words `--interactive` takes, each with what it stands for. -/
def interactiveWords : List (String × String) :=
  [("never", "never"), ("no", "never"), ("none", "never"), ("once", "once"), ("always", "always"),
   ("yes", "always")]

/-- The long options of `rm`, with the letters they stand for; those without a letter of
their own stand for one that `rm` does not take alone. -/
def longs : List LongOption :=
  [⟨"dir", .nothing, 'd'⟩, ⟨"force", .nothing, 'f'⟩, ⟨"interactive", .optional, 'a'⟩,
   ⟨"one-file-system", .nothing, 'x'⟩, ⟨"no-preserve-root", .nothing, 'n'⟩,
   ⟨"preserve-root", .optional, 'p'⟩, ⟨"-presume-input-tty", .nothing, 't'⟩,
   ⟨"recursive", .nothing, 'r'⟩, ⟨"verbose", .nothing, 'v'⟩]

/-- Why reading the arguments of `rm` stopped: an option it does not take, which its
usage follows, or a word it cannot use, which ends it at once. -/
inductive Problem where
  | usage (message : String)
  | fatal (message : String)

/-- The request after a long option, written without its leading `--`. -/
def takeLong (r : RemoveRequest) (text : String) : Except Problem RemoveRequest :=
  match Options.long "rm" longs text [] with
  | .error e => .error (.usage e)
  | .ok ((key, value), _) =>
    match key, value with
    | 'a', none => .ok (r.interactive "always")
    | 'a', some w =>
      match argmatch "rm" "--interactive" interactiveWords w with
      | .ok v => .ok (r.interactive v)
      | .error e => .error (.fatal e)
    | 'n', _ =>
      if String.ofList (text.toList.takeWhile (· != '=')) == "no-preserve-root" then .ok { r with keepRoot := false }
      else .error (.fatal "rm: you may not abbreviate the --no-preserve-root option\n")
    | 'p', none => .ok { r with keepRoot := true }
    | 'p', some "all" => .ok { r with keepRoot := true }
    | 'p', some w => .error (.fatal ("rm: unrecognized --preserve-root argument: " ++ quote w ++ "\n"))
    | c, _ => .ok (r.set c)

/-- Reads the arguments of `rm` in order, options anywhere before `--`: the request and
the operands, or the problem that stopped it. -/
def read : Nat → List String → RemoveRequest → List String → Except Problem (RemoveRequest × List String)
  | 0, args, r, ops => .ok (r, ops ++ args)
  | _ + 1, [], r, ops => .ok (r, ops)
  | fuel + 1, a :: rest, r, ops =>
    if a == "--" then .ok (r, ops ++ rest)
    else
      match a.toList with
      | '-' :: '-' :: cs => do
        let r ← r.takeLong (String.ofList cs)
        read fuel rest r ops
      | '-' :: c :: cs =>
        let (got, _, problem) := Options.clusterSoFar "rm" "dfirvIR".toList (c :: cs) [] []
        let r := got.foldl (fun r g => r.set g.1) r
        match problem with
        | some e => .error (.usage e)
        | none => read fuel rest r ops
      | _ => read fuel rest r (ops ++ [a])

example : (read 3 ["-f", "-i", "x"] {} []).toOption.map (·.1.asking) = some .always := by decide

end RemoveRequest

/-- The hint `rm` gives after a bad option when an argument that looks like an option
names a file: how to remove it. -/
def leadingHyphenHint (cx : Context) (args : List String) : String :=
  match args.find? (fun a => a.startsWith "-" && a.length > 1 && (cx.kindOf? a).isSome) with
  | some a => "Try '" ++ cx.program ++ " ./" ++ quoteIfNeeded a ++ "' to remove the file " ++ quoteAlways a ++ ".\n"
  | none => ""

/-- An operand as the walk shows it: two or more slashes at its end become one. -/
def trimSlashRun (p : String) : String :=
  let cs := p.toList
  let run := (cs.reverse.takeWhile (· == '/')).length
  if 2 < cs.length && 1 < run then String.ofList (cs.take (max 1 (cs.length - (run - 1)))) else p

example : trimSlashRun "d///" = "d/" ∧ trimSlashRun "///" = "/" ∧ trimSlashRun "//" = "//" := by decide

/-- Whether the last name of a path is `.` or `..`. -/
def namesDot (p : String) : Bool :=
  let last := (((Text.splitOn '/' p.toList).map String.ofList).filter (· != "")).getLastD ""
  last == "." || last == ".."

namespace Progress

/-- Asks a question when the request asks before every removal; yes otherwise. -/
def confirm (r : Progress) (rq : RemoveRequest) (question : String) : Bool × Progress :=
  if rq.asking == .always then r.ask question else (true, r)

/-- The name of a kind of file in a question; a symbolic link is named as one. -/
def kindName (ws : Workspace) (loc : Location) (k : Kind) : String :=
  if (ws.links.lookup loc).isSome then "symbolic link"
  else
    match k with
    | .file => if (ws.contentAt loc).isEmpty then "regular empty file" else "regular file"
    | .dir => "directory"
    | .device => "character special file"

/-- Removes the file at a location, shown as `path`, after asking when the request asks. -/
def removeFile (r : Progress) (rq : RemoveRequest) (path : String) (loc : Location) (k : Kind) : Progress :=
  let (go, r) := r.confirm rq ("rm: remove " ++ kindName r.workspace loc k ++ " " ++ quoteAlways path ++ "? ")
  if !go then r
  else
    { r with workspace := r.workspace.erase loc,
             writes := r.writes ++ (if rq.verbose then [(1, bytes ("removed " ++ quoteAlways path ++ "\n"))] else []) }

/-- Removes the directory at a location once it is empty; gives whether the directories
above it must be kept because it could not be removed. -/
def removeDir (r : Progress) (rq : RemoveRequest) (path : String) (loc : Location) : Progress × Bool :=
  if !(r.workspace.namesIn loc).isEmpty then (r.fail ("rm: cannot remove " ++ quoteAlways path ++ ": Directory not empty\n"), true)
  else
    ({ r with workspace := r.workspace.erase loc,
              writes := r.writes ++ (if rq.verbose then [(1, bytes ("removed directory " ++ quoteAlways path ++ "\n"))] else []) },
     false)

/-- Removes what stands at a location, shown as `path`, and when it is a directory all it
holds first, in the order of the names; gives whether the directories above it must be
kept. -/
def visit (rq : RemoveRequest) : Nat → Progress → String → Location → Progress × Bool
  | 0, r, _, _ => (r, true)
  | fuel + 1, r, path, loc =>
    if (r.workspace.links.lookup loc).isSome then (r.removeFile rq path loc .file, false)
    else
    match r.workspace.kindAt loc with
    | some .dir =>
      let empty := (r.workspace.namesIn loc).isEmpty
      let (go, r) := r.confirm rq
        ((if empty then "rm: remove directory " else "rm: descend into directory ") ++ quoteAlways path ++ "? ")
      if !go then (r, true)
      else if rq.asking == .always && empty then r.removeDir rq path loc
      else
        let (r, kept) := (r.workspace.namesIn loc).foldl (fun (acc : Progress × Bool) n =>
          let (r, m) := visit rq fuel acc.1 (joinPath path (Text.utf8Bytes n)) (loc ++ [n])
          (r, acc.2 || m)) (r, false)
        if kept then (r, true)
        else
          let (go, r) := r.confirm rq ("rm: remove directory " ++ quoteAlways path ++ "? ")
          if !go then (r, false) else r.removeDir rq path loc
    | some k => (r.removeFile rq path loc k, false)
    | none => (r, false)

/-- Removes what an operand names: a directory only under `-r`, or `-d` when it is empty,
and never `.`, `..`, or `/` under `-r` unless asked to; what does not exist is passed
over under `-f`. -/
def operand (rq : RemoveRequest) (cwd : Location) (fuel : Nat) (r : Progress) (p : String) : Progress :=
  let shown := trimSlashRun p
  let cannot (why : String) : Progress := r.fail ("rm: cannot remove " ++ quoteAlways shown ++ ": " ++ why ++ "\n")
  match r.workspace.linkAt? cwd (Text.ofByteString p) with
  | some loc => r.removeFile rq shown loc .file
  | none =>
  match r.workspace.find cwd (Text.ofByteString p) with
  | .present loc .dir =>
    if !rq.recursive && !(rq.emptyDirs && (r.workspace.namesIn loc).isEmpty) then
      cannot (if rq.emptyDirs then "Directory not empty" else "Is a directory")
    else if namesDot shown then
      r.fail ("rm: refusing to remove " ++ quoteAlways "." ++ " or " ++ quoteAlways ".." ++ " directory: skipping " ++
        quoteAlways shown ++ "\n")
    else if rq.recursive && rq.keepRoot && loc.isEmpty then
      r.fail ("rm: it is dangerous to operate recursively on " ++ quoteAlways shown ++
        (if shown == "/" then "" else " (same as " ++ quoteAlways "/" ++ ")") ++ "\n" ++
        "rm: use --no-preserve-root to override this failsafe\n")
    else (visit rq fuel r shown loc).1
  | .present loc k => r.removeFile rq shown loc k
  | .absent .. => if rq.ignoreMissing then r else cannot Fault.noEntry.reason
  | .blocked f => if rq.ignoreMissing && (f == .noEntry || f == .notDir) then r else cannot f.reason

end Progress

/-- Runs `rm`. -/
def rm (cx : Context) (args : List String) : Outcome :=
  match RemoveRequest.read (args.length + 1) args {} [] with
  | .error (.usage e) => cx.failWith (e ++ leadingHyphenHint cx args ++ tryHelp "rm") 1
  | .error (.fatal e) => cx.failWith e 1
  | .ok (rq, operands) =>
    if operands.isEmpty then (if rq.ignoreMissing then cx.done [] else cx.missingOperand "rm" 1)
    else
      let start : Progress := { workspace := cx.workspace, left := cx.stdin }
      let n := operands.length
      let (go, r) :=
        if rq.askFirst && (rq.recursive || 3 < n) then
          start.ask ("rm: remove " ++ toString n ++ (if n == 1 then " argument" else " arguments") ++
            (if rq.recursive then " recursively" else "") ++ "? ")
        else (true, start)
      let fuel := cx.workspace.files.length + cx.workspace.dirs.length + 64
      let r := if go then operands.foldl (Progress.operand rq cx.cwd fuel) r else r
      let closed := r.asked && cx.input.isNone
      let note := if closed then "rm: error closing file: Bad file descriptor\n" else ""
      ⟨pieces (r.writes ++ [(2, bytes note)]), if r.failed || closed then 1 else 0, r.workspace, false,
        r.unread cx.stdin cx.inputSize.isSome⟩

end HelpMan.Tools
