import HelpMan.Shell.Builtin
import HelpMan.Shell.Pattern
import HelpMan.Shell.Arith
import HelpMan.Shell.Program
import HelpMan.Tools.Run
import HelpMan.Shell.Variables
import HelpMan.Shell.Brace
import HelpMan.Shell.Regex
import HelpMan.Shell.Commands

/-!
# Running shell scripts

`Shell.run` runs a script as the shell of the system runs it and gives what it wrote to
its standard output and standard error, the working directory after it, and how it
ended: with an exit status, killed by a signal, or stopped from outside. Everything the
shell handles is a byte string (`Text.byteString`).

The script is read one complete command at a time (`Source.next`), with the aliases
defined so far, and each runs before the next is read; `set -v` writes the lines as they
are read, and after `set -n` nothing more runs. In an and-or list, `&&` runs the next
pipeline when the status so far is zero and `||` when it is not. A pipeline of one
command runs in the shell itself; a longer one runs each command in a copy of the shell
whose changes are dropped, each reading what the one before wrote into its pipe. A
subshell and a command substitution also run in a copy; a group `{ }`, `if`, the loops
and `case` run in the shell itself, with their redirections for the time they run.

A simple command expands its words into fields, then the targets of its redirections,
then its assignments; `set -x` then writes it after the expansion of `PS4`. Its
redirections open in order, and it runs: as a special built-in command, a function, a
built-in command, or a program found on the search path (`shellLookup`, `shellStart`):
a script run by a new shell that sees the exported variables, a file without `#!` run
by a new shell too, or a program of the system (`Tools.run?`). A name that is not found is
reported with the script's name and line, with status 127, and a file that may not be
run with status 126.

Words expand as the shell expands them: a leading `~` stands for the home directory,
expansions outside quotes are split at the characters of `IFS`, `"$@"` gives one field per
positional parameter, a word with quotes always gives a field, and a field with a
pattern character outside quotes becomes the paths it matches, component by component,
in the order of their bytes (unless `set -f`).

An expansion that fails (an unset parameter under `set -u`, `${name?}`, arithmetic that
does not compute, a substitution the shell does not know) ends the shell with status 2;
arithmetic that divides the smallest number by `-1` kills it by the signal of the
processor (8). Under `set -e` a command that fails where its status is not tested ends
the shell with that status.

`kill` with the shell's own process number ends the shell by that signal. `sleep` is
stopped from outside when the run is to be interrupted and the file `started` exists,
because that is when the interruption comes.
-/

namespace HelpMan.Shell

/-! ## Pieces and fields -/

/-- A piece of an expanded word. -/
inductive Piece where
  /-- Text that is not split; `quoted` text begins a field even when empty, and its
  pattern characters stand for themselves. -/
  | text (s : String) (quoted : Bool)
  /-- The value of an expansion outside quotes, split at the characters of `IFS`. -/
  | split (s : String)
  /-- The end of one field and the start of the next, between the parameters of `"$@"`. -/
  | cut
  deriving DecidableEq, Repr

/-- Fields being built: those done, the current one with each character's quoting, and
whether it has begun. -/
structure Fields where
  done : List (List PatternChar)
  current : List PatternChar
  begun : Bool

/-- Adds text that is not split; quoted text begins a field even when empty. -/
def Fields.add (f : Fields) (t : String) (quoted : Bool) : Fields :=
  { f with current := f.current ++ t.toList.map (·, quoted), begun := f.begun || quoted || !t.isEmpty }

/-- Ends the current field. -/
def Fields.cut (f : Fields) : Fields := ⟨f.done ++ [f.current], [], false⟩

/-- Adds characters that are split at the characters of `ifs`. A separator ends the field
even when it is empty, except white space before anything of the field; the separators
after it are skipped (`skipSeparators`). -/
def Fields.splitFrom (ifs : List Char) : Nat → Fields → List Char → Fields
  | 0, f, _ => f
  | _ + 1, f, [] => f
  | fuel + 1, f, c :: cs =>
    if ifs.contains c then
      if !f.begun && isIfsWhite c then Fields.splitFrom ifs fuel f cs
      else Fields.splitFrom ifs fuel f.cut (skipSeparators ifs (isIfsWhite c) cs)
    else Fields.splitFrom ifs fuel { f with current := f.current ++ [(c, false)], begun := true } cs

/-- Adds text that is split at the characters of `ifs`. -/
def Fields.split (ifs : List Char) (f : Fields) (t : String) : Fields :=
  Fields.splitFrom ifs (t.length + 1) f t.toList

/-- The fields when the word ends. -/
def Fields.finish (f : Fields) : List (List PatternChar) := if f.begun then f.done ++ [f.current] else f.done

/-- The fields of pieces, split at the characters of `ifs`, each character with whether it
was quoted. -/
def Piece.fields (ifs : List Char) (ps : List Piece) : List (List PatternChar) :=
  (ps.foldl (fun (f : Fields) p =>
    match p with
    | .text s q => f.add s q
    | .split s => f.split ifs s
    | .cut => f.cut) ⟨[], [], false⟩).finish

/-- The text of pieces as one field; the parameters of `"$@"` are joined by blanks. -/
def Piece.joined (ps : List Piece) : String :=
  String.join (ps.map fun p =>
    match p with
    | .text s _ | .split s => s
    | .cut => " ")

/-- The characters of pieces as a pattern: quoted text stands for itself. -/
def Piece.pattern (ps : List Piece) : List PatternChar :=
  ps.flatMap fun p =>
    match p with
    | .text s q => s.toList.map (·, q)
    | .split s => s.toList.map (·, false)
    | .cut => [(' ', true)]

/-- The pieces of a value: one unsplit text inside quotes, split outside. -/
def valuePieces (s : String) (inQuotes : Bool) : List Piece := if inQuotes then [.text s true] else [.split s]

/-- The pieces of `"$@"`: the positional parameters as fields of their own. -/
def eachPieces : List String → List Piece
  | [] => []
  | a :: rest => .text a true :: rest.flatMap fun b => [.cut, .text b true]

/-- A word with every part quoted, as a word inside double quotes is. -/
def quoteAll (w : Word) : Word :=
  w.map fun p =>
    match p with
    | .plain s => .quoted s .double
    | .param q _ => .param q true
    | .modified q m w _ => .modified q m w true
    | .length q _ => .length q true
    | .command t _ l => .command t true l
    | .arith t _ => .arith t true
    | .quoted s q => .quoted s q
    | .badSubstitution => .badSubstitution
    | .braced t _ => .braced t true
    | .process t r => .process t r
    | .list t => .list t

/-- A text without the line ends at its end. -/
def dropTrailingNewlines (s : String) : String := String.ofList (s.toList.reverse.dropWhile (· = '\n')).reverse

/-- The home directory of the user named after a `~`: the shell's `HOME` for no name,
and the directory of the system's one user, `root`. -/
def Session.homeOf (sh : Session) (name : List Char) : Option String :=
  if name.isEmpty then sh.lookupVar "HOME" else if name == "root".toList then some "/root" else none

/-- Expands the tildes of a text outside quotes (see `Session.tildes`). `eligible` when a
`~` here may start one; `name` holds the name read after a `~`, while one is read; `more`
when the word goes on after this text, so that a name running to its end is cut by
something quoted or expanded, and is kept as written. -/
def Session.tildeText (sh : Session) (afterColons more : Bool) :
    Bool → List Char → Option (List Char) → List Char → Word
  | _, acc, none, [] => if acc.isEmpty then [] else [.plain (String.ofList acc)]
  | _, acc, some n, [] =>
    let kept := acc ++ '~' :: n
    match (if more then none else sh.homeOf n) with
    | some h => (if acc.isEmpty then [] else [.plain (String.ofList acc)]) ++ [.quoted h .escaped]
    | none => [.plain (String.ofList kept)]
  | eligible, acc, some n, c :: cs =>
    if c = '/' || (afterColons && c = ':') then
      match sh.homeOf n with
      | some h =>
        (if acc.isEmpty then [] else [.plain (String.ofList acc)]) ++ .quoted h .escaped ::
          sh.tildeText afterColons more (afterColons && c = ':') [c] none cs
      | none => sh.tildeText afterColons more (afterColons && c = ':') (acc ++ '~' :: n ++ [c]) none cs
    else sh.tildeText afterColons more eligible acc (some (n ++ [c])) cs
  | eligible, acc, none, c :: cs =>
    if eligible && c = '~' then sh.tildeText afterColons more false acc (some []) cs
    else sh.tildeText afterColons more (afterColons && c = ':') (acc ++ [c]) none cs

/-- Expands the tildes of a word: a `~` that starts it, and with `afterColons` (the value
of an assignment) also one after a `:`, stands for the home directory of the user named
by the characters after it, up to a `/`, a `:` with `afterColons`, or the end of the word.
A name that holds something quoted or expanded, or that names no user, is kept as
written. -/
def Session.tildes (sh : Session) (afterColons : Bool) : Bool → Word → Word
  | _, [] => []
  | first, .plain s :: rest =>
    if first || afterColons then sh.tildeText afterColons (!rest.isEmpty) first [] none s.toList ++ sh.tildes afterColons false rest
    else .plain s :: sh.tildes afterColons false rest
  | _, p :: rest => p :: sh.tildes afterColons false rest

/-- The word of a modifier, read from its text: inside quotes as text in double quotes,
and otherwise as a word, with its tildes expanded. -/
def Session.modifierWord (sh : Session) (text : String) (inQuotes : Bool) : Word :=
  if inQuotes then Word.ofQuotedText sh.isBash text else sh.tildes false true (Word.ofText sh.isBash text)

/-! ## Pathname expansion -/

/-- Whether a field has a pattern character outside quotes that no backslash outside
quotes stands before. -/
def hasPattern : List PatternChar → Bool
  | [] => false
  | ('\\', false) :: _ :: rest => hasPattern rest
  | (c, q) :: rest => (!q && (c = '*' || c = '?' || c = '[')) || hasPattern rest

/-- Whether a field holds the start of an extended pattern outside quotes: `+`, `@` or `!`
before a `(`. -/
def hasExtPattern : List PatternChar → Bool
  | [] => false
  | ('\\', false) :: _ :: rest => hasExtPattern rest
  | (c, false) :: ('(', false) :: rest => "+@!".toList.contains c || hasExtPattern rest
  | _ :: rest => hasExtPattern rest

/-- Whether a field is a pattern for the shell: it has a pattern character outside quotes,
or under `shopt -s extglob` an extended pattern. -/
def Session.isPattern (sh : Session) (f : List PatternChar) : Bool :=
  hasPattern f || (sh.extglob && hasExtPattern f)

/-- The characters of a field without its backslashes outside quotes, each of which
stands for the character after it. -/
def unescapePattern : List PatternChar → List Char
  | [] => []
  | ('\\', false) :: (d, _) :: rest => d :: unescapePattern rest
  | (c, _) :: rest => c :: unescapePattern rest

/-- The components of a field between its slashes. -/
def slashParts : List PatternChar → List (List PatternChar)
  | [] => [[]]
  | (c, q) :: rest =>
    match slashParts rest with
    | p :: ps => if c = '/' then [] :: p :: ps else ((c, q) :: p) :: ps
    | [] => [[(c, q)]]

/-- The directories that `**` passes through under `shopt -s globstar`: a directory
itself, then every directory below it, each with the path that leads there after the
text `lead`, neither through a symbolic link nor, unless `dotglob` is on, into a name that
starts with `.`. The fuel bounds the depth. -/
def Session.dirsBelow (sh : Session) : Nat → String → Location → List (String × Location)
  | 0, _, _ => []
  | fuel + 1, lead, dir =>
    let allDotted := sh.shopts.contains "dotglob"
    (lead, dir) :: (sh.namesAt dir).flatMap fun n =>
      let loc := dir ++ [Session.pathText n]
      if (allDotted || !n.startsWith ".") && (sh.workspace.links.lookup loc).isNone &&
          sh.workspace.baseKind loc == some .dir then sh.dirsBelow fuel (lead ++ n ++ "/") loc
      else []

/-- A bound on how deep directories lie: the longest location made, and some more. -/
def Session.depthBound (sh : Session) : Nat :=
  (sh.workspace.dirs ++ sh.workspace.files.map Prod.fst).foldl (fun m (l : Location) => max m l.length) 0 + 8

/-- The paths that the components of a pattern match below a directory, after the text
`lead` written for it. A component without pattern characters is followed as it is, and
the last one must name something; a component with them matches the names of the
directory, and `.` and `..` too when it starts with `.`, but a name that starts with `.`
only when the component does. Only directories lead on to the next component. In the
`bash` dialect `.` and `..` are passed over (`globskipdots`), and `dotglob` lets any
component match names that start with `.`; under `shopt -s globstar` a component `**`
stands for any number of directories, and as the last one for everything below, the
directory it starts from included. -/
def Session.globBelow (sh : Session) : List (List PatternChar) → String → Location → List String
  | [], lead, _ => [lead]
  | comp :: rest, lead, dir =>
    let step (name : String) : Location :=
      if name == "" || name == "." then dir else if name == ".." then dir.dropLast else dir ++ [Session.pathText name]
    let next (name : String) : List String :=
      if rest.isEmpty then (if (sh.workspace.kindAt (step name)).isSome then [lead ++ name] else [])
      else if sh.workspace.kindAt (step name) == some .dir then sh.globBelow rest (lead ++ name ++ "/") (step name)
      else []
    if !sh.isPattern comp then next (String.ofList (unescapePattern comp))
    else if sh.isBash && sh.shopts.contains "globstar" && comp == [('*', false), ('*', false)] then
      let dirs := sh.dirsBelow sh.depthBound lead dir
      let allDotted := sh.shopts.contains "dotglob"
      if rest.isEmpty then
        (if lead.isEmpty then [] else [lead]) ++ dirs.flatMap fun (p, d) =>
          ((sh.namesAt d).filter fun n => allDotted || !n.startsWith ".").map (p ++ ·)
      else dirs.flatMap fun (p, d) => sh.globBelow rest p d
    else
      let g := Glob.parseWith sh.extglob comp
      let dotted := comp.head?.map Prod.fst == some '.'
      let skipDots := sh.isBash && sh.shopts.contains "globskipdots"
      let allDotted := sh.isBash && sh.shopts.contains "dotglob"
      let names := (if dotted && !skipDots then [".", ".."] else []) ++ sh.namesAt dir
      (names.filter fun n => (dotted || allDotted || !n.startsWith ".") && Glob.matches g n.toList).flatMap next

/-- The pattern that expanded pieces make for `case` and `[[ ... == ... ]]`: without regard
to case under `shopt -s nocasematch`. -/
def Session.patternOf (sh : Session) (ps : List Piece) : List Glob :=
  let g := Glob.parseWith sh.extglob (Piece.pattern ps)
  if sh.isBash && sh.shopts.contains "nocasematch" then g.map Glob.caseless else g

/-- The paths that a field with pattern characters matches, in the order they are found. -/
def Session.globFound (sh : Session) (f : List PatternChar) : List String :=
  (match slashParts f with
  | [] :: rest => sh.globBelow rest "/" []
  | first :: rest =>
    if first.map Prod.fst == "$DIR".toList && !rest.isEmpty then sh.globBelow rest "$DIR/" Workspace.home
    else sh.globBelow (first :: rest) "" sh.cwd
  | [] => []).filter (!·.isEmpty)

/-- The paths that a field matches, in the order of their bytes, or the field itself when
it has no pattern character outside quotes, matches nothing, or `set -f` is on. In the
`bash` dialect `shopt -s nullglob` makes a field that matches nothing no field at all. -/
def Session.glob (sh : Session) (f : List PatternChar) : List String :=
  let text := String.ofList (f.map Prod.fst)
  if sh.isOn "noglob" || !sh.isPattern f then [text]
  else
    match sh.globFound f with
    | [] => if sh.isBash && sh.shopts.contains "nullglob" then [] else [text]
    | paths => Tools.sortNames paths

/-- Whether a field is a pattern that matches nothing while `shopt -s failglob` makes that
a failure. -/
def Session.globFails (sh : Session) (f : List PatternChar) : Bool :=
  sh.isBash && sh.shopts.contains "failglob" && !sh.isOn "noglob" && sh.isPattern f && (sh.globFound f).isEmpty

/-! ## Redirections -/

/-- The lowest descriptor from `n` on that is not open, looking at most `fuel` further. -/
def freeFdFrom (fds : List (Nat × Dest)) : Nat → Nat → Nat
  | n, 0 => n
  | n, fuel + 1 => if fds.any fun (k, d) => k == n && d != .closed then freeFdFrom fds (n + 1) fuel else n

/-- A redirection with its word expanded. -/
inductive Opening where
  | toFile (fd : Nat) (path : String) (append : Bool) (force : Bool)
  | fromFile (fd : Nat) (path : String)
  | readWrite (fd : Nat) (path : String)
  | duplicate (fd : Nat) (target : String)
  | here (fd : Nat) (body : List UInt8)
  /-- Standard output and standard error to a file. -/
  | both (path : String) (append : Bool)

/-- Why a file cannot be created, as the shell words it. -/
def createReason : Fault → String
  | .noEntry | .notDir => "Directory nonexistent"
  | f => f.reason

/-- Where writing to a device leads: nowhere, or nowhere with a failure for `/dev/full`. -/
def deviceDest (loc : Location) : Dest := if loc == ["dev", "full"] then .full else .discard

/-- Opens a file to write on a descriptor, at its end when `append`; `force` replaces a
file even under `set -C`. -/
def Session.openToFile (sh : Session) (fds : List (Nat × Dest)) (fd : Nat) (path : String) (append force : Bool) :
    Except (String × Bool) (Session × List (Nat × Dest)) :=
  if path == "/dev/stdout" then .ok (sh, setFd fds fd (destOf fds 1))
  else if path.startsWith "/dev/fd/" && ((String.ofList (path.toList.drop 8)).toNat?.map (destOf fds ·)).any (· != .closed) then
    .ok (sh, setFd fds fd (destOf fds ((String.ofList (path.toList.drop 8)).toNat?.getD 0)))
  else if path == "/dev/stderr" then .ok (sh, setFd fds fd (destOf fds 2))
  else
    match sh.find path with
    | .present loc .device => .ok (sh, setFd fds fd (deviceDest loc))
    | .present loc .file =>
      if sh.isOn "noclobber" && !append && !force then .error ("cannot create " ++ path ++ ": File exists", false)
      else
        let sh := if append then sh else { sh with workspace := sh.workspace.put loc [] }
        .ok (sh, setFd fds fd (.file loc))
    | .present _ .dir => .error ("cannot create " ++ path ++ ": Is a directory", false)
    | .absent loc asDir =>
      if asDir then .error ("cannot create " ++ path ++ ": Is a directory", false)
      else .ok ({ sh with workspace := sh.workspace.createFile loc sh.umask }, setFd fds fd (.file loc))
    | .blocked f => .error ("cannot create " ++ path ++ ": " ++ createReason f, false)

/-- Opens one redirection on a descriptor table: the shell (whose file system may have
a new file) and the table, or the message and whether it ends the shell. -/
def Session.openOne (sh : Session) (fds : List (Nat × Dest)) : Opening →
    Except (String × Bool) (Session × List (Nat × Dest))
  | .toFile fd path append force => sh.openToFile fds fd path append force
  | .fromFile fd path =>
    if path == "/dev/stdin" then .ok (sh, setFd fds fd (destOf fds 0))
    else if path.startsWith "/dev/fd/" && ((String.ofList (path.toList.drop 8)).toNat?.map (destOf fds ·)).any (· != .closed) then
      .ok (sh, setFd fds fd (destOf fds ((String.ofList (path.toList.drop 8)).toNat?.getD 0)))
    else
      match sh.find path with
      | .present loc .file => .ok (sh, setFd fds fd (.source loc (sh.workspace.contentAt loc)))
      | .present _ .dir => .ok (sh, setFd fds fd .directory)
      | .present .. => .ok (sh, setFd fds fd (.input []))
      | .blocked f =>
        .error ("cannot open " ++ path ++ ": " ++ (if f == .notDir then "No such file" else f.reason), false)
      | .absent .. => .error ("cannot open " ++ path ++ ": No such file", false)
  | .readWrite fd path =>
    match sh.find path with
    | .present loc .device => .ok (sh, setFd fds fd (deviceDest loc))
    | .present loc .file => .ok (sh, setFd fds fd (.file loc))
    | .present _ .dir => .error ("cannot create " ++ path ++ ": Is a directory", false)
    | .absent loc asDir =>
      if asDir then .error ("cannot create " ++ path ++ ": Is a directory", false)
      else .ok ({ sh with workspace := sh.workspace.createFile loc sh.umask }, setFd fds fd (.file loc))
    | .blocked f => .error ("cannot create " ++ path ++ ": " ++ createReason f, false)
  | .duplicate fd target =>
    let digits := target.toList.takeWhile Char.isDigit
    -- `n>&m-` in the `bash` dialect moves descriptor `m` to `n`
    let moves := sh.isBash && !digits.isEmpty && target.toList == digits ++ ['-']
    if target == "-" then .ok (sh, setFd fds fd .closed)
    else if !target.isEmpty && target.all Char.isDigit || moves then
      let source := (String.ofList digits).toNat?.getD 0
      if source == fd then .ok (sh, fds)
      else if destOf fds source == .closed then .error (String.ofList digits ++ ": Bad file descriptor", false)
      else
        let fds := setFd fds fd (destOf fds source)
        .ok (sh, if moves then setFd fds source .closed else fds)
    else .error ("Syntax error: Bad fd number", true)
  | .here fd body => .ok (sh, setFd fds fd (.input body))
  | .both path append =>
    match sh.openToFile fds 1 path append false with
    | .ok (sh, fds) => .ok (sh, setFd fds 2 (destOf fds 1))
    | .error e => .error e

/-- The descriptor a redirection sets. -/
def Opening.fd : Opening → Nat
  | .toFile fd .. | .fromFile fd _ | .readWrite fd _ | .duplicate fd _ | .here fd _ => fd
  | .both _ _ => 1

/-- Whether a redirection copies a descriptor. -/
def Opening.copies : Opening → Bool
  | .duplicate _ target => !target.isEmpty && target.all Char.isDigit
  | _ => false

/-- A problem with a redirection as the `bash` dialect words it: the path, then why. -/
def bashRedirectMessage (msg : String) : String :=
  let body := if msg.startsWith "cannot open " then String.ofList (msg.toList.drop 12)
    else if msg.startsWith "cannot create " then String.ofList (msg.toList.drop 14) else msg
  let cut (n : Nat) : String := String.ofList (body.toList.take (body.length - n))
  if body.endsWith ": No such file" then cut 14 ++ ": No such file or directory"
  else if body.endsWith ": Directory nonexistent" then cut 23 ++ ": No such file or directory"
  else if body.endsWith ": File exists" then cut 13 ++ ": cannot overwrite existing file"
  else body

example : bashRedirectMessage "cannot open x: No such file" = "x: No such file or directory" := by decide +kernel

/-- Opens redirections in order on a table, after those that set the descriptors
`touched`. A failure is reported on the standard error of the table so far, and gives
whether it ends the shell; a descriptor being copied onto is put aside, and so closed,
before the copy is tried, unless a redirection before it set it already. -/
def Session.openEach (sh : Session) (fds : List (Nat × Dest)) (touched : List Nat) :
    List Opening → Session × Except Bool (List (Nat × Dest))
  | [] => (sh, .ok fds)
  | o :: os =>
    match sh.openOne fds o with
    | .ok (sh, fds) => sh.openEach fds (o.fd :: touched) os
    | .error (msg, fatal) =>
      if sh.isBash then (sh.complain fds sh.line (bashRedirectMessage msg), .error false)
      else
        -- a descriptor that fails to be a copy is closed by then
        let shown := if o.copies && !touched.contains o.fd then setFd fds o.fd .closed else fds
        (sh.complain shown sh.line msg, .error fatal)

/-- Whether the `posix` dialect takes a text as the descriptor a redirection copies: one
digit, or `-` to close it. -/
def copiedFdOk (target : String) : Bool := target == "-" || target.length == 1 && target.all Char.isDigit

/-- Opens the redirections of a command in order; in the `posix` dialect a copied descriptor
that is not one digit is a syntax error, found before any of them is opened. -/
def Session.openAll (sh : Session) (fds : List (Nat × Dest)) (touched : List Nat) (opens : List Opening) :
    Session × Except Bool (List (Nat × Dest)) :=
  let badCopy : Opening → Bool
    | .duplicate _ target => !copiedFdOk target
    | _ => false
  if !sh.isBash && opens.any badCopy then (sh.complain fds sh.line "Syntax error: Bad fd number", .error true)
  else sh.openEach fds touched opens

/-- The redirections a compound command carries. -/
def Command.redirects : Command → List Redirect
  | .group _ rs | .subshell _ rs | .ifThen _ _ _ rs | .loop _ _ _ rs | .forIn _ _ _ rs | .caseOf _ _ rs => rs
  | .select _ _ _ rs => rs
  | .cond _ _ rs | .arith _ _ rs | .forArith _ _ _ _ _ rs => rs
  | .simple _ | .function _ _ _ | .coproc _ _ => []
  | .placed _ _ c => c.redirects

/-- Whether the status of a command alone in a pipeline ends the shell under `set -e`:
a simple command or a subshell, but not the other compound commands, whose inner
commands are checked themselves. -/
def Command.checked (c : Command) : Bool :=
  match c.bare with
  | .simple _ | .subshell _ _ | .cond .. | .arith .. => true
  | _ => false

/-! ## Processes -/

/-- The status of a process that ended by a flow, as its parent sees it. -/
def processStatus (status : Nat) : Flow → Nat
  | .exit n => n % 256
  | .signaled n => 128 + n
  | _ => status % 256

/-- Whether a copy of the shell that ended by a flow takes the shell down with it: a stop
from outside, or a signal sent to the shell's process. A copy that computed a division
the processor refuses dies alone. -/
def Flow.reachesParent : Flow → Bool
  | .stopped => true
  | .signaled n => n != 8
  | _ => false

/-- Writes the lines of a script that were read since `shown`, under `set -v`. -/
def Session.echoRead (sh : Session) (src : Source) (shown upTo : Nat) : Session :=
  if src.echoed && sh.isOn "verbose" && upTo > shown then sh.say sh.fds 2 (String.join ((src.lines.drop shown).take (upTo - shown)))
  else sh

/-- The shell once it reported a syntax error of a script. The `bash` dialect names the
script by what it came from when that is not the shell's own script, and words the error in
its own way: a token that cannot stand where it does, with the line it is on written out;
the end of the script, on the line after its last line end; or the end of the script inside
a quote or a bracket. -/
def Session.syntaxError (sh : Session) (src : Source) (e : SyntaxError) : Session :=
  match sh.dialect, e.bash with
  | .bash, some p =>
    let say (sh : Session) (line : Nat) (msg : String) : Session :=
      match src.origin with
      | some o =>
        if o == sh.errorName then sh.complain sh.fds line msg
        else sh.say sh.fds 2 (sh.errorName ++ ": " ++ o ++ ": line " ++ toString line ++ ": " ++ msg ++ "\n")
      | none => sh.complain sh.fds line msg
    let near (sh : Session) (line : Nat) (t : String) : Session :=
      say (say sh line ("syntax error near unexpected token `" ++ t ++ "'")) line ("`" ++ src.lineText line ++ "'")
    match p with
    | .near t => near sh (if t == "newline" then e.line - 1 else e.line) t
    | .endOfFile => say sh src.endLine "syntax error: unexpected end of file"
    | .unclosed c =>
      say sh (if c == ")" then src.endLine else e.line) ("unexpected EOF while looking for matching `" ++ c ++ "'")
    | .inList (.unclosed c) => say sh e.line ("unexpected EOF while looking for matching `" ++ c ++ "'")
    | .inList (.near t) => near sh e.line t
    | .inList _ => sh
  | _, _ => sh.complain sh.fds e.line e.message

/-- The shell with the variables that an arithmetic expression changed set. -/
def Session.applyVars (sh : Session) (vars : List (String × String)) : Session :=
  vars.foldl (fun sh (n, v) => if sh.lookupVar n == some v then sh else sh.setVar n v) sh

/-- The option of `set` that a letter of the shell's command line names. -/
def optionOfLetter (c : Char) : Option String := (optionTable.find? (·.2 == some c)).map Prod.fst

/-- Reads the command line of a shell run as a program: its options (letters after `-`
turn them on, after `+` off, `-o name`), whether `-c` was given, and the operands. -/
def shellInvocation : Nat → List String → List (String × Bool) → Bool →
    Except String (List (String × Bool) × Bool × List String)
  | 0, args, opts, c => .ok (opts, c, args)
  | _ + 1, [], opts, c => .ok (opts, c, [])
  | fuel + 1, a :: rest, opts, c =>
    if a == "--" || a == "-" then .ok (opts, c, rest)
    else
      match a.toList with
      | sign :: l :: ls =>
        if sign != '-' && sign != '+' then .ok (opts, c, a :: rest)
        else
          let on := sign == '-'
          if l == 'o' && ls.isEmpty then
            match rest with
            | n :: more =>
              if optionTable.any (·.1 == n) then shellInvocation fuel more (opts ++ [(n, on)]) c
              else .error ("Illegal option -o " ++ n)
            | [] => .error "Illegal option -o"
          else
            let letters := l :: ls
            match letters.find? fun x => x != 'c' && x != 'l' && x != 's' && (optionOfLetter x).isNone with
            | some x => .error ("Illegal option " ++ sign.toString ++ x.toString)
            | none =>
              let named := letters.filterMap optionOfLetter
              shellInvocation fuel rest (opts ++ named.map (·, on)) (c || (on && letters.contains 'c'))
      | _ => .ok (opts, c, a :: rest)

/-- The long options of the command line of the `bash` dialect, each with whether it takes
an argument. -/
def bashLongOptions : List (String × Bool) :=
  [("debug", false), ("debugger", false), ("dump-po-strings", false), ("dump-strings", false), ("help", false),
   ("init-file", true), ("login", false), ("noediting", false), ("noprofile", false), ("norc", false),
   ("posix", false), ("pretty-print", false), ("rcfile", true), ("restricted", false), ("verbose", false),
   ("version", false)]

/-- What the `bash` dialect writes after an option of its command line that it does not know,
with the name it was started by. -/
def bashUsage (name : String) : String :=
  "Usage:\t" ++ name ++ " [GNU long option] [option] ...\n\t" ++ name ++
    " [GNU long option] [option] script-file ...\nGNU long options:\n" ++
    String.join (bashLongOptions.map fun (n, _) => "\t--" ++ n ++ "\n") ++
    "Shell options:\n\t-ilrsD or -c command or -O shopt_option\t\t(invocation only)\n" ++
    "\t-abefhkmnptuvxBCEHPT or -o option\n"

/-- What the command line of the `bash` dialect asked for: the options of `set` turned on
or off, those of `shopt` (`-O` and `+O`), and whether `-c` was given. -/
structure BashStart where
  options : List (String × Bool) := []
  shopts : List (String × Bool) := []
  command : Bool := false
  deriving DecidableEq, Repr

/-- Reads the letters of one argument of options of the `bash` dialect's command line, with
the sign before them, and the arguments after it, of which `-o` and `-O` take theirs; or
the message of a wrong one. -/
def bashLetters (name : String) (on : Bool) : List Char → BashStart × List String →
    Except String (BashStart × List String)
  | [], acc => .ok acc
  | l :: ls, (st, rest) =>
    let sign := if on then "-" else "+"
    if l == 'c' then bashLetters name on ls ({ st with command := true }, rest)
    else if "lrD".toList.contains l then bashLetters name on ls (st, rest)
    else if l == 'i' || l == 's' then
      bashLetters name on ls ({ st with options := st.options ++ [(if l == 'i' then "interactive" else "stdin", on)] }, rest)
    else if l == 'o' || l == 'O' then
      match rest with
      | n :: more =>
        if l == 'O' then
          if shoptTable.any (·.1 == n) then bashLetters name on ls ({ st with shopts := st.shopts ++ [(n, on)] }, more)
          else .error (name ++ ": line 0: " ++ n ++ ": invalid shell option name\n")
        else if bashOptions.contains n then bashLetters name on ls ({ st with options := st.options ++ [(n, on)] }, more)
        else .error (name ++ ": line 0: " ++ name ++ ": " ++ n ++ ": invalid option name\n")
      | [] => bashLetters name on ls (st, rest)
    else
      match bashOptionLetters.lookup l with
      | some n => bashLetters name on ls ({ st with options := st.options ++ [(n, on)] }, rest)
      | none => .error (name ++ ": " ++ sign ++ l.toString ++ ": invalid option\n" ++ bashUsage name)

/-- Reads the command line of a shell of the `bash` dialect run as a program, as
`shellInvocation` does: long options first (`--name`, or `-name` when it names one), then
options as for `set`, `-c` among them; `-` or `--` ends them. A wrong option is given as
the message the shell writes. -/
def bashInvocation (name : String) : Nat → Bool → List String → BashStart → Except String (BashStart × List String)
  | 0, _, args, st => .ok (st, args)
  | _ + 1, _, [], st => .ok (st, [])
  | fuel + 1, long, a :: rest, st =>
    let longName : Option (String × Bool) := match a.toList with
      | '-' :: '-' :: n@(_ :: _) => some (String.ofList n, true)
      | '-' :: n@(_ :: _) => some (String.ofList n, false)
      | _ => none
    match (if long then longName else none) with
    | some (n, dashed) =>
      match bashLongOptions.lookup n with
      | some true =>
        match rest with
        | _ :: more => bashInvocation name fuel true more st
        | [] => .error (name ++ ": " ++ n ++ ": option requires an argument\n")
      | some false =>
        bashInvocation name fuel true rest
          (if n == "verbose" then { st with options := st.options ++ [("verbose", true)] } else st)
      | none =>
        if dashed then .error (name ++ ": " ++ a ++ ": invalid option\n" ++ bashUsage name)
        else bashInvocation name fuel false (a :: rest) st
    | none =>
      if a == "-" || a == "--" then .ok (st, rest)
      else
        match a.toList with
        | sign :: ls@(_ :: _) =>
          if sign != '-' && sign != '+' then .ok (st, a :: rest)
          else
            match bashLetters name (sign == '-') ls (st, rest) with
            | .ok (st, rest) => bashInvocation name fuel false rest st
            | .error m => .error m
        | _ => .ok (st, a :: rest)

/-- Finds a program as `execvp` does: the name itself when it has a `/`, otherwise each
directory of the search path in order. The first that starts wins, and a file without
`#!` is run by the shell (`none`); when none starts, "permission denied" if one may not be
run, "no such file" otherwise. -/
def execSearch (ws : Workspace) (cwd : Location) (searchPath name : String) :
    Except StartError (String × Option Program) :=
  let paths := if name.contains '/' then [name] else candidates searchPath name
  let tries := paths.map fun p => (p, startAt ws cwd (Session.pathText p))
  match tries.find? (fun (_, r) => r matches .ok _ || r matches .error .badFormat) with
  | some (p, .ok prog) => .ok (p, some prog)
  | some (p, _) => .ok (p, none)
  | none => if tries.any (fun (_, r) => r matches .error .denied) then .error .denied else .error .missing

/-! ## Running -/

/-- Whether a shell was started by the name of the shell that reports problems by its own
name alone, with no line number. -/
def invokedAsBash (invoked : String) : Bool := invoked == "bash" || invoked.endsWith "/bash"

/-- The variables an arithmetic expression sees: the shell's, and in the `bash` dialect the
line number when no variable takes its name. -/
def Session.arithVars (sh : Session) : List (String × String) :=
  if (sh.lookupVar "LINENO").isSome || !sh.isBash then sh.vars
  else ("LINENO", toString (sh.lineNumber sh.line)) :: sh.vars

/-- The shell with the variables that an arithmetic expression changed set, the line
number it was given apart. -/
def Session.afterArith (sh : Session) (vars : List (String × String)) : Session :=
  let lineno := toString (sh.lineNumber sh.line)
  sh.applyVars (vars.filter fun (k, v) => !(k == "LINENO" && v == lineno))

/-! ## The `bash` dialect -/

/-- What a braced expansion names before its operation: one value (none when it is unset),
or the elements of an array or the positional parameters, `joined` into one text by `*`. -/
inductive Values where
  | one (v : Option String)
  | many (vs : List String) (joined : Bool)

/-- Values with each text changed. -/
def Values.map (f : String → String) : Values → Values
  | .one v => .one (v.map f)
  | .many vs j => .many (vs.map f) j

/-- How the subject of a braced expansion is named in a message. -/
def Subject.label : Subject → String
  | .param p => p.text
  | .element n sub => n ++ "[" ++ sub ++ "]"

/-- The array that a name stands for: one of the shell's, or for `FUNCNAME` the names of
the functions running, the innermost first. -/
def Session.arrayOf (sh : Session) (n : String) : Option ArrayValue :=
  let numbered (vs : List String) : Option ArrayValue :=
    if vs.isEmpty then none else some (.indexed (vs.zipIdx.map fun (v, i) => (i, v)))
  let main := sh.scriptFile.isSome
  if n == "FUNCNAME" && !sh.calls.isEmpty then
    numbered (sh.calls.map (·.name) ++ (if main then ["main"] else []))
  else if n == "BASH_SOURCE" && sh.isBash then numbered (sh.calls.map (·.file) ++ sh.scriptFile.toList)
  else if n == "BASH_LINENO" && sh.isBash then
    numbered (sh.calls.map (toString ·.line) ++ (if main then ["0"] else []))
  else List.lookup (sh.refTarget n) sh.arrays

/-- The pieces of texts that are each a field of their own outside quotes: joined by the
first character of `IFS` and split again or, when `IFS` is empty, each one that is not
empty as a field. -/
def Session.unquotedMany (sh : Session) (vs : List String) : List Piece :=
  if sh.ifs.isEmpty then
    match vs.filter (!·.isEmpty) with
    | [] => []
    | a :: rest => .text a false :: rest.flatMap fun b => [.cut, .text b false]
  else [.split (sh.paramSeparator.intercalate vs)]

/-- The pieces of values: inside quotes each element is a field of its own, or all are
one field joined by the first character of `IFS` with `*`. -/
def Session.valuesPieces (sh : Session) (vals : Values) (inQuotes : Bool) : List Piece :=
  match vals with
  | .one v => valuePieces (v.getD "") inQuotes
  | .many vs joined =>
    if inQuotes then (if joined then [.text (sh.paramSeparator.intercalate vs) true] else eachPieces vs)
    else sh.unquotedMany vs

/-- The text of a regular expression from its expanded pieces: a character that was quoted
stands for itself, with a backslash before it when it is special. -/
def regexText (ps : List Piece) : String :=
  String.ofList ((Piece.pattern ps).flatMap fun (c, q) =>
    if q && "\\.[]()*+?\x7b\x7d|^$".toList.contains c then ['\\', c] else [c])

/-- A field as `set -x` of the `bash` dialect writes it: `''` when it is empty, in single
quotes when it holds a character the shell reads specially, in `$'...'` when it holds a
control character, and as it is otherwise. -/
def traceWord (w : String) : String :=
  if w.isEmpty then "''"
  else if !plainValue w then quoteSingle w
  else if needsAnsiText w then quoteAnsi w
  else w

/-- What `test` and `[[ ... ]]` ask of the file system. -/
def Session.fileView (sh : Session) : Test.Files := Test.Files.ofWorkspace sh.workspace sh.cwd sh.isBash

/-- Whether a variable, or an element `name[key]`, is set, as `-v` asks. -/
def Session.isSet (sh : Session) (t : String) : Bool :=
  let (n, key, _) := Target.parse t
  match key, sh.arrayOf n with
  | none, some a => (a.atIndex? 0).isSome || (match a with
      | .assoc items => (List.lookup "0" items).isSome
      | _ => false)
  | none, none => (sh.lookupVar n).isSome
  | some k, some (.assoc items) => (List.lookup k items).isSome
  | some k, some a =>
    match sh.indexOf n k with
    | .ok (i, _) => (a.atIndex? i).isSome
    | .error _ => false
  | some k, none => k == "0" && (sh.lookupVar n).isSome

/-- Whether a test of `[[ ... ]]` with one operand holds. -/
def Session.condUnary (sh : Session) (op t : String) : Bool :=
  match op with
  | "-v" => sh.isSet t
  | "-o" => sh.isOn t
  | "-a" => (sh.kindOf? t).isSome
  | "-R" | "-t" | "-u" | "-g" | "-p" | "-S" | "-b" | "-N" => false
  | _ => Test.unary sh.fileView op t

/-- Whether a test of `[[ ... ]]` with two texts holds: their order, or for files which is
newer or whether they are the same. -/
def Session.condBinary (sh : Session) (op a b : String) : Bool :=
  match op with
  | "<" => a < b
  | ">" => b < a
  | _ => (Test.binary sh.fileView a op b).toOption.getD false

/-- Reports a failed arithmetic command of the `bash` dialect: an unset variable under
`set -u` ends the shell, other problems give status 1. -/
def Session.arithFailure (sh : Session) (e : Arith.Extended.Failure) : Session × Flow :=
  match e with
  | .unbound n => ({ sh.complain sh.fds sh.line (n ++ ": unbound variable") with status := 1 }, .exit 1)
  | e => ({ sh.complain sh.fds sh.line (e.message (some "((")) with status := 1 }, .normal)

/-- The words of a list `(...)` of an array assignment. -/
def listWords (t : String) : List Word :=
  (tokensAt .bash 1 t).1.filterMap fun (tok, _) => match tok with
    | .word w => some w
    | _ => none

/-- A word of a list `(...)` that gives a key, `[key]=value`: the texts of the key and of
the value. -/
def keyedItem? (w : Word) : Option (String × String) :=
  match (String.join (w.map Part.source)).toList with
  | '[' :: rest =>
    match subscriptEnd (rest.length + 1) rest 0 with
    | some n =>
      match rest.drop (n + 1) with
      | '=' :: value => some (String.ofList (rest.take n), String.ofList value)
      | _ => none
    | none => none
  | _ => none

/-- A path as the `bash` dialect's `exec` names it: from the root, the working directory
before a relative path, with a leading `./` dropped. -/
def Session.fullPath (sh : Session) (path : String) : String :=
  if path.startsWith "/" then path
  else
    let rest := if path.startsWith "./" then String.ofList (path.toList.drop 2) else path
    let dir := sh.cwdText
    if dir.endsWith "/" then dir ++ rest else dir ++ "/" ++ rest

/-- Says why a program named `name` did not start from `path`, and gives the status.
The `bash` dialect says what the system said about the path, and its `exec` names the full
path and adds that it cannot run it; a bare name it did not find is "command not found".
The `posix` dialect says "not found" or "Permission denied" of the name, and `refused` (a
bare name the search path holds only as something that is not an executable file) is
status 127 unless `exec` runs it. -/
def Session.cannotStart (sh : Session) (fds : List (Nat × Dest)) (line : Nat) (viaExec refused : Bool)
    (name path : String) (e : StartError) : Session × Nat :=
  if sh.isBash then
    let shown := if viaExec then sh.fullPath path else path
    match e with
    | .notFound =>
      if viaExec then (sh.complain fds line ("exec: " ++ name ++ ": not found"), 127)
      -- a name not found is written so that what cannot be printed shows
      else (sh.complain fds line ((if needsAnsiText name then quoteAnsi name else name) ++ ": command not found"), 127)
    | .denied | .notDirectory =>
      let why := if e == .notDirectory then "Not a directory"
        else if sh.kindOf? path == some .dir then "Is a directory" else "Permission denied"
      let sh := sh.complain fds line (shown ++ ": " ++ why)
      (if viaExec then sh.complain fds line ("exec: " ++ shown ++ ": cannot execute: " ++ why) else sh, 126)
    | _ =>
      let why := if sh.kindOf? path == some .file then "cannot execute: required file not found"
        else "No such file or directory"
      (sh.complain fds line (shown ++ ": " ++ why), 127)
  else
    let label := if viaExec then "exec: " ++ name else name
    match e with
    | .denied => (sh.complain fds line (label ++ ": Permission denied"), if refused && !viaExec then 127 else 126)
    | _ => (sh.complain fds line (label ++ ": not found"), 127)

/-- How many function calls the `posix` dialect lets be in progress at once: one more is a
fatal error. -/
def posixCallDepth : Nat := 1000

/-- How many function calls in progress the stack of the `bash` dialect's shell holds when
`FUNCNEST` sets no limit: one more overflows it, and the shell dies of a segmentation fault. -/
def bashCallDepth : Nat := 5000

mutual

/-- Runs a script being read, one complete command at a time; the first `shown` lines
were read before. -/
def Session.runSource : Nat → Session → Source → Nat → Session × Flow
  | 0, sh, _, _ => (sh, .normal)
  | fuel + 1, sh, src, shown =>
    match src.next sh.aliases with
    | .finished => (sh.echoRead src shown src.lines.length, .normal)
    | .failed e =>
      match e.bash with
      | some (.inList _) =>
        -- the line is lost, and the reading goes on after it
        let sh := { (sh.echoRead src shown e.line).syntaxError src e with status := 1 }
        Session.runSource fuel sh (src.after e.line) e.line
      | _ =>
      let sh := { (sh.echoRead src shown e.line).syntaxError src e with status := 2 }
      if src.recoverable && sh.isBash then (sh, .normal) else (sh, .exit 2)
    | .command lists rest =>
      let consumed := src.tokens.take (src.tokens.length - rest.tokens.length)
      let upTo := max shown ((consumed.getLast?.map Prod.snd).getD shown)
      let sh := sh.echoRead src shown upTo
      if sh.isOn "noexec" then Session.runSource fuel sh rest upTo
      else
        -- the last command of a text after -c, when it is a simple command, runs in place of the shell
        let lastOfText := sh.givenText && rest.next sh.aliases matches .finished
        let ran := match lists.getLast?, lastOfText with
          | some last@⟨⟨false, [.simple _], none⟩, [], false⟩, true =>
            match Session.runList fuel sh false lists.dropLast with
            | (sh, .normal) =>
              let (sh, flow) := Session.runList fuel { sh with lastOfText := true } false [last]
              ({ sh with lastOfText := false }, flow)
            | r => r
          | _, _ => Session.runList fuel sh false lists
        match ran with
        | (sh, .normal) => Session.runSource fuel sh rest upTo
        -- a failed expansion drops the rest of the command, and ends a copy of the shell
        | (sh, .discard) =>
          if sh.copy then ({ sh with status := 1 }, .exit 1)
          else Session.runSource fuel { sh with status := 1 } rest upTo
        | r => r

termination_by structural fuel => fuel

/-- Runs and-or lists in order; `tested` when their status is tested by the command
around them. -/
def Session.runList : Nat → Session → Bool → List AndOr → Session × Flow
  | 0, sh, _, _ => (sh, .normal)
  | _ + 1, sh, _, [] => (sh, .normal)
  | fuel + 1, sh, tested, a :: as =>
    if sh.isOn "noexec" then (sh, .normal)
    else if a.background then
      match Session.runBackground fuel sh a with
      | (sh, .normal) => Session.runList fuel sh tested as
      | r => r
    else
      match Session.runAndOr fuel sh tested a with
      | (sh, .normal) => Session.runList fuel sh tested as
      | r => r

termination_by structural fuel => fuel

/-- Runs an and-or list in the background: in a copy of the shell that reads nothing on
its standard input, as a job with a process number of its own. The shell's status is 0,
and the job's status is kept for `wait`; only a stop from outside reaches the shell. -/
def Session.runBackground : Nat → Session → AndOr → Session × Flow
  | 0, sh, _ => (sh, .normal)
  | fuel + 1, sh, a =>
    -- a job in the background ignores interrupts and quits
    let base := match a with
      | ⟨⟨_, [.simple _], _⟩, [], _⟩ => sh.asCopy
      | _ => sh.asCopy.enterSubshell.forgetJobs
    let pid := sh.pid + 1 + sh.started
    -- what the job writes once it slept comes out at the job's clock
    let child := { base with traps := sh.subshellTraps, fds := setFd sh.fds 0 (.input []),
                             ignored := (sh.ignored ++ [2, 3]).eraseDups,
                             deferSince := some (sh.deferSince.getD sh.workspace.slept), jobPids := pid :: sh.jobPids }
    let (inner, flow) := Session.runAndOr fuel child false a
    let (inner, flow) := Session.exitTrap fuel inner flow
    let signal := match flow with
      | .signaled n => some n
      | _ => none
    -- the job sleeps beside the shell, whose clock does not wait for it
    let slept := inner.workspace.slept - sh.workspace.slept
    let ends := if slept > 0 then some inner.workspace.clock else none
    let ws := { inner.workspace with clock := inner.workspace.clock - slept }
    let sh := { sh.adoptKills inner with
                        workspace := ws, out := inner.out, err := inner.err, piped := inner.piped,
                        later := inner.later, status := 0, started := sh.started + 1, lastBackground := some pid }.addJob
                        pid (processStatus inner.status flow) signal ends (andOrText a)
    if flow == .stopped then (sh, .stopped)
    else
      match sh.afterCopy inner with
      | (sh, some n) => ({ sh with status := 128 + n }, .signaled n)
      | (sh, none) => (sh, .normal)

termination_by structural fuel => fuel

/-- Runs an and-or list; every pipeline but the last is tested. -/
def Session.runAndOr : Nat → Session → Bool → AndOr → Session × Flow
  | 0, sh, _, _ => (sh, .normal)
  | fuel + 1, sh, tested, a =>
    match Session.runPipeline fuel sh (tested || !a.rest.isEmpty) a.first with
    | (sh, .normal) => Session.runJoined fuel sh tested a.rest
    | r => r

termination_by structural fuel => fuel

/-- Runs the pipelines after the first of an and-or list. -/
def Session.runJoined : Nat → Session → Bool → List (Join × Pipeline) → Session × Flow
  | 0, sh, _, _ => (sh, .normal)
  | _ + 1, sh, _, [] => (sh, .normal)
  | fuel + 1, sh, tested, (j, p) :: rest =>
    let go := match j with
      | .andThen => sh.status == 0
      | .orElse => sh.status != 0
    if go then
      match Session.runPipeline fuel sh (tested || !rest.isEmpty) p with
      | (sh, .normal) => Session.runJoined fuel sh tested rest
      | r => r
    else Session.runJoined fuel sh tested rest

termination_by structural fuel => fuel

/-- Runs a pipeline; under `set -e` a failure that is not tested ends the shell. -/
def Session.runPipeline : Nat → Session → Bool → Pipeline → Session × Flow
  | 0, sh, _, _ => (sh, .normal)
  | fuel + 1, sh, tested, p =>
    let inner := tested || p.negated
    let (sh, flow, checked) := match p.commands with
      | [c] =>
        let (sh, flow) := Session.runNode fuel sh inner c none
        ({ sh with pipeStatus := [sh.status] }, flow, c.checked)
      | cs =>
        match Session.runStages fuel { sh with pipeStatus := [] } inner cs (inputOf sh.fds) with
        | (sh, .normal) =>
          match sh.deliverSent with
          | (sh, some n) => ({ sh with status := 128 + n }, .signaled n, true)
          | (sh, none) => (sh, .normal, true)
        | (sh, flow) => (sh, flow, true)
    -- the traps of signals that arrived while a copy of the shell ran
    let (sh, flow) := match flow with
      | .normal => if sh.pending.isEmpty then (sh, flow) else Session.runPending fuel sh
      | f => (sh, f)
    match flow with
    | .normal =>
      let sh := if sh.isBash then
          let statuses := sh.pipeStatus
          let listed : ArrayValue := .indexed (statuses.zipIdx.map fun (p : Nat × Nat) => (p.2, toString p.1))
          let sh := { sh with arrays := setIn' sh.arrays "PIPESTATUS" listed }
          if sh.isOn "pipefail" then { sh with status := (statuses.reverse.find? (· != 0)).getD 0 } else sh
        else sh
      let sh := if p.negated then { sh with status := if sh.status == 0 then 1 else 0 } else sh
      -- `time` reports on the shell's standard error
      let sh := match p.timed with
        | some posix =>
          let layout := if posix then "real %2R\nuser %2U\nsys %2S"
            else (sh.lookupVar "TIMEFORMAT").getD "\nreal\t%3lR\nuser\t%3lU\nsys\t%3lS"
          sh.say sh.fds 2 (timeReport layout)
        | none => sh
      -- the command of `ERR` runs where `set -e` would end the shell, and not for itself;
      -- its lines count from the line of the command that failed
      let (sh, flow) : Session × Flow :=
        match (if sh.isBash && !inner && checked && sh.status != 0 then sh.trapFor? errTrap else none) with
        | some action =>
          let status := sh.status
          let traps := sh.traps
          match Session.runSource fuel { sh with traps := traps.filter (·.1 != errTrap), trapping := true }
              (Source.ofString sh.dialect sh.line action) 0 with
          | (after, .normal) => ({ after with status := status, traps := traps, trapping := sh.trapping }, .normal)
          | (after, f) => ({ after with trapping := sh.trapping }, f)
        | none => (sh, .normal)
      match flow with
      | .normal =>
        if sh.isOn "errexit" && !inner && checked && sh.status != 0 then (sh, .exit sh.status) else (sh, .normal)
      | f => (sh, f)
    | f => (sh, f)

termination_by structural fuel => fuel

/-- Runs the stages of a pipeline of more than one command, each in a copy of the shell
reading what the one before wrote into its pipe; under `shopt -s lastpipe` of the `bash`
dialect the last stage runs in the shell itself. -/
def Session.runStages : Nat → Session → Bool → List Command → List UInt8 → Session × Flow
  | 0, sh, _, _, _ => (sh, .normal)
  | _ + 1, sh, _, [], _ => (sh, .normal)
  | fuel + 1, sh, tested, c :: cs, input =>
    let last := cs.isEmpty
    -- under `shopt -s lastpipe` the last stage runs in the shell itself
    if last && sh.isBash && sh.shopts.contains "lastpipe" then
      let (after, flow) := Session.runNode fuel sh tested c (some input)
      ({ after with pipeStatus := sh.pipeStatus ++ [after.status] }, flow)
    else
    -- a compound command of a pipeline runs in a subshell of its own
    let base := match c with
      | .simple _ => sh.asCopy
      | _ => sh.asCopy.enterSubshell.forgetJobs
    let copy := { base with piped := if last then sh.piped else [],
                            fds := if last then sh.fds else setFd sh.fds 1 .pipe, traps := sh.subshellTraps }
    let (after, flow) := Session.runNode fuel copy tested c (some input)
    let (after, flow) := Session.exitTrap fuel after flow
    -- the signals a stage sends to the shell arrive once the whole pipeline has run
    let sh := { (sh.adoptKills after).reapJobs with
                        workspace := after.workspace, out := after.out, err := after.err,
                        later := after.later,
                        status := processStatus after.status flow, piped := if last then after.piped else sh.piped,
                        sentUp := sh.sentUp ++ after.sentUp,
                        pipeStatus := sh.pipeStatus ++ [processStatus after.status flow] }
    if flow.reachesParent then (sh, flow)
    else if last then (sh, .normal) else Session.runStages fuel sh tested cs after.piped

termination_by structural fuel => fuel

/-- Runs a command; a pipeline stage reads `input`. A compound command runs with its
redirections, and the input, for the time it runs. -/
def Session.runNode : Nat → Session → Bool → Command → Option (List UInt8) → Session × Flow
  | 0, sh, _, _, _ => (sh, .normal)
  | fuel + 1, sh, tested, c, input =>
    match c with
    | .simple s => Session.runSimple fuel sh tested s input
    | .placed start finish c => Session.runNode fuel { sh with line := if sh.isBash then finish else start } tested c input
    | .function name _ _ =>
      ({ sh with functions := (name, c) :: sh.functions.filter (·.1 != name), status := 0,
                 definedIn := (name, sh.sourceFile) :: sh.definedIn.filter (·.1 != name) }, .normal)
    | _ =>
      if c.redirects.isEmpty && input.isNone then Session.runCompound fuel sh tested c
      else
        let saved := sh.fds
        match Session.expandRedirects fuel sh c.redirects with
        | (sh, .error flow) => ({ sh with status := 2 }, flow)
        | (sh, .ok opens) =>
          let base := match input with
            | some bs => setFd sh.fds 0 (.input bs)
            | none => sh.fds
          match sh.openAll base [] opens with
          | (sh, .error fatal) =>
            if sh.isBash then ({ sh with fds := saved, status := 1 }, .normal)
            else ({ sh with fds := saved, status := 2 }, if fatal then .exit 2 else .normal)
          | (sh, .ok fds) =>
            let (sh, flow) := Session.runCompound fuel { sh with fds := fds } tested c
            ({ sh with fds := keptFds saved fds sh.fds }, flow)

termination_by structural fuel => fuel

/-- Runs a compound command in the shell's current descriptors. -/
def Session.runCompound : Nat → Session → Bool → Command → Session × Flow
  | 0, sh, _, _ => (sh, .normal)
  | fuel + 1, sh, tested, c =>
    match c with
    | .group body _ => Session.runList fuel sh tested body
    | .subshell body _ =>
      let (inner, flow) := Session.runList fuel { sh.asCopy.enterSubshell.forgetJobs with traps := sh.subshellTraps } tested body
      let (inner, flow) := Session.exitTrap fuel inner flow
      let sh := { (sh.adoptKills inner).reapJobs with
                          workspace := inner.workspace, out := inner.out, err := inner.err, piped := inner.piped,
                          later := inner.later, status := processStatus inner.status flow,
                          fds := sharedReads sh.fds sh.fds inner.fds }
      if flow.reachesParent then (sh, flow)
      else
        match sh.afterCopy inner with
        | (sh, some n) => ({ sh with status := 128 + n }, .signaled n)
        | (sh, none) => (sh, .normal)
    | .ifThen cond yes no _ =>
      match Session.runList fuel sh true cond with
      | (sh, .normal) =>
        if sh.status == 0 then Session.runList fuel sh tested yes
        else
          match no with
          | some n => Session.runList fuel sh tested n
          | none => ({ sh with status := 0 }, .normal)
      | r => r
    | .loop negated cond body _ =>
      let (sh, flow) := Session.runLoop fuel { sh with loops := sh.loops + 1 } tested negated cond body 0
      ({ sh with loops := sh.loops - 1 }, flow)
    | .forIn name words body _ =>
      match Session.expandWords fuel sh (if sh.isBash then words.flatMap Word.braceExpand else words) with
      | (sh, .error flow) => ({ sh with status := 2 }, flow)
      | (sh, .ok items) =>
        let (sh, flow) := Session.runFor fuel { sh with loops := sh.loops + 1, status := 0 } tested name items body
        ({ sh with loops := sh.loops - 1 }, flow)
    | .select name words body _ =>
      match Session.expandWords fuel sh (words.flatMap Word.braceExpand) with
      | (sh, .error flow) => ({ sh with status := 2 }, flow)
      | (sh, .ok []) => ({ sh with status := 0 }, .normal)
      | (sh, .ok items) =>
        let (sh, flow) := Session.runSelect fuel { sh with loops := sh.loops + 1, status := 0 } tested name items body true
        ({ sh with loops := sh.loops - 1 }, flow)
    | .caseOf subject arms _ =>
      match Session.expandText fuel sh subject with
      | (sh, .error flow) => ({ sh with status := 2 }, flow)
      | (sh, .ok s) => Session.runCase fuel sh tested false false s arms
    | .cond e line _ =>
      let sh := { sh with line := line }
      match Session.evalCond fuel sh e with
      | (sh, .ok st) => ({ sh with status := st }, .normal)
      | (sh, .error f) => ({ sh with status := 1 }, f)
    | .arith text line _ =>
      match Session.arithOf fuel { sh with line := line } text with
      | (sh, .error f) => ({ sh with status := 1 }, f)
      | (sh, .ok (.ok v)) => ({ sh with status := if v == 0 then 1 else 0 }, .normal)
      | (sh, .ok (.error e)) => sh.arithFailure e
    | .forArith start test step line body _ =>
      let sh := { sh with line := line }
      let begun := if start.all Char.isWhitespace then (sh, .ok (.ok 0)) else Session.arithOf fuel sh start
      match begun with
      | (sh, .error f) => ({ sh with status := 1 }, f)
      | (sh, .ok (.error e)) => sh.arithFailure e
      | (sh, .ok (.ok _)) =>
        let (sh, flow) := Session.runArithFor fuel { sh with loops := sh.loops + 1 } tested test step body 0
        ({ sh with loops := sh.loops - 1 }, flow)
    | .coproc name body =>
      let id := sh.started + 1
      let pid := sh.pid + 1 + sh.started
      let fds := setFd (setFd sh.fds 63 (.fromCoproc id)) 60 (.toCoproc id)
      let sh := { sh with coprocs := sh.coprocs ++ [({ id, body } : Coproc)], started := sh.started + 1,
                          lastBackground := some pid, fds := fds, vars := sh.vars.filter (·.1 != name),
                          arrays := setIn' sh.arrays name (.indexed [(0, "63"), (1, "60")]) }
      ({ sh.setVar (name ++ "_PID") (toString pid) with status := 0 }, .normal)
    | .placed _ _ c => Session.runCompound fuel sh tested c
    | .simple _ | .function _ _ _ => (sh, .normal)

termination_by structural fuel => fuel

/-- Runs a `while` loop (an `until` loop when `negated`); `last` is the status of the
last run of its body. -/
def Session.runLoop : Nat → Session → Bool → Bool → List AndOr → List AndOr → Nat → Session × Flow
  | 0, sh, _, _, _, _, last => ({ sh with status := last }, .normal)
  | fuel + 1, sh, tested, negated, cond, body, last =>
    match Session.runList fuel sh true cond with
    | (sh, .normal) =>
      if (sh.status == 0) == negated then ({ sh with status := last }, .normal)
      else
        match Session.runList fuel sh tested body with
        | (sh, .normal) | (sh, .continueLoop 1) => Session.runLoop fuel sh tested negated cond body sh.status
        | (sh, .breakLoop 1) => (sh, .normal)
        | (sh, .continueLoop (n + 1)) => (sh, .continueLoop n)
        | (sh, .breakLoop (n + 1)) => (sh, .breakLoop n)
        | r => r
    | (sh, .breakLoop 1) => (sh, .normal)
    | (sh, .continueLoop 1) => Session.runLoop fuel sh tested negated cond body last
    | (sh, .continueLoop (n + 1)) => (sh, .continueLoop n)
    | (sh, .breakLoop (n + 1)) => (sh, .breakLoop n)
    | r => r

termination_by structural fuel => fuel

/-- Runs a loop `for (( start; test; step ))` from its test on: the body runs while the
test is not zero (an empty test is one), and the step after each run of the body. -/
def Session.runArithFor : Nat → Session → Bool → String → String → List AndOr → Nat → Session × Flow
  | 0, sh, _, _, _, _, last => ({ sh with status := last }, .normal)
  | fuel + 1, sh, tested, test, step, body, last =>
    let check := if test.all Char.isWhitespace then (sh, .ok (.ok 1)) else Session.arithOf fuel sh test
    match check with
    | (sh, .error f) => (sh, f)
    | (sh, .ok (.error e)) => sh.arithFailure e
    | (sh, .ok (.ok v)) =>
      if v == 0 then ({ sh with status := last }, .normal)
      else
        let next (sh : Session) : Session × Flow :=
          let stepped := if step.all Char.isWhitespace then (sh, .ok (.ok 0)) else Session.arithOf fuel sh step
          match stepped with
          | (sh, .error f) => (sh, f)
          | (sh, .ok (.error e)) => sh.arithFailure e
          | (sh, .ok (.ok _)) => Session.runArithFor fuel sh tested test step body sh.status
        match Session.runList fuel sh tested body with
        | (sh, .normal) | (sh, .continueLoop 1) => next sh
        | (sh, .breakLoop 1) => (sh, .normal)
        | (sh, .continueLoop (n + 1)) => (sh, .continueLoop n)
        | (sh, .breakLoop (n + 1)) => (sh, .breakLoop n)
        | r => r

termination_by structural fuel => fuel

/-- Evaluates a conditional expression of `[[ ... ]]`: the status 0 when it holds, 1 when
it does not, and 2 for a regular expression that does not read. Its words are expanded
without splitting, and only as far as the value needs them. A match of `=~` sets the array
`BASH_REMATCH` to the text matched and those its groups matched. -/
def Session.evalCond : Nat → Session → Cond → Session × Except Flow Nat
  | 0, sh, _ => (sh, .ok 1)
  | fuel + 1, sh, c =>
    match c with
    | .word w =>
      match Session.expandText fuel sh w with
      | (sh, .ok t) => (sh, .ok (if t.isEmpty then 1 else 0))
      | (sh, .error f) => (sh, .error f)
    | .unary op w =>
      match Session.expandText fuel sh w with
      | (sh, .ok t) => (sh, .ok (if sh.condUnary op t then 0 else 1))
      | (sh, .error f) => (sh, .error f)
    | .binary op l r =>
      match Session.expandText fuel sh l with
      | (sh, .error f) => (sh, .error f)
      | (sh, .ok a) =>
        if op == "==" || op == "=" || op == "!=" then
          match Session.expandParts fuel sh false (sh.tildes false true r) with
          | (sh, .error f) => (sh, .error f)
          | (sh, .ok ps) =>
            let hit := Glob.matches (sh.patternOf ps) a.toList
            (sh, .ok (if hit == (op != "!=") then 0 else 1))
        else if op == "=~" then
          match Session.expandParts fuel sh false r with
          | (sh, .error f) => (sh, .error f)
          | (sh, .ok ps) =>
            match Regex.parse? (regexText ps) with
            | none => (sh, .ok 2)
            | some re =>
              match Regex.search re a with
              | some m =>
                let texts := m.texts re a
                ({ sh with arrays := setIn' sh.arrays "BASH_REMATCH" (.indexed (texts.zipIdx.map fun (t, i) => (i, t))) },
                  .ok 0)
              | none => ({ sh with arrays := setIn' sh.arrays "BASH_REMATCH" (.indexed []) }, .ok 1)
        else
          match Session.expandText fuel sh r with
          | (sh, .error f) => (sh, .error f)
          | (sh, .ok b) =>
            if ["-eq", "-ne", "-lt", "-le", "-gt", "-ge"].contains op then
              let failed (sh : Session) (e : Arith.Extended.Failure) : Session × Except Flow Nat :=
                match e with
                | .unbound n => (sh.complain sh.fds sh.line (n ++ ": unbound variable"), .error (.exit 1))
                | e => (sh.complain sh.fds sh.line (e.message (some "[[")), .ok 1)
              match sh.evalArith a with
              | .error e => failed sh e
              | .ok (x, sh) =>
                match sh.evalArith b with
                | .error e => failed sh e
                | .ok (y, sh) =>
                  let holds := match op with
                    | "-eq" => x == y
                    | "-ne" => x != y
                    | "-lt" => x.toInt < y.toInt
                    | "-le" => x.toInt ≤ y.toInt
                    | "-gt" => x.toInt > y.toInt
                    | _ => x.toInt ≥ y.toInt
                  (sh, .ok (if holds then 0 else 1))
            else (sh, .ok (if sh.condBinary op a b then 0 else 1))
    | .not c =>
      match Session.evalCond fuel sh c with
      | (sh, .ok n) => (sh, .ok (if n == 0 then 1 else if n == 1 then 0 else n))
      | r => r
    | .and a b =>
      match Session.evalCond fuel sh a with
      | (sh, .ok 0) => Session.evalCond fuel sh b
      | r => r
    | .or a b =>
      match Session.evalCond fuel sh a with
      | (sh, .ok 0) => (sh, .ok 0)
      | (sh, .ok _) => Session.evalCond fuel sh b
      | r => r

termination_by structural fuel => fuel

/-- Runs the body of a `for` loop once for each item, with the variable set to it. -/
def Session.runFor : Nat → Session → Bool → String → List String → List AndOr → Session × Flow
  | 0, sh, _, _, _, _ => (sh, .normal)
  | _ + 1, sh, _, _, [], _ => (sh, .normal)
  | fuel + 1, sh, tested, name, v :: vs, body =>
    match sh.assign name v with
    | .error m => (sh.complain sh.fds sh.line m, .exit 2)
    | .ok sh =>
      match Session.runList fuel sh tested body with
      | (sh, .normal) | (sh, .continueLoop 1) => Session.runFor fuel sh tested name vs body
      | (sh, .breakLoop 1) => (sh, .normal)
      | (sh, .continueLoop (n + 1)) => (sh, .continueLoop n)
      | (sh, .breakLoop (n + 1)) => (sh, .breakLoop n)
      | r => r

termination_by structural fuel => fuel

/-- Runs a `select` command: writes the menu of its words (again when the line read is
empty), the prompt `PS3`, and reads a line into `REPLY`; the variable gets the word of the
number read (empty for anything else) and the body runs, until the input ends (status 1)
or the body breaks out. -/
def Session.runSelect : Nat → Session → Bool → String → List String → List AndOr → Bool → Session × Flow
  | 0, sh, _, _, _, _, _ => (sh, .normal)
  | fuel + 1, sh, tested, name, items, body, showMenu =>
    let columns := ((sh.lookupVar "COLUMNS").bind String.toNat?).getD 80
    let sh := if showMenu then sh.say sh.fds 2 (selectMenu columns items) else sh
    let sh := sh.say sh.fds 2 ((sh.lookupVar "PS3").getD "#? ")
    match sh.bashReadCommand sh.fds sh.line [] with
    | (sh, 0, _) =>
      let reply := sh.var "REPLY"
      if reply.isEmpty then Session.runSelect fuel sh tested name items body true
      else
        match sh.assign name (selectChoice items reply) with
        | .error m => (sh.complain sh.fds sh.line m, .exit 2)
        | .ok sh =>
          match Session.runList fuel sh tested body with
          | (sh, .normal) | (sh, .continueLoop 1) =>
            Session.runSelect fuel sh tested name items body (sh.var "REPLY").isEmpty
          | (sh, .breakLoop 1) => (sh, .normal)
          | (sh, .continueLoop (n + 1)) => (sh, .continueLoop n)
          | (sh, .breakLoop (n + 1)) => (sh, .breakLoop n)
          | r => r
    | (sh, _, _) => ({ sh.say sh.fds 1 "\n" with status := 1 }, .normal)

termination_by structural fuel => fuel

/-- Runs the body of the first arm of a `case` command with a pattern that matches the
subject, and after it, as the arm ends, the next body or the next arm that matches; the
status is zero when no body ran or the body is empty. `entered` runs the first arm's body
without testing its patterns, and `ran` tells whether a body ran already. -/
def Session.runCase : Nat → Session → Bool → Bool → Bool → String → List CaseArm → Session × Flow
  | 0, sh, _, _, _, _, _ => (sh, .normal)
  | _ + 1, sh, _, _, ran, _, [] => (if ran then sh else { sh with status := 0 }, .normal)
  | fuel + 1, sh, tested, entered, ran, subject, arm :: arms =>
    let matched : Session × Except Flow Bool :=
      if entered then (sh, .ok true) else Session.matchAny fuel sh subject arm.patterns
    match matched with
    | (sh, .error flow) => ({ sh with status := 2 }, flow)
    | (sh, .ok true) =>
      let (sh, flow) :=
        if arm.body.isEmpty then ({ sh with status := 0 }, .normal) else Session.runList fuel sh tested arm.body
      match flow, arm.ending with
      | .normal, .fallThrough => Session.runCase fuel sh tested true true subject arms
      | .normal, .testNext => Session.runCase fuel sh tested false true subject arms
      | flow, _ => (sh, flow)
    | (sh, .ok false) => Session.runCase fuel sh tested false ran subject arms

termination_by structural fuel => fuel

/-- Whether one of the patterns matches a subject; they are expanded one by one, until
one matches. -/
def Session.matchAny : Nat → Session → String → List Word → Session × Except Flow Bool
  | 0, sh, _, _ => (sh, .ok false)
  | _ + 1, sh, _, [] => (sh, .ok false)
  | fuel + 1, sh, subject, w :: ws =>
    match Session.expandParts fuel sh false (sh.tildes false true w) with
    | (sh, .error flow) => (sh, .error flow)
    | (sh, .ok ps) =>
      if Glob.matches (sh.patternOf ps) subject.toList then (sh, .ok true)
      else Session.matchAny fuel sh subject ws

termination_by structural fuel => fuel

/-- Runs a simple command; a pipeline stage reads `input`. Its words, the targets of its
redirections and its assignments are expanded in this order, the command is written
under `set -x`, and its redirections are opened. -/
def Session.runSimple : Nat → Session → Bool → Simple → Option (List UInt8) → Session × Flow
  | 0, sh, _, _, _ => (sh, .normal)
  | fuel + 1, sh, tested, s, input =>
    if sh.isBash then Session.runSimpleBash fuel sh tested s input else
    let sh := { sh with substStatus := none, line := s.line }
    match Session.expandWords fuel sh s.words with
    | (sh, .error flow) => ({ sh with status := 2 }, flow)
    | (sh, .ok argv) =>
      match Session.expandRedirects fuel sh s.redirects with
      | (sh, .error flow) => ({ sh with status := 2 }, flow)
      | (sh, .ok opens) =>
        match Session.expandAssigns fuel sh s.assigns with
        | (sh, .error flow) => ({ sh with status := 2 }, flow)
        | (sh, .ok env) =>
          let sh := if sh.isOn "xtrace" then Session.trace fuel sh env argv else sh
          let base := match input with
            | some bs => setFd sh.fds 0 (.input bs)
            | none => sh.fds
          let special := argv.head?.any specialBuiltins.contains
          match sh.openAll base [] opens with
          | (sh, .error fatal) => ({ sh with status := 2 }, if fatal || special then .exit 2 else .normal)
          | (sh, .ok fds) =>
            match argv with
            | [] =>
              let assigned := env.foldl (fun (r : Except String Session) (n, v) => r.bind fun sh => sh.assign n v) (.ok sh)
              match assigned with
              | .error m => ({ sh.complain fds sh.line m with status := 2 }, .exit 2)
              | .ok sh => ({ sh with status := sh.substStatus.getD 0 }, .normal)
            | name :: args =>
              let (sh, status, flow) := Session.runCommand fuel sh tested fds env name args
              match flow with
              | .normal => Session.runPending fuel { sh with status := status }
              | _ => ({ sh with status := status }, flow)

termination_by structural fuel => fuel

/-- Runs a simple command of the `bash` dialect. Its words are expanded after brace
expansion, and for a command that declares variables a word that is an assignment is kept
whole; then come the targets of its redirections and its assignments. Without a command
name the assignments are made in turn, a list `(...)` giving an array; a problem with one
is reported with status 1. A redirection that fails is reported with status 1 and the
command does not run. -/
def Session.runSimpleBash : Nat → Session → Bool → Simple → Option (List UInt8) → Session × Flow
  | 0, sh, _, _, _ => (sh, .normal)
  | fuel + 1, sh, tested, s, input =>
    let sh := { sh with substStatus := none, line := s.line }
    let sh := if sh.trapping then sh else { sh with commandText := s.written }
    -- the command of `DEBUG` runs before each simple command, with the status kept
    let (sh, flow) : Session × Flow := match (if sh.trapping then none else sh.trapFor? debugTrap) with
      | some action =>
        match Session.runSource fuel { sh with trapping := true } (Source.ofString sh.dialect sh.line action) 0 with
        | (after, .normal) => ({ after with status := sh.status, trapping := false, line := s.line }, .normal)
        | (after, f) => ({ after with trapping := false }, f)
      | none => (sh, .normal)
    if !(flow matches .normal) then (sh, flow) else
    let kept := sh.fds
    let declaring := match s.words with
      | [.plain n] :: _ => declaringBuiltins.contains n && !sh.functions.any (·.1 == n)
      | _ => false
    match Session.expandArgs fuel sh declaring s.words with
    | (sh, .error flow) => ({ sh with status := 1 }, flow)
    | (sh, .ok argv) =>
      match Session.expandRedirects fuel sh s.redirects with
      | (sh, .error flow) => ({ sh with status := 1 }, flow)
      | (sh, .ok opens) =>
        let base := match input with
          | some bs => setFd sh.fds 0 (.input bs)
          | none => sh.fds
        match argv with
        | [] =>
          match Session.assignInTurn fuel sh s.assigns with
          | (sh, .error flow) => ({ sh with status := 1 }, flow)
          | (sh, .ok false) => ({ sh with status := 1 }, .normal)
          | (sh, .ok true) =>
            let sh := { sh with lastArgument := "" }
            match sh.openAll base [] opens with
            | (sh, .error _) => ({ sh with status := 1 }, .normal)
            | (sh, .ok _) => ({ sh with status := sh.substStatus.getD 0 }, .normal)
        | first :: rest =>
          match Session.expandBashAssigns fuel sh s.assigns with
          | (sh, .error flow) => ({ sh with status := 1 }, flow)
          | (sh, .ok assigns) =>
            let env := assigns.map fun (t, v) => (t.name, match v with
              | .text x => x
              | .items _ => "")
            let words := argv.map fun a => match a with
              | .word w => w
              | .assign t v => t.text ++ "=" ++ (match v with
                | .text x => x
                | .items _ => "")
            let sh := if sh.isOn "xtrace" then
                let lead := match Session.expandText fuel sh (Word.ofText true (sh.var "PS4")) with
                  | (_, .ok t) => t
                  | (_, .error _) => sh.var "PS4"
                let lead := sh.traceLead lead
                sh.say sh.fds 2 (lead ++ " ".intercalate (env.map (fun (n, v) => n ++ "=" ++ traceWord v) ++
                  words.map traceWord) ++ "\n")
              else sh
            match sh.openAll base [] opens with
            | (sh, .error _) => ({ sh with status := 1, fds := kept, lastArgument := words.getLast?.getD "" }, .normal)
            | (sh, .ok fds) =>
              let (sh, status, flow) := match first with
                | .word name =>
                  if declaring then
                    let (after, status, flow) := (sh.assignFor env).declareCommand fds sh.line name rest
                    (after.restoreVars sh (env.map Prod.fst), status, flow)
                  else Session.runCommandBash fuel sh tested fds env name (words.drop 1)
                | .assign .. => (sh, 0, .normal)
              -- the descriptors of process substitutions close when the command ends
              let sh := { sh with fds := sh.fds.filter fun (k, _) => k < 54 || k > 63 || kept.any (·.1 == k),
                                  lastArgument := words.getLast?.getD "" }
              match flow with
              | .normal => Session.runPending fuel { sh with status := status }
              | _ => ({ sh with status := status }, flow)

termination_by structural fuel => fuel

/-- Expands the words of a command of the `bash` dialect into its arguments, each word
after brace expansion; for a command that declares variables (`declaring`) a word that is
an assignment is kept whole. -/
def Session.expandArgs : Nat → Session → Bool → List Word → Session × Except Flow (List DeclArg)
  | 0, sh, _, _ => (sh, .ok [])
  | _ + 1, sh, _, [] => (sh, .ok [])
  | fuel + 1, sh, declaring, w :: ws =>
    let one : Session × Except Flow (List DeclArg) :=
      match (if declaring then assignment? true w else none) with
      | some (t, v) =>
        let (n, key, append) := Target.parse t
        match Session.expandKey fuel sh key with
        | (sh, .error f) => (sh, .error f)
        | (sh, .ok key) =>
          match Session.assignValue fuel sh v with
          | (sh, .ok value) => (sh, .ok [.assign ⟨n, key, append⟩ value])
          | (sh, .error f) => (sh, .error f)
      | none =>
        match Session.expandWords fuel sh (Word.braceExpand w) with
        | (sh, .ok fields) => (sh, .ok (fields.map .word))
        | (sh, .error f) => (sh, .error f)
    match one with
    | (sh, .error f) => (sh, .error f)
    | (sh, .ok a) =>
      match Session.expandArgs fuel sh declaring ws with
      | (sh, .error f) => (sh, .error f)
      | (sh, .ok b) => (sh, .ok (a ++ b))

termination_by structural fuel => fuel

/-- Expands the subscript of an assignment's target. -/
def Session.expandKey : Nat → Session → Option String → Session × Except Flow (Option String)
  | 0, sh, k => (sh, .ok k)
  | _ + 1, sh, none => (sh, .ok none)
  | fuel + 1, sh, some k =>
    match Session.expandText fuel sh (Word.ofText true k) with
    | (sh, .ok t) => (sh, .ok (some t))
    | (sh, .error f) => (sh, .error f)

termination_by structural fuel => fuel

/-- The value of an assignment of the `bash` dialect: the text of its word, or the items
of a list `(...)`. -/
def Session.assignValue : Nat → Session → Word → Session × Except Flow AssignValue
  | 0, sh, _ => (sh, .ok (.text ""))
  | fuel + 1, sh, w =>
    match w with
    | [.list t] =>
      match Session.listItems fuel sh (listWords t) with
      | (sh, .ok items) => (sh, .ok (.items items))
      | (sh, .error f) => (sh, .error f)
    | _ =>
      match Session.expandParts fuel sh false (sh.tildes true true w) with
      | (sh, .ok ps) => (sh, .ok (.text (Piece.joined ps)))
      | (sh, .error f) => (sh, .error f)

termination_by structural fuel => fuel

/-- Expands the words of a list `(...)` into its items: a word `[key]=value` into a key and
its value, another, after brace expansion, into its fields. -/
def Session.listItems : Nat → Session → List Word → Session × Except Flow (List (Option String × String))
  | 0, sh, _ => (sh, .ok [])
  | _ + 1, sh, [] => (sh, .ok [])
  | fuel + 1, sh, w :: ws =>
    let one : Session × Except Flow (List (Option String × String)) :=
      match keyedItem? w with
      | some (k, v) =>
        match Session.expandText fuel sh (Word.ofText true k) with
        | (sh, .error f) => (sh, .error f)
        | (sh, .ok key) =>
          match Session.expandText fuel sh (Word.ofText true v) with
          | (sh, .error f) => (sh, .error f)
          | (sh, .ok value) => (sh, .ok [(some key, value)])
      | none =>
        match Session.expandWords fuel sh (Word.braceExpand w) with
        | (sh, .error f) => (sh, .error f)
        | (sh, .ok fields) => (sh, .ok (fields.map (none, ·)))
    match one with
    | (sh, .error f) => (sh, .error f)
    | (sh, .ok a) =>
      match Session.listItems fuel sh ws with
      | (sh, .error f) => (sh, .error f)
      | (sh, .ok b) => (sh, .ok (a ++ b))

termination_by structural fuel => fuel

/-- Expands the assignments before a command of the `bash` dialect into targets and values. -/
def Session.expandBashAssigns : Nat → Session → List (String × Word) →
    Session × Except Flow (List (Target × AssignValue))
  | 0, sh, _ => (sh, .ok [])
  | _ + 1, sh, [] => (sh, .ok [])
  | fuel + 1, sh, (t, w) :: rest =>
    let (n, key, append) := Target.parse t
    match Session.expandKey fuel sh key with
    | (sh, .error f) => (sh, .error f)
    | (sh, .ok key) =>
      match Session.assignValue fuel sh w with
      | (sh, .error f) => (sh, .error f)
      | (sh, .ok v) =>
        match Session.expandBashAssigns fuel sh rest with
        | (sh, .error f) => (sh, .error f)
        | (sh, .ok more) => (sh, .ok ((⟨n, key, append⟩, v) :: more))

termination_by structural fuel => fuel

/-- Makes the assignments of a command of the `bash` dialect that has no name, each
expanded and made before the next; `false` after one that may not be made, which is
reported and ends the rest. -/
def Session.assignInTurn : Nat → Session → List (String × Word) → Session × Except Flow Bool
  | 0, sh, _ => (sh, .ok true)
  | _ + 1, sh, [] => (sh, .ok true)
  | fuel + 1, sh, a :: rest =>
    match Session.expandBashAssigns fuel sh [a] with
    | (sh, .error f) => (sh, .error f)
    | (sh, .ok made) =>
      let sh := if sh.isOn "xtrace" then
          let lead := match Session.expandText fuel sh (Word.ofText true (sh.var "PS4")) with
            | (_, .ok t) => t
            | (_, .error _) => sh.var "PS4"
          let lead := sh.traceLead lead
          sh.say sh.fds 2 (lead ++ " ".intercalate (made.map fun (t, v) => t.text ++ "=" ++ (match v with
            | .text x => traceWord x
            | .items items => "(" ++ " ".intercalate (items.map fun (_, x) => traceWord x) ++ ")")) ++ "\n")
        else sh
      match made.foldl (fun (r : Except String Session) (t, v) => r.bind fun sh => sh.assignTo t v) (.ok sh) with
      | .ok sh => Session.assignInTurn fuel sh rest
      | .error m => (sh.complain sh.fds sh.line m, .ok false)

termination_by structural fuel => fuel

/-- Runs a command of the `bash` dialect by name: a path as a program, then functions,
built-in commands, and programs found on the search path. The assignments before the
command hold, exported, while a function or a built-in command runs. -/
def Session.runCommandBash : Nat → Session → Bool → List (Nat × Dest) → List (String × String) → String →
    List String → Step
  | 0, sh, _, _, _, _, _ => (sh, 0, .normal)
  | fuel + 1, sh, tested, fds, env, name, args =>
    match env.find? fun (n, _) => sh.readonly.contains n with
    | some (n, _) => (sh.complain fds sh.line (n ++ ": readonly variable"), 1, .normal)
    | none =>
      if name.contains '/' then Session.runProgram fuel sh fds env .command none name args
      else
        match sh.functions.find? (·.1 == name) with
        | some (_, .function _ body defLine) =>
          let (after, status, flow) :=
            let frame : Frame := ⟨name, sh.lineNumber sh.line, (sh.definedIn.lookup name).getD sh.sourceFile⟩
            Session.callFunction fuel { sh.assignFor env with calls := frame :: sh.calls } tested fds body defLine args
          ({ after.restoreVars sh (env.map Prod.fst) with calls := sh.calls }, status, flow)
        | _ =>
          let runShellBuiltin (name : String) (args : List String) : Step :=
            if ["eval", "exec", ".", "source"].contains name then
              let (after, status, flow) := Session.runSpecial fuel (sh.assignFor env) fds env name args false
              (after.restoreVars sh (env.map Prod.fst), status, flow)
            else if name == "command" then
              let (after, status, flow) := Session.runRegular fuel (sh.assignFor env) fds env name args
              (after.restoreVars sh (env.map Prod.fst), status, flow)
            else
              let (after, status, flow) := ((sh.assignFor env).runBashBuiltin fds sh.line name args).getD (sh, 0, .normal)
              (after.restoreVars sh (env.map Prod.fst), status, flow)
          let enabled (name : String) : Bool := bashBuiltins.contains name && !sh.disabled.contains name
          if name == "builtin" && enabled name then
            match withoutOptions args with
            | .error m => sh.usageFail fds sh.line "builtin" m "builtin [shell-builtin [arg ...]]"
            | .ok args =>
              match args.dropWhile (· == "builtin") with
              | [] => (sh, 0, .normal)
              | n :: more =>
                if enabled n then runShellBuiltin n more
                else (sh.complain fds sh.line ("builtin: " ++ n ++ ": not a shell builtin"), 1, .normal)
          else if enabled name then runShellBuiltin name args
          else Session.runProgram fuel sh fds env .command none name args

termination_by structural fuel => fuel

/-- Writes a command under `set -x`: `PS4` expanded, then the assignments and the fields,
separated by blanks. -/
def Session.trace : Nat → Session → List (String × String) → List String → Session
  | 0, sh, _, _ => sh
  | fuel + 1, sh, env, argv =>
    let lead := match Session.expandText fuel sh (Word.ofText sh.isBash (sh.var "PS4")) with
      | (_, .ok t) => t
      | (_, .error _) => sh.var "PS4"
    let lead := sh.traceLead lead
    let words := env.map (fun (n, v) => n ++ "=" ++ v) ++ argv
    sh.say sh.fds 2 (lead ++ " ".intercalate words ++ "\n")

termination_by structural fuel => fuel

/-- Runs the commands set for the signals caught during the last command, in order, each
with the status kept; one that leaves the shell ends the rest. -/
def Session.runPending : Nat → Session → Session × Flow
  | 0, sh => (sh, .normal)
  | fuel + 1, sh =>
    match sh.pending with
    | [] => (sh, .normal)
    | signal :: rest =>
      let sh := { sh with pending := rest }
      match sh.trapFor? signal with
      | some action =>
        match Session.runSource fuel { sh with trapping := true } (Source.ofString sh.dialect 1 action) 0 with
        | (after, .normal) => Session.runPending fuel { after with status := sh.status, trapping := sh.trapping }
        | (after, f) => ({ after with trapping := sh.trapping }, f)
      | none => Session.runPending fuel sh

termination_by structural fuel => fuel

/-- Runs the command set for the shell's exit, if any, once the shell ends by a flow that
is not a signal or a stop from outside. The shell's status stays, unless the command
leaves the shell itself. -/
def Session.exitTrap : Nat → Session → Flow → Session × Flow
  | 0, sh, flow => (sh, flow)
  | fuel + 1, sh, flow =>
    match flow, sh.trapFor? 0 with
    | .signaled _, _ | .stopped, _ | _, none => (sh, flow)
    | _, some action =>
      let status := match flow with
        | .exit n => n
        | _ => sh.status
      let sh := { sh with traps := sh.traps.filter (·.1 != 0), status := status }
      match Session.runSource fuel { sh with trapping := true } (Source.ofString sh.dialect 1 action) 0 with
      | (after, .exit n) => (after, .exit n)
      | (after, .signaled n) => (after, .signaled n)
      | (after, .stopped) => (after, .stopped)
      | (after, _) => ({ after with status := status }, .exit status)

termination_by structural fuel => fuel

/-- Runs a command by name with its descriptors and the assignments before it: a path as
a program, then the special built-in commands, functions, the other built-in commands,
and programs found on the search path. The assignments stay after a special built-in
command; for a function or another built-in command they hold, exported, while it runs.
An assignment to a variable that may not be changed ends the shell, or fails the program. -/
def Session.runCommand : Nat → Session → Bool → List (Nat × Dest) → List (String × String) → String →
    List String → Step
  | 0, sh, _, _, _, _, _ => (sh, 0, .normal)
  | fuel + 1, sh, tested, fds, env, name, args =>
    let locked := env.findSome? fun (n, v) => sh.valueProblem? n v
    let refuse (sh : Session) : Step := match locked with
      | some m => (sh.complain fds sh.line m, 2, .exit 2)
      | none => (sh, 0, .normal)
    if name.contains '/' then Session.runProgram fuel sh fds env .command none name args
    else if specialBuiltins.contains name then
      if locked.isSome then refuse sh
      else Session.runSpecial fuel (env.foldl (fun sh (n, v) => sh.setVar n v) sh) fds env name args true
    else
      match sh.functions.find? (·.1 == name) with
      | some (_, .function _ body defLine) =>
        if locked.isSome then refuse sh
        else
          let (after, status, flow) := Session.callFunction fuel (sh.assignFor env) tested fds body defLine args
          (after.restoreVars sh (env.map Prod.fst), status, flow)
      | _ =>
        if regularBuiltins.contains name then
          if locked.isSome then refuse sh
          else
            let (after, status, flow) := Session.runRegular fuel (sh.assignFor env) fds env name args
            (after.restoreVars sh (env.map Prod.fst), status, flow)
        else Session.runProgram fuel sh fds env .command none name args

termination_by structural fuel => fuel

/-- Runs a special built-in command: `eval`, `exec` and `.` here, the others as built-in
commands; `special` when a problem ends the shell. -/
def Session.runSpecial : Nat → Session → List (Nat × Dest) → List (String × String) → String → List String →
    Bool → Step
  | 0, sh, _, _, _, _, _ => (sh, 0, .normal)
  | fuel + 1, sh, fds, env, name, args, special =>
    let line := sh.line
    match name with
    | "eval" =>
      match (if sh.isBash then withoutOptions args else .ok args) with
      | .error m => sh.usageFail fds line "eval" m "eval [arg ...]"
      | .ok args =>
      -- the `bash` dialect numbers the lines of the text from the line of `eval`
      let src := if sh.isBash then
          { Source.ofString sh.dialect line (" ".intercalate args) with origin := some "eval", recoverable := true }
        else Source.ofString sh.dialect 1 (" ".intercalate args)
      if src.next sh.aliases matches .finished then (sh, 0, .normal)
      else
        let saved := sh.fds
        let depth := sh.traceDepth
        let context := sh.context
        let (sh, flow) := Session.runSource fuel
          { sh with fds := fds, traceDepth := depth + 1, context := if sh.isBash then none else some "eval" } src 0
        ({ sh with fds := keptFds saved fds sh.fds, line := line, traceDepth := depth, context := context }, sh.status, flow)
    | "exec" =>
      let opened : Except String (Session × List (String × String) × Option String × List String) :=
        if sh.isBash then
          match readOptions "cla:" args with
          | .error m => .error m
          | .ok (opts, rest) =>
            let sh := if opts.any (·.1 == 'c') then { sh with exported := [] } else sh
            let env := if opts.any (·.1 == 'c') then [] else env
            let shown := (opts.find? (·.1 == 'a')).map Prod.snd
            let shown := if opts.any (·.1 == 'l') then some ("-" ++ shown.getD (rest.headD "")) else shown
            .ok (sh, env, shown, rest)
        else .ok (sh, env, none, args)
      match opened with
      | .error m =>
        sh.usageFail fds line "exec" (bashOptionProblem m) "exec [-cl] [-a name] [command [argument ...]] [redirection ...]"
      | .ok (_, _, _, []) => ({ sh with fds := fds }, 0, .normal)
      | .ok (sh, env, shown, n :: rest) =>
        let (after, status, flow) := Session.runProgram fuel { sh with context := none } fds env (.exec shown) none n rest
        -- the program takes the place of the shell, so no trap of the shell runs after it
        let sh := { after with traps := [], context := sh.context }
        match flow with
        | .signaled _ | .stopped => (sh, status, flow)
        | .exit c => (sh, c, .exit c)
        | _ => (sh, status, .exit status)
    | "." | "source" =>
      if sh.isBash then
        match withoutOptions args with
        | .error m => sh.usageFail fds line name m (name ++ " filename [arguments]")
        | .ok [] => sh.usageFail fds line name "filename argument required" (name ++ " filename [arguments]")
        | .ok (file :: params) =>
          let found : Option String := if file.contains '/' then (if sh.kindOf? file == some .file then some file else none)
            else ((candidates (sh.var "PATH") file).find? fun p => sh.kindOf? p == some .file).orElse fun _ =>
              if sh.kindOf? file == some .file then some file else none
          match found.bind fun p => (sh.readPath p).toOption with
          | none => (sh.complain fds line (file ++ ": No such file or directory"), 1, .normal)
          | some bs =>
            let saved := sh.fds
            let inner := { sh with fds := fds, calls := ⟨"source", sh.lineNumber line, found.getD file⟩ :: sh.calls,
                                   args := if params.isEmpty then sh.args else params, traceDepth := sh.traceDepth + 1 }
            let src := { Source.ofText .bash (Text.byteString bs) with origin := some (found.getD file), recoverable := true }
            let (after, flow) := Session.runSource fuel inner src 0
            let after := { after with fds := keptFds saved fds after.fds, line := line, calls := sh.calls,
                                      traceDepth := sh.traceDepth,
                                      args := if params.isEmpty then after.args else sh.args }
            match flow with
            | .returned => (after, after.status, .normal)
            | f => (after, after.status, f)
      else
      match readOptions "" args with
      | .error m => sh.fail fds line special "." m
      | .ok (_, []) => (sh, 0, .normal)
      | .ok (_, file :: _) =>
        let found : Option String := if file.contains '/' then some file
          else (candidates (sh.var "PATH") file).find? fun p => sh.kindOf? p == some .file
        match found with
        | none => sh.fail fds line special "." (file ++ ": not found")
        | some p =>
          match sh.readPath p with
          | .error _ => sh.fail fds line special "." ("cannot open " ++ p ++ ": No such file")
          | .ok bs =>
            let saved := sh.fds
            let context := sh.context
            let (sh, flow) := Session.runSource fuel { sh with fds := fds, context := some p }
              (Source.ofText sh.dialect (Text.byteString bs)) 0
            let sh := { sh with fds := keptFds saved fds sh.fds, line := line, context := context }
            match flow with
            | .returned => (sh, sh.status, .normal)
            | f => (sh, sh.status, f)
    | _ => (sh.runBuiltin fds line special name args).getD (sh, 0, .normal)

termination_by structural fuel => fuel

/-- Runs a built-in command that is not special: `command` here, the others as built-in
commands. -/
def Session.runRegular : Nat → Session → List (Nat × Dest) → List (String × String) → String → List String → Step
  | 0, sh, _, _, _, _ => (sh, 0, .normal)
  | fuel + 1, sh, fds, env, name, args =>
    if name == "command" then Session.commandBuiltin fuel sh fds env args
    else (sh.runBuiltin fds sh.line false name args).getD (sh, 0, .normal)

termination_by structural fuel => fuel

/-- Runs `command`: with `-v` or `-V` it describes its first name (status 127 when the
name names nothing); otherwise it runs the name as a built-in command, whose problems
then do not end the shell, or as a program, passing over functions. `-p` looks on the
default search path. -/
def Session.commandBuiltin : Nat → Session → List (Nat × Dest) → List (String × String) → List String → Step
  | 0, sh, _, _, _ => (sh, 0, .normal)
  | fuel + 1, sh, fds, env, args =>
    match readOptions "pvV" args with
    | .error m =>
      if sh.isBash then sh.usageFail fds sh.line "command" (bashOptionProblem m) "command [-pVv] command [arg ...]"
      else sh.fail fds sh.line false "command" m
    | .ok (opts, rest) =>
      let fixed := if opts.any (·.1 == 'p') then some defaultPath else none
      let verbose := opts.any (·.1 == 'V')
      match rest with
      | [] => (sh, 0, .normal)
      | n :: more =>
        if (verbose || opts.any (·.1 == 'v')) && sh.isBash then
          sh.bashCommandDescribe fds sh.line verbose fixed (n :: more)
        else if verbose || opts.any (·.1 == 'v') then
          let (sh, status) := sh.describe fds n verbose fixed
          (sh, status, .normal)
        else if sh.isBash then
          if ["eval", "exec", ".", "source"].contains n then Session.runSpecial fuel sh fds env n more false
          else if n == "command" then Session.commandBuiltin fuel sh fds env more
          else if bashBuiltins.contains n then (sh.runBashBuiltin fds sh.line n more).getD (sh, 0, .normal)
          else Session.runProgram fuel sh fds env .command fixed n more
        else if specialBuiltins.contains n then Session.runSpecial fuel sh fds env n more false
        else if regularBuiltins.contains n then Session.runRegular fuel sh fds env n more
        else Session.runProgram fuel sh fds env .command fixed n more

termination_by structural fuel => fuel

/-- Runs a function with its arguments as the positional parameters, its descriptors,
its own count of loops and its own place of `getopts`; `return` ends it, and the
variables it made local get their values back. A call past the depth the shell allows
fails: a fatal error in the `posix` dialect, in the `bash` dialect the end of the command
line when it passes `FUNCNEST`, or else the death of the shell. -/
def Session.callFunction : Nat → Session → Bool → List (Nat × Dest) → Command → Nat → List String → Step
  | 0, sh, _, _, _, _, _ => (sh, 0, .normal)
  | fuel + 1, sh, tested, fds, body, defLine, args =>
    let nestLimit := ((sh.lookupVar "FUNCNEST").bind signedCount?).getD 0
    if !sh.isBash && sh.depth ≥ posixCallDepth then
      (sh.complain fds sh.line ("Maximum function recursion depth (" ++ toString posixCallDepth ++ ") reached"), 2,
        .exit 2)
    else if sh.isBash && nestLimit > 0 && sh.depth ≥ nestLimit then
      let name := (sh.calls.head?.map (·.name)).getD ""
      (sh.complain fds sh.line (name ++ ": maximum function nesting level exceeded (" ++ toString sh.depth ++ ")"), 1,
        .discard)
    else if sh.isBash && sh.depth ≥ bashCallDepth then (sh, 128 + 11, .signaled 11)
    else
    -- in the `bash` dialect a function runs without the commands of `ERR` (unless `set -E`),
    -- of `DEBUG` and of `RETURN` (unless `set -T`), which it gets back when it returns
    let hidden := if sh.isBash then sh.traps.filter fun (k, _) =>
        (k == errTrap && !sh.isOn "errtrace") || ((k == debugTrap || k == returnTrap) && !sh.isOn "functrace")
      else []
    -- in the `bash` dialect `getopts` goes on where it stood, and comes back to that place
    -- after the function only when the function made `OPTIND` local
    let inner := { sh with args := args, functionLine := defLine, loops := 0, fds := fds, localSaves := [],
                           savedOptions := none, depth := sh.depth + 1,
                           optionIndex := if sh.isBash then sh.optionIndex else 1,
                           optionOffset := if sh.isBash then sh.optionOffset else none,
                           traps := sh.traps.filter fun t => !hidden.contains t }
    -- the `bash` dialect reports a problem with the redirections of a function's body on
    -- the line the body starts on
    let body := match body with
      | .placed start _ c => .placed start start c
      | c => c
    let (after, flow) := Session.runNode fuel inner tested body none
    -- the command of `RETURN` runs as the function returns, with its status kept
    let (after, flow) : Session × Flow := match flow, after.trapFor? returnTrap with
      | .returned, some action | .normal, some action =>
        if !sh.isBash || after.trapping then (after, flow)
        else
          match Session.runSource fuel { after with trapping := true } (Source.ofString sh.dialect after.line action) 0 with
          | (done, .normal) | (done, .returned) => ({ done with status := after.status, trapping := false }, flow)
          | (done, f) => ({ done with trapping := false }, f)
      | _, _ => (after, flow)
    let after := { after with traps := hidden.foldl (fun ts (k, v) => (k, v) :: ts.filter (·.1 != k)) after.traps }
    let madeLocal := after.localSaves.any (·.name == "OPTIND")
    let keepsPlace := sh.isBash && !madeLocal
    let restored := after.restoreLocals
    -- in the `posix` dialect the value `OPTIND` gets back sets where `getopts` stands
    let (index, offset) := if keepsPlace then (after.optionIndex, after.optionOffset)
      else if !sh.isBash && madeLocal then (max 1 ((posixOptionIndex? (restored.var "OPTIND")).getD 1), none)
      else (sh.optionIndex, sh.optionOffset)
    let sh := { restored with args := sh.args, functionLine := sh.functionLine, loops := sh.loops,
                                         fds := keptFds sh.fds fds after.fds, localSaves := sh.localSaves,
                                         savedOptions := sh.savedOptions, line := sh.line, depth := sh.depth,
                                         optionIndex := index, optionOffset := offset,
                                         optionWord := if keepsPlace then after.optionWord else sh.optionWord }
    match flow with
    | .returned | .breakLoop _ | .continueLoop _ | .normal => (sh, sh.status, .normal)
    | f => (sh, sh.status, f)

termination_by structural fuel => fuel

/-- Runs a program by name, with the assignments before it added to its environment:
a path as it is, a bare name found on the search path (`fixedPath`, or the value of
`PATH`), which the shell then remembers. When `exec` runs it, its messages say so, and
the program sees the name `exec -a` gave it. -/
def Session.runProgram : Nat → Session → List (Nat × Dest) → List (String × String) → Launch → Option String →
    String → List String → Step
  | 0, sh, _, _, _, _, _, _ => (sh, 0, .normal)
  | fuel + 1, sh, fds, env, launch, fixedPath, name, args =>
    let viaExec := launch != .command
    let invoked := match launch with
      | .exec (some shown) => shown
      | _ => name
    let line := sh.line
    let label := if viaExec then "exec: " ++ name else name
    match env.find? fun (n, _) => sh.readonly.contains n with
    | some (n, _) => (sh.complain fds line (n ++ ": is read only"), 2, .normal)
    | none =>
      let childEnv := (sh.assignFor env).environment
      -- a program that takes the place of the shell starts one level lower
      let childEnv := if (sh.lastOfText || (viaExec && sh.isBash)) && !sh.copy then
          childEnv.map fun (n, v) => if n == "SHLVL" then (n, toString (((v.toInt?).getD 1) - 1)) else (n, v)
        else childEnv
      let searchPath := fixedPath.getD ((env.lookup "PATH").getD (sh.var "PATH"))
      let startFrom (path : String) : Except (String × StartError) (String × Program) :=
        match startAt sh.workspace sh.cwd path with
        | .ok p => .ok (path, p)
        | .error e => .error (path, e)
      let (started, sh, refused) : Except (String × StartError) (String × Program) × Session × Bool :=
        if name.contains '/' then (startFrom (Session.pathText name), sh, false)
        else
          match shellLookup sh.workspace sh.cwd (Session.pathText searchPath) (Session.pathText name) sh.isBash with
          | none =>
            let refused := !sh.isBash && shellBlocked sh.workspace sh.cwd (Session.pathText searchPath) (Session.pathText name)
            (.error (Session.pathText name, if refused then .denied else .notFound), sh, refused)
          | some (i, path) =>
            let fixed := fixedPath.isSome || env.any (·.1 == "PATH")
            let sh := if fixed then sh
              else if sh.tracked.any (·.1 == name) then (if sh.isBash then sh.hit name else sh)
              else if sh.isBash then sh.remember name (Text.utf8Bytes path) 1
              else { sh with tracked := sh.tracked ++ [(name, Text.utf8Bytes path)] }
            -- the `posix` dialect tries the later places of the search path when one does not start
            (if sh.isBash then startFrom path
              else shellStart sh.workspace sh.cwd (Session.pathText searchPath) (Session.pathText name) i, sh, false)
      match started with
      | .ok (path, prog) => Session.runStarted fuel sh fds childEnv invoked (Text.utf8Bytes path) prog args
      | .error (path, .badFormat) =>
        match sh.readPath (Text.utf8Bytes path) with
        | .ok bs =>
          Session.runChild fuel sh fds childEnv (Text.utf8Bytes path) args (Source.ofText sh.dialect (Text.byteString bs)) []
            ⟨some (Text.utf8Bytes path), sh.var "BASH", []⟩
        | .error _ => (sh.complain fds line (label ++ ": not found"), 127, .normal)
      | .error (path, e) =>
        let (sh, status) := sh.cannotStart fds line viaExec refused name (Text.utf8Bytes path) e
        (sh, status, .normal)

termination_by structural fuel => fuel

/-- Runs a program that started: a script in a new shell, or a program of the system. -/
def Session.runStarted : Nat → Session → List (Nat × Dest) → List (String × String) → String → String → Program →
    List String → Step
  | 0, sh, _, _, _, _, _, _ => (sh, 0, .normal)
  | fuel + 1, sh, fds, env, invoked, path, prog, args =>
    match prog with
    | .script _ content =>
      Session.runChild fuel sh fds env path args (Source.ofText (scriptDialect content) (Text.byteString content)) []
        ⟨some path, interpreterPath content, []⟩
    | .tool t => Session.runSystem fuel sh fds env invoked t args

termination_by structural fuel => fuel

/-- Runs a program of the system: a shell, `env`, `kill`, or one of `Tools.run?`. What
it writes goes to the descriptors in the order it was written. -/
def Session.runSystem : Nat → Session → List (Nat × Dest) → List (String × String) → String → String → List String →
    Step
  | 0, sh, _, _, _, _, _ => (sh, 0, .normal)
  | fuel + 1, sh, fds, env, invoked, t, args =>
    if ["sh", "dash", "bash"].contains t then Session.runShell fuel sh fds env invoked args
    else if t == "env" then Session.runEnv fuel sh fds env invoked args
    else if t == "kill" then
      match args.find? fun a => !a.startsWith "-" && (a.toInt?).isNone with
      | some a => (sh.say fds 2 ("kill: failed to parse argument: '" ++ a ++ "'\n"), 1, .normal)
      | none => (sh.runBuiltin fds sh.line false "kill" args).getD (sh, 0, .normal)
    else
      let input := if destOf fds 0 == .closed then none else some (inputOf fds)
      let size := match destOf fds 0 with
        | .source loc _ => some (sh.workspace.contentAt loc).length
        | _ => none
      -- the descriptors that read what the shell holds (as `<(...)` gives) are files of
      -- `/dev/fd` for the program
      let held : List (Location × List UInt8) := fds.filterMap fun (k, d) => match d with
        | .input bs => some (["dev", "fd", toString k], bs)
        | _ => none
      let ws := { sh.workspace with files := sh.workspace.files ++ held }
      let cx : Tools.Context :=
        ⟨ws, sh.cwd, input, size, env, sh.interrupt, invoked, destOf fds 0 == .directory, sh.umask⟩
      match Tools.run? cx t args with
      | some o =>
        let back := { o.workspace with files := o.workspace.files.filter fun (l, _) => !held.any (·.1 == l) }
        let sh := ({ sh with workspace := back, fds := (o.unread.map (afterInput sh.fds fds)).getD sh.fds } : Session).reapJobs
        let sh := o.writes.foldl (fun sh (fd, bs) => sh.write fds fd bs) sh
        let wrote := o.writes.any fun (fd, bs) => fd == 1 && !bs.isEmpty
        match writeFault? fds 1 with
        | some why =>
          if wrote then
            let (msg, status) := Tools.writeError t why
            ({ sh.say fds 2 msg with writeFailed := false }, max o.status status, if o.stopped then .stopped else .normal)
          else ({ sh with writeFailed := false }, o.status, if o.stopped then .stopped else .normal)
        | none => ({ sh with writeFailed := false }, o.status, if o.stopped then .stopped else .normal)
      | none => (sh, 0, .normal)

termination_by structural fuel => fuel

/-- Runs a shell as a program: the text after `-c` (with `$0` and the parameters after
it), a script file, or the script on its input. -/
def Session.runShell : Nat → Session → List (Nat × Dest) → List (String × String) → String → List String → Step
  | 0, sh, _, _, _, _ => (sh, 0, .normal)
  | fuel + 1, sh, fds, env, invoked, args =>
    let dialect : Dialect := if invokedAsBash invoked then .bash else .posix
    -- the shell finds its own path on the search path when it was invoked by a bare name
    let shellPath := if invoked.contains '/' then invoked
      else ((candidates ((env.lookup "PATH").getD "/usr/local/bin:/usr/local/sbin:/usr/bin:/usr/sbin:/bin:/sbin:.") invoked).find? (isProgramFile sh.workspace sh.cwd)).getD "/bin/bash"
    let read : Except (String × Bool) (List (String × Bool) × Bool × List String × List (String × Bool)) :=
      if dialect == .bash then
        match bashInvocation invoked (args.length + 1) true args {} with
        | .ok (st, operands) => .ok (st.options, st.command, operands, st.shopts)
        | .error m => .error (m, true)
      else
        match shellInvocation (args.length + 1) args [] false with
        | .ok (opts, c, operands) => .ok (opts, c, operands, [])
        | .error m => .error (m, false)
    match read with
    | .error (m, true) => (sh.say fds 2 m, 2, .normal)
    | .error (m, false) => (sh.say fds 2 (invoked ++ ": 0: " ++ m ++ "\n"), 2, .normal)
    | .ok (opts, commandMode, operands, shopts) =>
      let options := opts.foldl (fun os (n, on) => if on then (if os.contains n then os else os ++ [n])
        else os.filter (· != n)) []
      if commandMode then
        match operands with
        | [] =>
          let msg := if invokedAsBash invoked then invoked ++ ": -c: option requires an argument\n"
            else invoked ++ ": 0: -c requires an argument\n"
          (sh.say fds 2 msg, 2, .normal)
        | text :: rest =>
          let (zero, params) := match rest with
            | n :: more => (n, more)
            | [] => (invoked, [])
          Session.runChild fuel sh fds env zero params { Source.ofString dialect 1 text with origin := some "-c" } options
            ⟨none, shellPath, shopts⟩
      else
        match operands with
        | file :: rest =>
          match sh.readPath file with
          | .ok bs =>
            Session.runChild fuel sh fds env file rest (Source.ofText dialect (Text.byteString bs)) options
              ⟨some file, shellPath, shopts⟩
          | .error _ =>
            if invokedAsBash invoked then (sh.say fds 2 (invoked ++ ": " ++ file ++ ": No such file or directory\n"), 127, .normal)
            else (sh.say fds 2 (invoked ++ ": 0: cannot open " ++ file ++ ": No such file\n"), 2, .normal)
        | [] =>
          -- the script is all of standard input, read before it runs
          Session.runChild fuel { sh with fds := afterInput sh.fds fds [] } (setFd fds 0 (.input [])) env invoked []
            (Source.ofText dialect (Text.byteString (inputOf fds))) options ⟨none, shellPath, shopts⟩

termination_by structural fuel => fuel

/-- Runs `env`: writes the environment it makes, or runs a command in it, found on its
search path. -/
def Session.runEnv : Nat → Session → List (Nat × Dest) → List (String × String) → String → List String → Step
  | 0, sh, _, _, _, _ => (sh, 0, .normal)
  | fuel + 1, sh, fds, env, invoked, args =>
    let complain (sh : Session) (msg : String) : Session := sh.say fds 2 (Tools.renamed "env" invoked msg)
    match Tools.helpAsked "env" invoked args with
    | some text => (sh.say fds 1 text, 0, .normal)
    | none =>
    match Tools.envRequest args with
    | .error (msg, status) => (complain sh msg, status, .normal)
    | .ok r =>
    match r.settle with
    | .error (msg, status) => (complain sh msg, status, .normal)
    | .ok notes =>
      let sh := sh.say fds 2 notes
      let made := r.apply env
      match r.command with
      | [] => (sh.write fds 1 (Tools.envListing made r.null), 0, .normal)
      | n :: rest =>
        let inherited := sh.passedIgnored
        match r.signalNotes inherited with
        | .error (msg, status) => (complain sh msg, status, .normal)
        | .ok notes =>
        let sh := sh.say fds 2 (notes ++ r.chdirNote)
        -- the command finds the signals ignored that `env` leaves ignored, and no others
        let started (sh : Session) : Session :=
          { sh with ignored := r.plan.ignoredAfter inherited,
                    traps := sh.traps.filter fun (k, c) => k == 0 || !c.isEmpty }
        let back (outer sh : Session) : Session := { sh with ignored := outer.ignored, traps := outer.traps }
        let go (sh : Session) : Step :=
          let sh := sh.say fds 2 r.execNotes
          let searchPath := (made.lookup "PATH").getD "/bin:/usr/bin"
          let missing := Tools.quote n ++ ": No such file or directory\n" ++ Tools.shebangHint n
          match execSearch sh.workspace sh.cwd searchPath n with
          | .ok (path, some prog) =>
            let (after, status, flow) := Session.runStarted fuel (started sh) fds made n path prog rest
            (back sh after, status, flow)
          | .ok (path, none) =>
            match sh.readPath path with
            | .ok bs =>
              let (after, status, flow) :=
                Session.runChild fuel (started sh) fds made path rest (Source.ofText .posix (Text.byteString bs)) []
                  ⟨some path, "/bin/sh", []⟩
              (back sh after, status, flow)
            | .error _ => (complain sh ("env: " ++ missing), 127, .normal)
          | .error .denied => (complain sh ("env: " ++ Tools.quote n ++ ": Permission denied\n"), 126, .normal)
          | .error _ => (complain sh ("env: " ++ missing), 127, .normal)
        let refuse (why : String) : Step :=
          (complain sh ("env: cannot change directory to " ++ Tools.quoteAlways (r.chdir.getD "") ++ ": " ++ why ++ "\n"),
            125, .normal)
        match r.chdir.map sh.find with
        | none => go sh
        | some (.present loc .dir) =>
          let (c, status, flow) := go { sh with cwd := loc }
          ({ c with cwd := sh.cwd }, status, flow)
        | some (.present _ _) => refuse "Not a directory"
        | some (.absent ..) => refuse "No such file or directory"
        | some (.blocked f) => refuse f.reason

termination_by structural fuel => fuel

/-- Runs a script in a new shell: its name `$0`, parameters, source and options, with the
environment and the descriptors given; its status is the new shell's, as a process. -/
def Session.runChild : Nat → Session → List (Nat × Dest) → List (String × String) → String → List String → Source →
    List String → Origin → Step
  | 0, sh, _, _, _, _, _, _, _ => (sh, 0, .normal)
  | fuel + 1, sh, fds, env, zero, params, src, options, origin =>
    let fresh := Session.fresh env zero params (inputOf fds) (sh.pid + 1) sh.workspace sh.cwd sh.interrupt
    let child := ({ fresh with fds := fds, out := sh.out, err := sh.err, piped := sh.piped, later := sh.later,
                               deferSince := sh.deferSince, jobPids := sh.jobPids, options := options,
                               jobs := sh.forgetJobs.jobs,
                               ignored := sh.passedIgnored, umask := sh.umask, limits := sh.limits,
                               givenText := src.dialect == .bash && !src.echoed,
                               scriptFile := origin.script,
                               textSource := if src.origin == some "-c" then "environment" else "main" } : Session).enterDialect
                                 src.dialect
    let child := if src.dialect == .bash then child.setVar "BASH" origin.shellPath else child
    let child := origin.shopts.foldl (fun (c : Session) (n, on) =>
      { c with shopts := if on then (if c.shopts.contains n then c.shopts else c.shopts ++ [n]) else c.shopts.erase n }) child
    let (c, flow) := Session.runSource fuel child src 0
    let (c, flow) := Session.exitTrap fuel c flow
    let sh := { (sh.adoptKills c) with
                        workspace := c.workspace, out := c.out, err := c.err, piped := c.piped,
                        later := c.later, fds := sharedReads sh.fds fds c.fds }
    let sh := sh.reapJobs
    match flow with
    | .stopped => (sh, 0, .stopped)
    | .signaled n =>
      let notice := deathNotice n
      (if notice.isEmpty then sh else sh.say fds 2 notice, processStatus c.status flow, .normal)
    | f => (sh, processStatus c.status f, .normal)

termination_by structural fuel => fuel

/-- Opens no file: expands the words of redirections. -/
def Session.expandRedirects : Nat → Session → List Redirect → Session × Except Flow (List Opening)
  | 0, sh, _ => (sh, .ok [])
  | _ + 1, sh, [] => (sh, .ok [])
  | fuel + 1, sh, r :: rs =>
    -- the `bash` dialect takes the target of a redirection as fields, and only one will do
    let ambiguous (sh : Session) (w : Word) : Session × Except Flow String :=
      (sh.complain sh.fds sh.line (w.written ++ ": ambiguous redirect"), .error .normal)
    let target (sh : Session) (w : Word) : Session × Except Flow String :=
      if sh.isBash then
        match Session.expandWords fuel sh [w] with
        | (sh, .ok [p]) => (sh, .ok p)
        | (sh, .ok _) => ambiguous sh w
        | (sh, .error f) => (sh, .error f)
      else Session.expandText fuel sh w
    let one : Session × Except Flow Opening := match r with
      | .toFile fd w append force =>
        match target sh w with
        | (sh, .ok p) => (sh, .ok (.toFile fd p append force))
        | (sh, .error f) => (sh, .error f)
      | .fromFile fd w =>
        match target sh w with
        | (sh, .ok p) => (sh, .ok (.fromFile fd p))
        | (sh, .error f) => (sh, .error f)
      | .readWrite fd w =>
        match target sh w with
        | (sh, .ok p) => (sh, .ok (.readWrite fd p))
        | (sh, .error f) => (sh, .error f)
      | .duplicate fd w =>
        match target sh w with
        | (sh, .ok p) =>
          -- a coprocess runs when its output is first taken
          let sh := match p.toNat?.map (destOf sh.fds ·) with
            | some (.fromCoproc id) => Session.runCoproc fuel sh id
            | _ => sh
          let digits := p.toList.takeWhile Char.isDigit
          let names := p == "-" || (!digits.isEmpty && (p.toList == digits || p.toList == digits ++ ['-']))
          -- in the `bash` dialect `>&file` sends both outputs to the file
          if !sh.isBash || names then (sh, .ok (.duplicate fd p))
          else if fd == 1 then (sh, .ok (.both p false))
          else match ambiguous sh w with
            | (sh, .error f) => (sh, .error f)
            | (sh, .ok _) => (sh, .error .normal)
        | (sh, .error f) => (sh, .error f)
      | .here fd body =>
        match Session.expandParts fuel sh false body with
        | (sh, .ok ps) => (sh, .ok (.here fd (bytesOf (Piece.joined ps))))
        | (sh, .error f) => (sh, .error f)
      | .hereString fd w =>
        match Session.expandText fuel sh w with
        | (sh, .ok t) => (sh, .ok (.here fd (bytesOf t ++ [10])))
        | (sh, .error f) => (sh, .error f)
      | .bothToFile w append =>
        match target sh w with
        | (sh, .ok p) => (sh, .ok (.both p append))
        | (sh, .error f) => (sh, .error f)
      | .named n inner =>
        let closing := match inner with
          | .duplicate _ [.plain "-"] => true
          | _ => false
        let (sh, current) := match Session.expandText fuel sh (Word.ofText true ("$\x7b" ++ n ++ "\x7d")) with
          | (sh, .ok v) => (sh, v.toNat?)
          | (sh, .error _) => (sh, none)
        let fd? : Option Nat := if closing then current else some (freeFdFrom sh.fds 10 (sh.fds.length + 1))
        match fd? with
        | none => (sh.complain sh.fds sh.line (n ++ ": ambiguous redirect"), .error .normal)
        | some fd =>
          let (name, key, _) := Target.parse n
          let sh := if closing then sh else (sh.assignTo ⟨name, key, false⟩ (.text (toString fd))).toOption.getD sh
          match Session.expandRedirects fuel sh [inner.onFd fd] with
          | (sh, .ok (o :: _)) => (sh, .ok o)
          | (sh, .ok []) => (sh, .error .normal)
          | (sh, .error f) => (sh, .error f)
    match one with
    | (sh, .error f) => (sh, .error f)
    | (sh, .ok o) =>
      -- a descriptor chosen for `{name}` is not chosen again by the redirections after it
      let fds := sh.fds
      let held := match r with
        | .named .. => { sh with fds := setFd sh.fds o.fd .discard }
        | _ => sh
      match Session.expandRedirects fuel held rs with
      | (sh, .error f) => ({ sh with fds := fds }, .error f)
      | (sh, .ok os) => ({ sh with fds := fds }, .ok (o :: os))

termination_by structural fuel => fuel

/-- Runs a coprocess on what the shell wrote to it, its output then read on the
descriptors that lead from it. -/
def Session.runCoproc : Nat → Session → Nat → Session
  | 0, sh, _ => sh
  | fuel + 1, sh, id =>
    match sh.coprocs.find? (·.id == id) with
    | none => sh
    | some c =>
      let child := { sh.asCopy.forgetJobs with
                      traps := sh.subshellTraps, piped := [],
                      fds := setFd (setFd sh.fds 0 (.input c.input)) 1 .pipe }
      let (inner, flow) := Session.runNode fuel child false c.body none
      let (inner, _) := Session.exitTrap fuel inner flow
      let sh := { sh.adoptKills inner with
                          workspace := inner.workspace, out := inner.out, err := inner.err,
                          later := inner.later, coprocs := sh.coprocs.filter (·.id != id) }
      { sh with fds := sh.fds.map fun (k, d) => (k, if d == .fromCoproc id then .input inner.piped else d) }

termination_by structural fuel => fuel

/-- Expands the words of a command into its fields. -/
def Session.expandWords : Nat → Session → List Word → Session × Except Flow (List String)
  | 0, sh, _ => (sh, .ok [])
  | _ + 1, sh, [] => (sh, .ok [])
  | fuel + 1, sh, w :: ws =>
    match Session.expandParts fuel sh false (sh.tildes false true w) with
    | (sh, .error f) => (sh, .error f)
    | (sh, .ok ps) =>
      match (Piece.fields sh.ifs ps).find? sh.globFails with
      | some f => (sh.complain sh.fds sh.line ("no match: " ++ String.ofList (f.map Prod.fst)), .error (.exit 1))
      | none =>
      let fields := (Piece.fields sh.ifs ps).flatMap sh.glob
      match Session.expandWords fuel sh ws with
      | (sh, .error f) => (sh, .error f)
      | (sh, .ok rest) => (sh, .ok (fields ++ rest))

termination_by structural fuel => fuel

/-- Expands a word into one text, without splitting it. -/
def Session.expandText : Nat → Session → Word → Session × Except Flow String
  | 0, sh, _ => (sh, .ok "")
  | fuel + 1, sh, w =>
    match Session.expandParts fuel sh false (sh.tildes false true w) with
    | (sh, .error f) => (sh, .error f)
    | (sh, .ok ps) => (sh, .ok (Piece.joined ps))

termination_by structural fuel => fuel

/-- Expands the assignments of a command into names and values; each later one sees the
values of those before it, which are then given back their values from before. -/
def Session.expandAssigns : Nat → Session → List (String × Word) → Session × Except Flow (List (String × String))
  | 0, sh, _ => (sh, .ok [])
  | _ + 1, sh, [] => (sh, .ok [])
  | fuel + 1, sh, (n, w) :: rest =>
    match Session.expandParts fuel sh false (sh.tildes true true w) with
    | (sh, .error f) => (sh, .error f)
    | (sh, .ok ps) =>
      let v := Piece.joined ps
      let before := sh
      match Session.expandAssigns fuel (if rest.isEmpty then sh else sh.setVar n v) rest with
      | (sh, .error f) => (sh.restoreVars before [n], .error f)
      | (sh, .ok more) => (if rest.isEmpty then sh else sh.restoreVars before [n], .ok ((n, v) :: more))

termination_by structural fuel => fuel

/-- Expands the parts of a word into pieces; `plainSplits` when its plain text is the
value of an expansion outside quotes, as in the word of a modifier. A failure is
reported, with the way it ends the shell. -/
def Session.expandParts : Nat → Session → Bool → List Part → Session × Except Flow (List Piece)
  | 0, sh, _, _ => (sh, .ok [])
  | _ + 1, sh, _, [] => (sh, .ok [])
  | fuel + 1, sh, plainSplits, p :: ps =>
    match Session.expandPart fuel sh plainSplits p with
    | (sh, .error f) => (sh, .error f)
    | (sh, .ok a) =>
      match Session.expandParts fuel sh plainSplits ps with
      | (sh, .error f) => (sh, .error f)
      | (sh, .ok b) => (sh, .ok (a ++ b))

termination_by structural fuel => fuel

/-- Expands one part of a word. An expansion inside quotes always gives a field, even
an empty one, except `"$@"` without positional parameters. -/
def Session.expandPart : Nat → Session → Bool → Part → Session × Except Flow (List Piece)
  | 0, sh, _, _ => (sh, .ok [])
  | fuel + 1, sh, plainSplits, p =>
    let fail (sh : Session) (msg : String) : Session × Except Flow (List Piece) :=
      (sh.complain sh.fds sh.line msg, .error (.exit 2))
    let unsetError (q : Param) : Bool := sh.isOn "nounset" && (sh.lookup q).isNone
    match p with
    | .plain s => (sh, .ok [if plainSplits then .split s else .text s false])
    | .quoted s _ => (sh, .ok [.text s true])
    | .badSubstitution => fail sh "Bad substitution"
    | .braced text inQuotes => Session.expandBraced fuel sh text inQuotes
    | .process text reads => Session.processSubst fuel sh text reads
    | .list t => (sh, .ok [.text ("(" ++ t ++ ")") false])
    | .param .each true => (sh, .ok (eachPieces sh.args))
    -- without separators to join them, the parameters still make fields of their own
    | .param .each false | .param .joined false => (sh, .ok (sh.unquotedMany sh.args))
    | .param q inQuotes =>
      if unsetError q then
        if sh.isBash then
          let name := match q with
            | .positional _ => "$" ++ q.text
            | _ => q.text
          (sh.complain sh.fds sh.line (name ++ ": unbound variable"), .error (.exit 1))
        else fail sh (Session.paramName q ++ ": parameter not set")
      else
        match q, sh.isBash with
        | .var n, true => (sh, .ok (sh.valuesPieces (.one (((sh.arrayOf n).bind (·.atIndex? 0)).orElse fun _ =>
            sh.lookup q)) inQuotes))
        | _, _ => (sh, .ok (valuePieces (sh.param q) inQuotes))
    | .length q inQuotes =>
      if unsetError q then fail sh (Session.paramName q ++ ": parameter not set")
      else (sh, .ok (valuePieces (toString (sh.param q).length) inQuotes))
    | .modified q m word inQuotes =>
      let v := sh.lookup q
      let unset (colon : Bool) : Bool := v.isNone || (colon && v == some "")
      let value : List Piece := valuePieces (v.getD "") inQuotes
      match m with
      | .useDefault colon =>
        if unset colon then
          match Session.expandParts fuel sh (!inQuotes) (sh.modifierWord word inQuotes) with
          | (sh, .ok ps) => (sh, .ok (if inQuotes then ps ++ [.text "" true] else ps))
          | r => r
        else (sh, .ok value)
      | .useAlternative colon =>
        if unset colon then (sh, .ok (if inQuotes then [.text "" true] else []))
        else
          match Session.expandParts fuel sh (!inQuotes) (sh.modifierWord word inQuotes) with
          | (sh, .ok ps) => (sh, .ok (if inQuotes then ps ++ [.text "" true] else ps))
          | r => r
      | .assignDefault colon =>
        if unset colon then
          match Session.expandParts fuel sh false (sh.modifierWord word inQuotes) with
          | (sh, .error f) => (sh, .error f)
          | (sh, .ok ps) =>
            let assigned := Piece.joined ps
            match q with
            | .var n =>
              match sh.assign n assigned with
              | .ok sh => (sh, .ok (valuePieces assigned inQuotes))
              | .error m => fail sh m
            | _ => fail sh (Session.paramName q ++ ": bad variable name")
        else (sh, .ok value)
      | .errorIfUnset colon =>
        if unset colon then
          match Session.expandParts fuel sh false (sh.modifierWord word inQuotes) with
          | (sh, .error f) => (sh, .error f)
          | (sh, .ok ps) =>
            let msg := if word.isEmpty then "parameter not set" ++ (if colon then " or null" else "")
              else Piece.joined ps
            fail sh (Session.paramName q ++ ": " ++ msg)
        else (sh, .ok value)
      | .dropPrefix longest | .dropSuffix longest =>
        if unsetError q then fail sh (Session.paramName q ++ ": parameter not set")
        else
          match Session.expandParts fuel sh false (sh.tildes false true (Word.ofPatternText sh.isBash word)) with
          | (sh, .error f) => (sh, .error f)
          | (sh, .ok ps) =>
            let g := Glob.parseWith sh.extglob (Piece.pattern ps)
            let text := (v.getD "").toList
            let kept := match m with
              | .dropPrefix _ => Glob.dropPrefix g longest text
              | _ => Glob.dropSuffix g longest text
            (sh, .ok (valuePieces (String.ofList kept) inQuotes))
    | .command text inQuotes scriptLines =>
      match Session.substitute fuel sh scriptLines text with
      | (sh, .ok out) => (sh, .ok (valuePieces out inQuotes))
      | (sh, .error f) => (sh, .error f)
    | .arith text inQuotes =>
      if sh.isBash then
        match Session.arithOf fuel sh text with
        | (sh, .error f) => (sh, .error f)
        | (sh, .ok (.ok v)) => (sh, .ok (valuePieces (Arith.Extended.showNumber v) inQuotes))
        | (sh, .ok (.error (.unbound n))) => (sh.complain sh.fds sh.line (n ++ ": unbound variable"), .error (.exit 1))
        | (sh, .ok (.error e)) => (sh.complain sh.fds sh.line (e.message none), .error .discard)
      else
      match Session.expandParts fuel sh false (readArithText sh.isBash sh.isBash (text.length + 1) text.toList []) with
      | (sh, .error f) => (sh, .error f)
      | (sh, .ok ps) =>
        let expr := Piece.joined ps
        match Arith.evaluate expr sh.arithVars (sh.isOn "nounset") with
        | .ok (n, vars) => (sh.afterArith vars, .ok (valuePieces (Arith.showNumber n) inQuotes))
        | .error .trap => (sh, .error (.signaled 8))
        | .error f => fail sh (Arith.Failure.message expr f)

termination_by structural fuel => fuel

/-- Expands the text of an arithmetic expression of the `bash` dialect and computes it: the
value or why it does not compute; a failed expansion in the text is its flow. -/
def Session.arithOf : Nat → Session → String → Session × Except Flow (Except Arith.Extended.Failure Int64)
  | 0, sh, _ => (sh, .ok (.ok 0))
  | fuel + 1, sh, text =>
    match Session.expandParts fuel sh false (readArithText true true (text.length + 1) text.toList []) with
    | (sh, .error f) => (sh, .error f)
    | (sh, .ok ps) =>
      match sh.evalArith (Piece.joined ps) with
      | .ok (v, sh) => (sh, .ok (.ok v))
      | .error e => (sh, .ok (.error e))

termination_by structural fuel => fuel

/-- Expands `<(...)`: the commands run in a copy of the shell, and what they write is
read on a descriptor counted down from 63 that is free, whose path the word becomes. What
`>(...)` is given goes nowhere. -/
def Session.processSubst : Nat → Session → String → Bool → Session × Except Flow (List Piece)
  | 0, sh, _, _ => (sh, .ok [])
  | fuel + 1, sh, text, reads =>
    let fd := (((List.range 10).map (63 - ·)).find? fun k => destOf sh.fds k == .closed).getD 63
    let path := "/dev/fd/" ++ toString fd
    if reads then
      let child := { sh.asCopy.forgetJobs with
                      piped := [], fds := setFd sh.fds 1 .pipe, substStatus := none, traps := sh.subshellTraps }
      let (c, flow) := Session.runSource fuel child (Source.ofString sh.dialect sh.line text) 0
      let (c, _) := Session.exitTrap fuel c flow
      let sh := { sh.adoptKills c with workspace := c.workspace, out := c.out, err := c.err, later := c.later }
      ({ sh with fds := setFd sh.fds fd (.input c.piped) }, .ok [.text path false])
    else ({ sh with fds := setFd sh.fds fd .discard }, .ok [.text path false])

termination_by structural fuel => fuel

/-- Expands `$\x7b...\x7d` of the `bash` dialect by the text inside its braces: a text that
does not read is a bad substitution. -/
def Session.expandBraced : Nat → Session → String → Bool → Session × Except Flow (List Piece)
  | 0, sh, _, _ => (sh, .ok [])
  | fuel + 1, sh, text, inQuotes =>
    let fail (sh : Session) (msg : String) : Session × Except Flow (List Piece) :=
      (sh.complain sh.fds sh.line msg, .error .discard)
    match Braced.parse? text with
    | none => fail sh ("$\x7b" ++ text ++ "\x7d: bad substitution")
    | some (.length s) =>
      match Session.subjectValues fuel sh s with
      | (sh, .error f) => (sh, .error f)
      | (sh, .ok (.many vs _)) => (sh, .ok (valuePieces (toString vs.length) inQuotes))
      | (sh, .ok (.one v)) =>
        if v.isNone && sh.isOn "nounset" then
          (sh.complain sh.fds sh.line (s.label ++ ": unbound variable"), .error (.exit 1))
        else (sh, .ok (valuePieces (toString (v.getD "").length) inQuotes))
    | some (.keys n joined) =>
      let keys := match sh.arrayOf n with
        | some a => a.keys
        | none => if (sh.lookupVar n).isSome then ["0"] else []
      (sh, .ok (sh.valuesPieces (.many keys joined) inQuotes))
    | some (.names pre joined) =>
      let names := sh.knownNames.filter fun n => n.startsWith pre && (sh.isSet n || (sh.arrayOf n).isSome)
      (sh, .ok (sh.valuesPieces (.many names joined) inQuotes))
    | some (.expand indirect s op) =>
      let target : Session × Except Flow Subject :=
        if !indirect then (sh, .ok s)
        else
          match Session.subjectValues fuel sh s with
          | (sh, .error f) => (sh, .error f)
          | (sh, .ok (.one (some v))) =>
            match subjectAt v.toList with
            | some (t, []) => (sh, .ok t)
            | _ => (sh.complain sh.fds sh.line (v ++ ": invalid variable name"), .error .discard)
          | (sh, .ok _) => (sh.complain sh.fds sh.line (s.label ++ ": invalid indirect expansion"), .error .discard)
      match target with
      | (sh, .error f) => (sh, .error f)
      | (sh, .ok t) =>
        match Session.subjectValues fuel sh t with
        | (sh, .error f) => (sh, .error f)
        | (sh, .ok vals) => Session.operate fuel sh t vals op inQuotes text

termination_by structural fuel => fuel

/-- The values a braced expansion names: a parameter's value, an element of an array by its
subscript (a key of an associative array, or a number computed from the expression of an
indexed one), or all elements for `@` and `*`. -/
def Session.subjectValues : Nat → Session → Subject → Session × Except Flow Values
  | 0, sh, _ => (sh, .ok (.one none))
  | fuel + 1, sh, s =>
    match s with
    | .param .each => (sh, .ok (.many sh.args false))
    | .param .joined => (sh, .ok (.many sh.args true))
    | .param (.var n) =>
      match sh.arrayOf n with
      | some (.assoc items) => (sh, .ok (.one (List.lookup "0" items)))
      | some a => (sh, .ok (.one (a.atIndex? 0)))
      | none => (sh, .ok (.one (sh.lookup (.var n))))
    | .param p => (sh, .ok (.one (sh.lookup p)))
    | .element n sub =>
      if sub == "@" || sub == "*" then
        let vs := match sh.arrayOf n with
          | some a => a.values
          | none => (sh.lookupVar n).toList
        (sh, .ok (.many vs (sub == "*")))
      else
        match Session.expandText fuel sh (Word.ofText true sub) with
        | (sh, .error f) => (sh, .error f)
        | (sh, .ok key) =>
          match sh.arrayOf n with
          | some (.assoc items) => (sh, .ok (.one (List.lookup key items)))
          | a =>
            match sh.elementIndex n key with
            | .error m => (sh.complain sh.fds sh.line m, .error .discard)
            | .ok (i, sh) =>
              if i < 0 then (sh.complain sh.fds sh.line (n ++ ": bad array subscript"), .ok (.one none))
              else
                let v := match a with
                  | some arr => arr.atIndex? i.toNat
                  | none => if i = 0 then sh.lookup (.var n) else none
                (sh, .ok (.one v))

termination_by structural fuel => fuel

/-- Applies the operation of a braced expansion to the values its subject names; `whole`
is the text inside the braces, for messages. -/
def Session.operate : Nat → Session → Subject → Values → Operation → Bool → String →
    Session × Except Flow (List Piece)
  | 0, sh, _, _, _, _, _ => (sh, .ok [])
  | fuel + 1, sh, s, vals, op, inQuotes, whole =>
    let fatal (sh : Session) (msg : String) : Session × Except Flow (List Piece) :=
      (sh.complain sh.fds sh.line msg, .error (.exit 1))
    let fail (sh : Session) (msg : String) : Session × Except Flow (List Piece) :=
      (sh.complain sh.fds sh.line msg, .error .discard)
    let isUnset : Bool := match vals with
      | .one v => v.isNone
      | .many vs _ => vs.isEmpty
    let joinedText : String := match vals with
      | .one v => v.getD ""
      | .many vs _ => " ".intercalate vs
    let many := match s with
      | .param .each | .param .joined => true
      | .element _ sub => sub == "@" || sub == "*"
      | _ => false
    let strict := sh.isOn "nounset" && isUnset && !many
    let unbound := s.label ++ ": unbound variable"
    let pattern (sh : Session) (word : String) : Session × Except Flow (List Glob) :=
      match Session.expandParts fuel sh false (sh.tildes false true (Word.ofPatternText true word)) with
      | (sh, .ok ps) => (sh, .ok (Glob.parseWith sh.extglob (Piece.pattern ps)))
      | (sh, .error f) => (sh, .error f)
    let done (sh : Session) (vals : Values) : Session × Except Flow (List Piece) :=
      (sh, .ok (sh.valuesPieces vals inQuotes))
    match op with
    | .value => if strict then fatal sh unbound else done sh vals
    | .modify m word =>
      let unset (colon : Bool) : Bool := isUnset || (colon && joinedText.isEmpty)
      let wordPieces (sh : Session) : Session × Except Flow (List Piece) :=
        match Session.expandParts fuel sh (!inQuotes) (sh.modifierWord word inQuotes) with
        | (sh, .ok ps) => (sh, .ok (if inQuotes then ps ++ [.text "" true] else ps))
        | r => r
      match m with
      | .useDefault colon => if unset colon then wordPieces sh else done sh vals
      | .useAlternative colon =>
        if unset colon then (sh, .ok (if inQuotes then [.text "" true] else [])) else wordPieces sh
      | .assignDefault colon =>
        if unset colon then
          match Session.expandParts fuel sh false (sh.modifierWord word inQuotes) with
          | (sh, .error f) => (sh, .error f)
          | (sh, .ok ps) =>
            let v := Piece.joined ps
            let target : Option Target := match s with
              | .param (.var n) => some ⟨n, none, false⟩
              | .element n sub => if many then none else some ⟨n, some sub, false⟩
              | _ => none
            match target with
            | none => fail sh ("$" ++ s.label ++ ": cannot assign in this way")
            | some t =>
              match sh.assignTo t (.text v) with
              | .ok sh => (sh, .ok (valuePieces v inQuotes))
              | .error m => fail sh m
        else done sh vals
      | .errorIfUnset colon =>
        if unset colon then
          match Session.expandParts fuel sh false (sh.modifierWord word inQuotes) with
          | (sh, .error f) => (sh, .error f)
          | (sh, .ok ps) =>
            let msg := if word.isEmpty then "parameter " ++ (if colon then "null or not set" else "not set")
              else Piece.joined ps
            fatal sh (s.label ++ ": " ++ msg)
        else done sh vals
      | .dropPrefix longest | .dropSuffix longest =>
        if strict then fatal sh unbound
        else
          match pattern sh word with
          | (sh, .error f) => (sh, .error f)
          | (sh, .ok g) =>
            let cut (v : String) : String := String.ofList (match m with
              | .dropPrefix _ => Glob.dropPrefix g longest v.toList
              | _ => Glob.dropSuffix g longest v.toList)
            done sh (vals.map cut)
    | .replace anchor pat rep =>
      if strict then fatal sh unbound
      else
        match pattern sh pat with
        | (sh, .error f) => (sh, .error f)
        | (sh, .ok g) =>
          let filled : Session × Except Flow (List (Char × Bool)) := match rep with
            | none => (sh, .ok [])
            | some r =>
              match Session.expandParts fuel sh false (sh.tildes false true (Word.ofText true r)) with
              | (sh, .ok ps) =>
                let cs := Piece.pattern ps
                (sh, .ok (if sh.shopts.contains "patsub_replacement" then cs else cs.map fun (c, _) => (c, true)))
              | (sh, .error f) => (sh, .error f)
          match filled with
          | (sh, .error f) => (sh, .error f)
          | (sh, .ok repChars) =>
            let change (v : String) : String :=
              if pat.isEmpty && (anchor == .first || anchor == .every) then v
              else String.ofList (replace anchor g repChars v.toList)
            done sh (vals.map change)
    | .changeCase upper every pat =>
      if strict then fatal sh unbound
      else
        match pattern sh pat with
        | (sh, .error f) => (sh, .error f)
        | (sh, .ok g) => done sh (vals.map fun v => String.ofList (changeCase upper every g v.toList))
    | .slice offset length =>
      if offset.isEmpty && length.isNone then fail sh ("$\x7b" ++ whole ++ "\x7d: bad substitution")
      else if strict then fatal sh unbound
      else
        match Session.arithOf fuel sh offset with
        | (sh, .error f) => (sh, .error f)
        | (sh, .ok (.error (.unbound n))) => fatal sh (n ++ ": unbound variable")
        | (sh, .ok (.error e)) => fail sh (e.message none)
        | (sh, .ok (.ok o)) =>
          let counted : Session × Except Flow (Except Arith.Extended.Failure (Option Int64)) := match length with
            | none => (sh, .ok (.ok none))
            | some lt =>
              match Session.arithOf fuel sh lt with
              | (sh, .ok (.ok l)) => (sh, .ok (.ok (some l)))
              | (sh, .ok (.error e)) => (sh, .ok (.error e))
              | (sh, .error f) => (sh, .error f)
          match counted with
          | (sh, .error f) => (sh, .error f)
          | (sh, .ok (.error (.unbound n))) => fatal sh (n ++ ": unbound variable")
          | (sh, .ok (.error e)) => fail sh (e.message none)
          | (sh, .ok (.ok l)) =>
            let negative := (toString ((l.map Int64.toInt).getD 0)) ++ ": substring expression < 0"
            match vals with
            | .one v =>
              match slice (v.getD "").toList o.toInt (l.map Int64.toInt) with
              | some cs => (sh, .ok (valuePieces (String.ofList cs) inQuotes))
              | none => fail sh negative
            | .many vs joined =>
              -- an indexed array is sliced by its indices, and a variable that is no
              -- array by the characters of its value
              match s, (match s with | .element n _ => sh.arrayOf n | _ => none) with
              | .element _ _, some (.indexed items) =>
                match sliceIndexed items o.toInt (l.map Int64.toInt) with
                | some xs => done sh (.many xs joined)
                | none => fail sh negative
              | .element _ _, none =>
                match vs with
                | [v] =>
                  match slice v.toList o.toInt (l.map Int64.toInt) with
                  | some cs => (sh, .ok (valuePieces (String.ofList cs) inQuotes))
                  | none => fail sh negative
                | _ => done sh (.many [] joined)
              | _, a =>
                let list := match s with
                  | .param _ => sh.name :: vs
                  | _ => vs
                if a.isSome && (l.map Int64.toInt).any (· < 0) then fail sh negative
                else
                  match slice list o.toInt (l.map Int64.toInt) with
                  | some xs => done sh (.many xs joined)
                  | none => fail sh negative
    | .transform c =>
      let name := match s with
        | .param (.var n) => n
        | .element n _ => n
        | .param p => p.text
      let changed : Values := match c with
        | 'Q' => vals.map quoteReusable
        | 'E' => vals.map fun v => String.ofList (expandEscapes (v.length + 1) v.toList)
        | 'U' => vals.map fun v => v.map Char.toUpper
        | 'L' => vals.map fun v => v.map Char.toLower
        | 'u' => vals.map fun v => match v.toList with
          | d :: rest => String.ofList (d.toUpper :: rest)
          | [] => v
        | 'K' =>
          match vals, sh.arrayOf name with
          | .many _ j, some (.indexed items) =>
            .many [" ".intercalate (items.map fun (k, v) => toString k ++ " " ++ quoteDouble v)] j
          | .many _ j, some (.assoc items) =>
            .many [" ".intercalate ((ArrayValue.assoc items).entries.map fun (k, v) => keyText k ++ " " ++ quoteDouble v)] j
          | _, _ => vals.map quoteReusable
        | 'a' =>
          match vals with
          | .one _ => .one (some (sh.flagsOf name))
          | .many vs j => .many (vs.map fun _ => sh.flagsOf name) j
        | 'A' =>
          if many then .one (sh.declaration name)
          else vals.map fun v =>
            let flags := sh.flagsOf name
            if flags.isEmpty then name ++ "=" ++ quoteReusable v
            else "declare -" ++ flags ++ " " ++ name ++ "=" ++ quoteReusable v
        | _ => vals
      done sh changed

termination_by structural fuel => fuel

/-- Runs a command substitution: the commands in a copy of the shell, whose pipe is the
value, without its zero bytes and its last line ends; its status is noted for a command
that has no name. The lines of the commands count on from the command's own line when
`scriptLines`, and from one otherwise. -/
def Session.substitute : Nat → Session → Bool → String → Session × Except Flow String
  | 0, sh, _, _ => (sh, .ok "")
  | fuel + 1, sh, scriptLines, text =>
    let child := { sh.asCopy.enterSubshell with
      piped := [], fds := setFd sh.fds 1 .pipe, substStatus := none, traps := sh.subshellTraps,
      traceDepth := sh.traceDepth + 1 }
    let (c, flow) := Session.runSource fuel child
      (if scriptLines then Source.ofString sh.dialect sh.line text else Source.ofGrave sh.dialect text) 0
    let (c, flow) := Session.exitTrap fuel c flow
    let sh := { (sh.adoptKills c).reapJobs with workspace := c.workspace, out := c.out, err := c.err, later := c.later }
    if flow.reachesParent then (sh, .error flow)
    else
      match sh.afterCopy c with
      | (sh, some n) => ({ sh with status := 128 + n }, .error (.signaled n))
      | (sh, none) =>
      let value := stringOf (c.piped.filter (· != 0))
      ({ sh with substStatus := some (processStatus c.status flow) }, .ok (dropTrailingNewlines value))

termination_by structural fuel => fuel

end

/-- How a script ended. -/
inductive Ending where
  | exited (status : Nat)
  | signaled (signal : Nat)
  /-- Stopped from outside. -/
  | stopped
  deriving DecidableEq, Repr

/-- What a script left: its outputs, the working directory and how it ended. -/
structure Finished where
  out : List UInt8
  err : List UInt8
  workspace : Workspace
  ending : Ending

/-- How a process ended, from the flow after it and the last status. -/
def endingOf (status : Nat) : Flow → Ending
  | .exit n => .exited (n % 256)
  | .signaled n => .signaled n
  | .stopped => .stopped
  | _ => .exited (status % 256)

/-- The environment of a process, as byte strings. -/
def bytesEnv (vars : List (String × String)) : List (String × String) :=
  vars.map fun (n, v) => (Text.utf8Bytes n, Text.utf8Bytes v)

/-- The fuel of a run: a loop runs at most about ten million times, and commands nest as
deep at most. -/
def runFuel (size : Nat) : Nat := 10000000 + 64 * size

/-- Runs a script by the path it was started from, with its arguments, environment and
bytes, in the working directory; `interrupt` says that an interruption comes once
`started` exists. -/
def run (ws : Workspace) (vars : List (String × String)) (path : String) (args : List String) (content : List UInt8)
    (interrupt : Bool) : Finished :=
  let sh := Session.fresh (bytesEnv vars) (Text.utf8Bytes path) (args.map Text.utf8Bytes) [] 4242 ws Workspace.home interrupt
  let fuel := runFuel content.length
  let sh := sh.enterDialect (scriptDialect content)
  let (sh, flow) := Session.runSource fuel sh (Source.ofText sh.dialect (Text.byteString content)) 0
  let (sh, flow) := Session.exitTrap fuel sh flow
  let sh := sh.releaseAll
  ⟨sh.out, sh.err, sh.workspace, endingOf sh.status flow⟩

/-- Runs a program of the system by its name, with its arguments and environment, in the
working directory. -/
def runTool (ws : Workspace) (vars : List (String × String)) (name : String) (args : List String)
    (interrupt : Bool) : Finished :=
  let env := bytesEnv vars
  let args := args.map Text.utf8Bytes
  let sh := Session.fresh env (Text.utf8Bytes name) args [] 4242 ws Workspace.home interrupt
  let fuel := runFuel (args.foldl (fun n a => n + a.length) 0)
  let (sh, status, flow) := Session.runSystem fuel sh sh.fds env (Text.utf8Bytes name) (Text.utf8Bytes name) args
  let sh := sh.releaseAll
  ⟨sh.out, sh.err, sh.workspace, endingOf status flow⟩

end HelpMan.Shell
