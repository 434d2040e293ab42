import HelpMan.Tools.Files

/-!
# Copying, moving and linking files

`cp`, `mv` and `ln` share how their operands are read (`transferPairs`): with `-t DIR`
every operand goes into that directory; with `-T` there are a source and a destination
and nothing more; otherwise, when the last operand is a directory the others go into it
under their last names, and when it is not there must be only two. `ln` with one operand
makes its link in the current directory.

* `cp` copies files, and under `-r` directories with all they hold, in the order of the
  names. A new file gets the mode of its source without what the mask of new files takes
  away, unless `-p` keeps the mode and the time as they are; a file that exists keeps its
  mode. A symbolic link is followed unless `-r`, `-P`, `-d` or `-a` copies it as a link.
* `mv` renames: what it moves keeps its mode and times, and a symbolic link moves itself.
  A directory may only replace an empty directory, and never go below itself.
* `ln -s` makes symbolic links, which hold the path they were given; `ln` without `-s`
  gives a file a second name, made here as a copy of it.

Each program goes on after an operand fails, and ends with status 1 if one did.
-/

namespace HelpMan.Tools

/-- The source and destination of each operand of `cp`, `mv` or `ln`: into the directory
of `-t`, or into the last operand when it is a directory (or, with one operand and
`single`, into the current directory), or else the two operands. The message of a problem
says whether the usage hint follows it. -/
def transferPairs (cx : Context) (name : String) (target : Option String) (noTarget single : Bool)
    (ops : List String) : Except (String × Bool) (List (String × String)) :=
  let into (dir : String) (srcs : List String) : List (String × String) :=
    srcs.map fun s => (s, joinPath dir (baseOf s ""))
  let isDir (p : String) : Bool := cx.kindOf? p == some .dir
  let reason (p : String) : String := match cx.find p with
    | .present .. => Fault.notDir.reason
    | .blocked f => f.reason
    | .absent .. => Fault.noEntry.reason
  match ops with
  | [] => .error (name ++ ": missing file operand\n", true)
  | [one] =>
    if target.isSome then .ok (into (target.getD ".") [one])
    else if single && !noTarget then .ok (into "." [one])
    else .error (name ++ ": missing destination file operand after " ++ quoteAlways one ++ "\n", true)
  | first :: second :: more =>
    if noTarget then
      if target.isSome then
        .error (name ++ ": cannot combine --target-directory (-t) and --no-target-directory (-T)\n", false)
      else
        match more with
        | extra :: _ => .error (name ++ ": extra operand " ++ quoteAlways extra ++ "\n", true)
        | [] => .ok [(first, second)]
    else
      match target with
      | some d =>
        if isDir d then .ok (into d ops)
        else .error (name ++ ": target directory " ++ quoteAlways d ++ ": " ++ reason d ++ "\n", false)
      | none =>
        let last := (second :: more).getLastD second
        if isDir last then .ok (into last ops.dropLast)
        else if more.isEmpty then .ok [(first, second)]
        else .error (name ++ ": target " ++ quoteAlways last ++ ": " ++ reason last ++ "\n", false)

/-- Where a path leads from `cwd` when its last name is not followed: a symbolic link is
itself a file there. -/
def findEntry (ws : Workspace) (cwd : Location) (path : String) : Found :=
  match ws.linkAt? cwd (Text.ofByteString path) with
  | some loc => .present loc .file
  | none => ws.find cwd (Text.ofByteString path)

/-! ## cp -/

/-- What the options of `cp` ask for. -/
structure CopyRequest where
  recursive : Bool := false
  /-- Copy symbolic links as links (`-P`), or follow them (`-L`); by default they are
  followed unless the copy is recursive. -/
  links : Option Bool := none
  /-- Ask before replacing a file (`-i`), or never replace one (`-n`). -/
  interactive : Bool := false
  noClobber : Bool := false
  verbose : Bool := false
  /-- Keep the mode and the time of what is copied. -/
  preserve : Bool := false
  noTarget : Bool := false
  target : Option String := none
  /-- Make symbolic links (`-s`) or second names (`-l`) instead of copies. -/
  symbolic : Bool := false
  hard : Bool := false

/-- The options of `cp`; the long options without a letter stand for characters below
the blank. -/
def cpSpec : Spec :=
  ⟨"abdfHilLnprst:uvxPRS:TZ",
   [⟨"archive", .nothing, 'a'⟩, ⟨"attributes-only", .nothing, '\x01'⟩, ⟨"backup", .optional, 'b'⟩,
    ⟨"copy-contents", .nothing, '\x02'⟩, ⟨"debug", .nothing, '\x03'⟩, ⟨"dereference", .nothing, 'L'⟩,
    ⟨"force", .nothing, 'f'⟩, ⟨"interactive", .nothing, 'i'⟩, ⟨"link", .nothing, 'l'⟩,
    ⟨"no-clobber", .nothing, 'n'⟩, ⟨"no-dereference", .nothing, 'P'⟩, ⟨"no-preserve", .required, '\x04'⟩,
    ⟨"no-target-directory", .nothing, 'T'⟩, ⟨"one-file-system", .nothing, 'x'⟩, ⟨"parents", .nothing, '\x05'⟩,
    ⟨"preserve", .optional, '\x06'⟩, ⟨"recursive", .nothing, 'R'⟩, ⟨"reflink", .optional, '\x07'⟩,
    ⟨"remove-destination", .nothing, '\x08'⟩, ⟨"sparse", .required, '\x0e'⟩,
    ⟨"strip-trailing-slashes", .nothing, '\x0f'⟩, ⟨"suffix", .required, 'S'⟩, ⟨"symbolic-link", .nothing, 's'⟩,
    ⟨"target-directory", .required, 't'⟩, ⟨"update", .nothing, 'u'⟩, ⟨"verbose", .nothing, 'v'⟩,
    ⟨"context", .optional, 'Z'⟩]⟩

/-- The request after an option, in the order given. -/
def CopyRequest.set (r : CopyRequest) : Char × Option String → CopyRequest
  | ('a', _) => { r with recursive := true, links := some false, preserve := true }
  | ('d', _) | ('P', _) => { r with links := some false }
  | ('L', _) | ('H', _) => { r with links := some true }
  | ('i', _) => { r with interactive := true, noClobber := false }
  | ('n', _) => { r with noClobber := true, interactive := false }
  | ('f', _) => { r with interactive := false }
  | ('p', _) | ('\x06', _) => { r with preserve := true }
  | ('r', _) | ('R', _) => { r with recursive := true }
  | ('s', _) => { r with symbolic := true }
  | ('l', _) => { r with hard := true }
  | ('t', v) => { r with target := v }
  | ('T', _) => { r with noTarget := true }
  | ('v', _) => { r with verbose := true }
  | _ => r

/-- Whether `cp` follows a symbolic link it is asked to copy. -/
def CopyRequest.follows (r : CopyRequest) : Bool := r.links.getD (!r.recursive || r.hard)

/-- The mode a new copy gets: the source's, without what the mask takes away and the bits
that set the user and group, unless the mode is kept. -/
def CopyRequest.newMode (r : CopyRequest) (mask : Nat) (m : Nat) : Nat :=
  if r.preserve then m else m &&& 0o777 &&& (modeBits ^^^ mask)

/-- The workspace after a file is given the mode, and when kept the time, of its
source. -/
def CopyRequest.finishCopy (r : CopyRequest) (mask : Nat) (ws : Workspace) (src dst : Location) (fresh : Bool) :
    Workspace :=
  let ws := if fresh then ws.setMode dst (r.newMode mask (ws.modeAt src)) else ws
  if r.preserve then (ws.setMode dst (ws.modeAt src)).setTime dst (ws.timeAt src) else ws

/-- Copies what a source path names to a destination path, and under `-r` all a directory
holds, name by name. -/
def copyItem (rq : CopyRequest) (cwd : Location) (mask : Nat) : Nat → Progress → String → String → Progress
  | 0, p, _, _ => p
  | fuel + 1, p, src, dst =>
    let ws := p.workspace
    let said (p : Progress) : Progress :=
      if rq.verbose then p.say (quoteAlways src ++ " -> " ++ quoteAlways dst ++ "\n") else p
    let source : Found := if rq.follows then ws.find cwd (Text.ofByteString src) else findEntry ws cwd src
    let linkTarget := if rq.follows then none else
      (ws.linkAt? cwd (Text.ofByteString src)).bind (ws.links.lookup ·)
    match source with
    | .present sLoc .dir =>
      if !rq.recursive then p.fail ("cp: -r not specified; omitting directory " ++ quoteAlways src ++ "\n")
      else
        let descend (p : Progress) : Progress :=
          (p.workspace.namesIn sLoc).foldl (fun p n =>
            copyItem rq cwd mask fuel p (joinPath src (Text.utf8Bytes n)) (joinPath dst (Text.utf8Bytes n))) p
        match ws.find cwd (Text.ofByteString dst) with
        | .present dLoc .dir =>
          if sLoc.isPrefixOf dLoc then
            p.fail ("cp: cannot copy a directory, " ++ quoteAlways src ++ ", into itself, " ++ quoteAlways dst ++ "\n")
          else descend p
        | .present .. =>
          p.fail ("cp: cannot overwrite non-directory " ++ quoteAlways dst ++ " with directory " ++ quoteAlways src ++ "\n")
        | .absent dLoc _ =>
          if sLoc.isPrefixOf dLoc then
            p.fail ("cp: cannot copy a directory, " ++ quoteAlways src ++ ", into itself, " ++ quoteAlways dst ++ "\n")
          else
            let ws := ws.addDir dLoc
            let ws := ws.setMode dLoc (rq.newMode mask (ws.modeAt sLoc))
            let p := descend (said { p with workspace := ws })
            if rq.preserve then { p with workspace := p.workspace.setTime dLoc (ws.timeAt sLoc) } else p
        | .blocked f => p.fail ("cp: cannot create directory " ++ quoteAlways dst ++ ": " ++ f.reason ++ "\n")
    | .present sLoc _ =>
      let dest := ws.find cwd (Text.ofByteString dst)
      let write (p : Progress) (dLoc : Location) (fresh : Bool) : Progress :=
        let ws := p.workspace
        let ws := match linkTarget with
          | some t => (ws.erase dLoc).addLink dLoc t
          | none =>
            if rq.symbolic then (ws.erase dLoc).addLink dLoc src
            else rq.finishCopy mask (ws.put dLoc (ws.contentAt sLoc)) sLoc dLoc fresh
        said { p with workspace := ws }
      match dest with
      | .present dLoc dKind =>
        if dLoc == sLoc then
          p.fail ("cp: " ++ quoteAlways src ++ " and " ++ quoteAlways dst ++ " are the same file\n")
        else if dKind == .dir then
          p.fail ("cp: cannot overwrite directory " ++ quoteAlways dst ++ " with non-directory\n")
        else if rq.noClobber then p
        else if rq.interactive then
          let (yes, p) := p.ask ("cp: overwrite " ++ quoteAlways dst ++ "? ")
          if yes then write p dLoc false else p
        else write p dLoc false
      | .absent dLoc asDir =>
        if asDir then p.fail ("cp: cannot create regular file " ++ quoteAlways dst ++ ": " ++ Fault.notDir.reason ++ "\n")
        else write p dLoc true
      | .blocked f => p.fail ("cp: cannot create regular file " ++ quoteAlways dst ++ ": " ++ f.reason ++ "\n")
    | found => p.fail ("cp: cannot stat " ++ quoteAlways src ++ ": " ++ found.reason ++ "\n")

/-- Runs `cp`. -/
def cp (cx : Context) (args : List String) : Outcome :=
  match Options.read "cp" cpSpec args with
  | .error e => cx.badUsage "cp" e 1
  | .ok o =>
    let rq := o.given.foldl CopyRequest.set {}
    match transferPairs cx "cp" rq.target rq.noTarget false o.operands with
    | .error (e, hint) => if hint then cx.badUsage "cp" e 1 else cx.failWith e 1
    | .ok pairs =>
      let fuel := cx.workspace.files.length + cx.workspace.dirs.length + 64
      let p := pairs.foldl (fun p (s, d) => copyItem rq cx.cwd cx.umask fuel p s d)
        ({ workspace := cx.workspace, left := cx.stdin } : Progress)
      p.finish cx

/-! ## mv -/

/-- What the options of `mv` ask for. -/
structure MoveRequest where
  interactive : Bool := false
  noClobber : Bool := false
  verbose : Bool := false
  noTarget : Bool := false
  target : Option String := none

/-- The options of `mv`. -/
def mvSpec : Spec :=
  ⟨"bfint:uvS:TZ",
   [⟨"backup", .optional, 'b'⟩, ⟨"debug", .nothing, '\x03'⟩, ⟨"force", .nothing, 'f'⟩,
    ⟨"interactive", .nothing, 'i'⟩, ⟨"no-clobber", .nothing, 'n'⟩, ⟨"no-copy", .nothing, '\x04'⟩,
    ⟨"no-target-directory", .nothing, 'T'⟩, ⟨"strip-trailing-slashes", .nothing, '\x0f'⟩,
    ⟨"suffix", .required, 'S'⟩, ⟨"target-directory", .required, 't'⟩, ⟨"update", .nothing, 'u'⟩,
    ⟨"verbose", .nothing, 'v'⟩, ⟨"context", .nothing, 'Z'⟩]⟩

/-- The request after an option, in the order given. -/
def MoveRequest.set (r : MoveRequest) : Char × Option String → MoveRequest
  | ('i', _) => { r with interactive := true, noClobber := false }
  | ('n', _) => { r with noClobber := true, interactive := false }
  | ('f', _) => { r with interactive := false, noClobber := false }
  | ('t', v) => { r with target := v }
  | ('T', _) => { r with noTarget := true }
  | ('v', _) => { r with verbose := true }
  | _ => r

/-- Moves what a source path names, a symbolic link itself, to a destination path. -/
def moveItem (rq : MoveRequest) (cwd : Location) (p : Progress) (src dst : String) : Progress :=
  let ws := p.workspace
  let cannot (why : String) : Progress :=
    p.fail ("mv: cannot move " ++ quoteAlways src ++ " to " ++ quoteAlways dst ++ ": " ++ why ++ "\n")
  let move (p : Progress) (sLoc dLoc : Location) (replaced : Bool) : Progress :=
    let ws := if replaced then p.workspace.erase dLoc else p.workspace
    let p := { p with workspace := ws.relocate sLoc dLoc }
    if rq.verbose then p.say ("renamed " ++ quoteAlways src ++ " -> " ++ quoteAlways dst ++ "\n") else p
  match findEntry ws cwd src with
  | .present sLoc sKind =>
    let below := sKind == .dir && (ws.links.lookup sLoc).isNone
    match findEntry ws cwd dst with
    | .present dLoc dKind =>
      let dirThere := dKind == .dir && (ws.links.lookup dLoc).isNone
      if dLoc == sLoc then p.fail ("mv: " ++ quoteAlways src ++ " and " ++ quoteAlways dst ++ " are the same file\n")
      else if below && sLoc.isPrefixOf dLoc then
        p.fail ("mv: cannot move " ++ quoteAlways src ++ " to a subdirectory of itself, " ++ quoteAlways dst ++ "\n")
      else if dirThere && !below then
        p.fail ("mv: cannot overwrite directory " ++ quoteAlways dst ++ " with non-directory\n")
      else if !dirThere && below then
        p.fail ("mv: cannot overwrite non-directory " ++ quoteAlways dst ++ " with directory " ++ quoteAlways src ++ "\n")
      else if rq.noClobber then p
      else
        let (yes, p) := if rq.interactive then p.ask ("mv: overwrite " ++ quoteAlways dst ++ "? ") else (true, p)
        if !yes then p
        else if dirThere && !(ws.namesIn dLoc).isEmpty then cannot Fault.notEmpty.reason
        else move p sLoc dLoc true
    | .absent dLoc asDir =>
      if below && sLoc.isPrefixOf dLoc then
        p.fail ("mv: cannot move " ++ quoteAlways src ++ " to a subdirectory of itself, " ++ quoteAlways dst ++ "\n")
      else if asDir && !below then cannot Fault.notDir.reason
      else move p sLoc dLoc false
    | .blocked f => cannot f.reason
  | found => p.fail ("mv: cannot stat " ++ quoteAlways src ++ ": " ++ found.reason ++ "\n")

/-- Runs `mv`. -/
def mv (cx : Context) (args : List String) : Outcome :=
  match Options.read "mv" mvSpec args with
  | .error e => cx.badUsage "mv" e 1
  | .ok o =>
    let rq := o.given.foldl MoveRequest.set {}
    match transferPairs cx "mv" rq.target rq.noTarget false o.operands with
    | .error (e, hint) => if hint then cx.badUsage "mv" e 1 else cx.failWith e 1
    | .ok pairs =>
      let p := pairs.foldl (fun p (s, d) => moveItem rq cx.cwd p s d)
        ({ workspace := cx.workspace, left := cx.stdin } : Progress)
      p.finish cx

/-! ## ln -/

/-- What the options of `ln` ask for. -/
structure LinkRequest where
  symbolic : Bool := false
  force : Bool := false
  interactive : Bool := false
  verbose : Bool := false
  noTarget : Bool := false
  target : Option String := none

/-- The options of `ln`. -/
def lnSpec : Spec :=
  ⟨"bdfinrsvFLPS:t:T",
   [⟨"backup", .optional, 'b'⟩, ⟨"directory", .nothing, 'd'⟩, ⟨"force", .nothing, 'f'⟩,
    ⟨"interactive", .nothing, 'i'⟩, ⟨"logical", .nothing, 'L'⟩, ⟨"no-dereference", .nothing, 'n'⟩,
    ⟨"no-target-directory", .nothing, 'T'⟩, ⟨"physical", .nothing, 'P'⟩, ⟨"relative", .nothing, 'r'⟩,
    ⟨"suffix", .required, 'S'⟩, ⟨"symbolic", .nothing, 's'⟩, ⟨"target-directory", .required, 't'⟩,
    ⟨"verbose", .nothing, 'v'⟩]⟩

/-- The request after an option, in the order given. -/
def LinkRequest.set (r : LinkRequest) : Char × Option String → LinkRequest
  | ('s', _) => { r with symbolic := true }
  | ('f', _) => { r with force := true, interactive := false }
  | ('i', _) => { r with interactive := true, force := false }
  | ('t', v) => { r with target := v }
  | ('T', _) => { r with noTarget := true }
  | ('v', _) => { r with verbose := true }
  | _ => r

/-- Makes the link of one operand: a symbolic link that holds the source path, or a
second name of the file the source names. What stands at the destination is replaced
only under `-f`, or `-i` and a yes. -/
def linkItem (rq : LinkRequest) (cwd : Location) (p : Progress) (src dst : String) : Progress :=
  let ws := p.workspace
  let what := if rq.symbolic then "symbolic link" else "hard link"
  let failed (why : String) : Progress :=
    p.fail ("ln: failed to create " ++ what ++ " " ++ quoteAlways dst ++
      (if rq.symbolic || why == Fault.alreadyExists.reason then "" else " => " ++ quoteAlways src) ++ ": " ++ why ++ "\n")
  let source : Except String (Option Location) :=
    if rq.symbolic then .ok none
    else
      match findEntry ws cwd src with
      | .present loc .dir =>
        if (ws.links.lookup loc).isSome then .ok (some loc)
        else .error ("ln: " ++ quoteIfNeeded src ++ ": hard link not allowed for directory\n")
      | .present loc _ => .ok (some loc)
      | found => .error ("ln: failed to access " ++ quoteAlways src ++ ": " ++ found.reason ++ "\n")
  match source with
  | .error e => p.fail e
  | .ok sLoc =>
    let make (p : Progress) (dLoc : Location) : Progress :=
      let ws := p.workspace.erase dLoc
      let ws := match sLoc with
        | none => ws.addLink dLoc src
        | some s =>
          match ws.links.lookup s with
          | some t => ws.addLink dLoc t
          | none => ((ws.put dLoc (ws.contentAt s)).setMode dLoc (ws.modeAt s)).setTime dLoc (ws.timeAt s)
      let p := { p with workspace := ws }
      if rq.verbose then p.say (quoteAlways dst ++ (if rq.symbolic then " -> " else " => ") ++ quoteAlways src ++ "\n")
      else p
    match findEntry ws cwd dst with
    | .present dLoc dKind =>
      if !rq.force && !rq.interactive then failed Fault.alreadyExists.reason
      else if sLoc == some dLoc then
        p.fail ("ln: " ++ quoteAlways src ++ " and " ++ quoteAlways dst ++ " are the same file\n")
      else if dKind == .dir && (ws.links.lookup dLoc).isNone then
        p.fail ("ln: " ++ quoteIfNeeded dst ++ ": cannot overwrite directory\n")
      else
        let (yes, p) := if rq.interactive then p.ask ("ln: replace " ++ quoteAlways dst ++ "? ") else (true, p)
        if yes then make p dLoc else p
    | .absent dLoc asDir => if asDir then failed Fault.noEntry.reason else make p dLoc
    | .blocked f => failed f.reason

/-- Runs `ln`. -/
def ln (cx : Context) (args : List String) : Outcome :=
  match Options.read "ln" lnSpec args with
  | .error e => cx.badUsage "ln" e 1
  | .ok o =>
    let rq := o.given.foldl LinkRequest.set {}
    match transferPairs cx "ln" rq.target rq.noTarget true o.operands with
    | .error (e, hint) => if hint then cx.badUsage "ln" e 1 else cx.failWith e 1
    | .ok pairs =>
      let p := pairs.foldl (fun p (s, d) => linkItem rq cx.cwd p s d)
        ({ workspace := cx.workspace, left := cx.stdin } : Progress)
      p.finish cx

end HelpMan.Tools
