import HelpMan.Tools.Mode
import HelpMan.Tools.Stamp

/-!
# Programs that change files and work on paths

`mkdir`, `rmdir`, `touch`, `basename`, `dirname` and `pwd`, as the programs of the system
behave when their output is not a terminal.

- `mkdir`, `rmdir` and `touch` report each operand they fail on, in the shell's
  quotes (`mkdir` in the quotation marks of the messages), and end with status 1.
- `basename` and `dirname` work on the text of the paths alone.
-/

namespace HelpMan.Tools

/-! ## mkdir, rmdir and touch -/

/-- The options of `mkdir`. -/
def mkdirSpec : Spec :=
  ⟨"m:pvZ", [⟨"mode", .required, 'm'⟩, ⟨"parents", .nothing, 'p'⟩, ⟨"verbose", .nothing, 'v'⟩,
    ⟨"context", .optional, 'Z'⟩]⟩

/-- The prefixes of a path that name directories to make first, shortest first. -/
def parentsOf (p : String) : List String :=
  let parts := (Text.splitOn '/' p.toList).map String.ofList
  let absolute := p.startsWith "/"
  let named := parts.filter (· != "")
  (List.range named.length).map fun k => (if absolute then "/" else "") ++ "/".intercalate (named.take (k + 1))

/-- Runs `mkdir`; with `-p` the missing parents are made too, one after the other until
one of them is no directory, and an existing directory is no error. -/
def mkdir (cx : Context) (args : List String) : Outcome :=
  match Options.read "mkdir" mkdirSpec args with
  | .error e => cx.badUsage "mkdir" e 1
  | .ok o =>
    let warning := String.join ((o.all 'Z').map fun _ =>
      "mkdir: warning: ignoring --context; it requires an SELinux/SMACK-enabled kernel\n")
    if o.operands.isEmpty then
      let missing := cx.missingOperand "mkdir" 1
      { missing with writes := pieces ((2, bytes warning) :: missing.writes) }
    else if !((o.last? 'm').map (compileMode · |>.isSome) |>.getD true) then
      cx.failWith (warning ++ "mkdir: invalid mode " ++ quote ((o.last? 'm').getD "") ++ "\n") 1
    else
      let verbose := o.has 'v'
      let made (p : String) : List (Nat × List UInt8) :=
        if verbose then [(1, bytes ("mkdir: created directory " ++ quoteAlways p ++ "\n"))] else []
      let cannot (p : String) (fault : Fault) : List (Nat × List UInt8) :=
        [(2, bytes ("mkdir: cannot create directory " ++ quote p ++ ": " ++ fault.reason ++ "\n"))]
      let withMode (ws : Workspace) (d : String) : Workspace :=
        match (o.last? 'm').bind compileMode, ws.find cx.cwd (Text.ofByteString d) with
        | some chs, .present loc _ => ws.setMode loc (adjustMode 0o777 true cx.umask chs)
        | none, .present loc _ => ws.maskDir loc cx.umask
        | _, _ => ws
      let (ws, writes, status) := o.operands.foldl (fun (ws, writes, status) d =>
        if o.has 'p' then
          let (ws, writes, blocked) := (parentsOf d).dropLast.foldl (fun (ws, writes, blocked) p =>
            if blocked.isSome then (ws, writes, blocked)
            else
              match ws.find cx.cwd (Text.ofByteString p) with
              | .absent .. =>
                match ws.makeDirAt cx.cwd (Text.ofByteString p) with
                -- a parent is made so that its owner may always write and enter it
                | .ok ws =>
                  match ws.find cx.cwd (Text.ofByteString p) with
                  | .present loc _ => (ws.maskDir loc (cx.umask &&& 0o477), writes ++ made p, none)
                  | _ => (ws, writes ++ made p, none)
                | .error fault => (ws, writes, some (p, fault))
              | .present _ .dir => (ws, writes, none)
              | _ => (ws, writes, some (p, .notDir))) (ws, writes, none)
          match blocked with
          | some (p, fault) => (ws, writes ++ cannot p fault, 1)
          | none =>
            match ws.find cx.cwd (Text.ofByteString d) with
            | .present _ .dir => (ws, writes, status)
            | .present .. => (ws, writes ++ cannot d .alreadyExists, 1)
            | _ =>
              match ws.makeDirAt cx.cwd (Text.ofByteString d) with
              | .ok ws => (withMode ws d, writes ++ made d, status)
              | .error fault => (ws, writes ++ cannot d fault, 1)
        else
          match ws.makeDirAt cx.cwd (Text.ofByteString d) with
          | .ok ws => (withMode ws d, writes ++ made d, status)
          | .error fault => (ws, writes ++ cannot d fault, 1))
        (cx.workspace, [(2, bytes warning)], 0)
      ⟨pieces writes, status, ws, false, none⟩

/-- The options of `rmdir`. -/
def rmdirSpec : Spec :=
  ⟨"pv", [⟨"parents", .nothing, 'p'⟩, ⟨"verbose", .nothing, 'v'⟩, ⟨"ignore-fail-on-non-empty", .nothing, 'i'⟩]⟩

/-- Runs `rmdir`: removes each empty directory, and with `-p` the parents named in its
path after it. -/
def rmdir (cx : Context) (args : List String) : Outcome :=
  match Options.read "rmdir" rmdirSpec args with
  | .error e => cx.badUsage "rmdir" e 1
  | .ok o =>
    if o.operands.isEmpty then cx.missingOperand "rmdir" 1
    else
      let (ws, writes, status) := o.operands.foldl (fun (ws, writes, status) d =>
        let targets := if o.has 'p' then (parentsOf d).reverse else [d]
        let (ws, writes, status, _) := targets.foldl (fun (ws, writes, status, going) p =>
          if !going then (ws, writes, status, false)
          else
            let shown : List (Nat × List UInt8) :=
              if o.has 'v' then [(1, bytes ("rmdir: removing directory, " ++ quoteAlways p ++ "\n"))] else []
            let failed (fault : Fault) : List (Nat × List UInt8) :=
              [(2, bytes ("rmdir: failed to remove " ++ quoteAlways p ++ ": " ++ fault.reason ++ "\n"))]
            match ws.removeDirAt cx.cwd (Text.ofByteString p) with
            | .ok ws => (ws, writes ++ shown, status, true)
            | .error .notEmpty =>
              if o.has 'i' then (ws, writes ++ shown, status, false)
              else (ws, writes ++ shown ++ failed .notEmpty, 1, false)
            | .error fault => (ws, writes ++ shown ++ failed fault, 1, false))
          (ws, writes, status, true)
        (ws, writes, status)) (cx.workspace, [], 0)
      ⟨pieces writes, status, ws, false, none⟩

/-- The options of `touch`. -/
def touchSpec : Spec :=
  ⟨"acd:fhmr:t:", [⟨"no-create", .nothing, 'c'⟩, ⟨"date", .required, 'd'⟩, ⟨"reference", .required, 'r'⟩,
    ⟨"no-dereference", .nothing, 'h'⟩, ⟨"time", .required, 'T'⟩]⟩

/-- The words `touch --time` takes, each with the time it stands for. -/
def timeWords : List (String × String) :=
  [("atime", "atime"), ("access", "atime"), ("use", "atime"), ("mtime", "mtime"), ("modify", "mtime")]

/-- The first problem among the options of `touch` as it acts on them in order: a stamp of
`-t` that names no moment, or a word of `--time` it does not take. -/
def touchOptionProblem : List (Char × Option String) → Option String
  | [] => none
  | ('t', some stamp) :: rest =>
    if stampValid stamp then touchOptionProblem rest else some ("touch: invalid date format " ++ quote stamp ++ "\n")
  | ('T', some w) :: rest =>
    match argmatch "touch" "--time" timeWords w with
    | .ok _ => touchOptionProblem rest
    | .error e => some e
  | _ :: rest => touchOptionProblem rest

/-- Touches one file: sets the time it last changed, when `modifies`, to the time given
(the present one when none is), and makes it, empty, when it does not exist, unless `-c`
or `-h` says not to create it; `-` is standard output, which is there. -/
def touchOne (cx : Context) (noCreate noFollow modifies : Bool) (time : Option Int)
    (acc : Workspace × String × Nat) (f : String) : Workspace × String × Nat :=
  let (ws, err, status) := acc
  let settingTimes (fault : Fault) : Workspace × String × Nat :=
    (ws, err ++ "touch: setting times of " ++ quoteAlways f ++ ": " ++ fault.reason ++ "\n", 1)
  let retimed (ws : Workspace) (loc : Location) : Workspace :=
    if modifies then ws.setTime loc (time.getD ws.now) else ws
  if f == "-" then acc
  else
    match ws.find cx.cwd (Text.ofByteString f) with
    | .present loc _ => ((retimed ws loc).wait 1000000, err, status)
    | found =>
      if noCreate || noFollow then
        match found with
        | .blocked .notDir => settingTimes .notDir
        | _ => if noCreate then acc else settingTimes .noEntry
      else
        match ws.openAt cx.cwd (Text.ofByteString f) with
        | .ok (some loc) => (retimed (ws.createFile loc cx.umask) loc, err, status)
        | .ok none => acc
        | .error fault => (ws, err ++ "touch: cannot touch " ++ quoteAlways f ++ ": " ++ fault.reason ++ "\n", 1)

/-- Runs `touch`: sets the time each file last changed, unless `-a` or `--time` asks for
the time it was last read only, and makes each file that does not exist, empty, unless
`-c`. The times it is given are checked first: the stamps of `-t` as they come, then that
they come from one source only, that the file of `-r` exists, and last the date of `-d`,
which is taken from the time of `-r` when both are given. -/
def touch (cx : Context) (args : List String) : Outcome :=
  let (o, problem) := Options.readSoFar "touch" touchSpec (args.length + 1) args ⟨[], []⟩
  match touchOptionProblem o.given, problem with
  | some e, _ => cx.failWith e 1
  | none, some e => cx.badUsage "touch" e 1
  | none, none =>
    let reference := o.last? 'r'
    let date := o.last? 'd'
    if o.has 't' && (reference.isSome || date.isSome) then
      cx.badUsage "touch" "touch: cannot specify times from more than one source\n" 1
    else
      match reference.map (cx.kindOf? ·), reference with
      | some none, some r => cx.failWith ("touch: failed to get attributes of " ++ quoteAlways r ++ ": " ++
          (match cx.find r with
            | .blocked f => f.reason
            | _ => Fault.noEntry.reason) ++ "\n") 1
      | _, _ =>
        let ws := cx.workspace
        let base : Option Int := match reference.map (ws.find cx.cwd ·) with
          | some (.present loc _) => some (ws.timeAt loc)
          | _ => none
        let stamped : Option Int := (o.given.filter (·.1 == 't')).getLast?.bind fun (_, v) =>
          v.bind (stampMoment ws.now)
        let time : Option (Option Int) := match date with
          | some d => (Date.parse (base.getD ws.now) d).map some
          | none => some (stamped <|> base)
        let accessOnly := (o.has 'a' && !o.has 'm') ||
          (o.given.any fun (c, v) => c == 'T' && (v.map (argmatch "touch" "--time" timeWords · |>.toOption) |>.join) == some "atime")
        match time with
        | none => cx.failWith ("touch: invalid date format " ++ quote (date.getD "") ++ "\n") 1
        | some time =>
          if o.operands.isEmpty then cx.badUsage "touch" "touch: missing file operand\n" 1
          else
            let (ws, err, status) :=
              o.operands.foldl (touchOne cx (o.has 'c') (o.has 'h') (!accessOnly) time) (ws, "", 0)
            Outcome.of [] (bytes err) status ws

/-! ## basename, dirname and pwd -/

/-- A path without the slashes at its end, unless it is only slashes. -/
def trimSlashes (p : String) : String :=
  let cs := p.toList.reverse.dropWhile (· = '/')
  if cs.isEmpty && !p.isEmpty then "/" else String.ofList cs.reverse

/-- The last component of a path, without a suffix that is not all of it. -/
def baseOf (p : String) (suffix : String) : String :=
  let t := trimSlashes p
  if t = "/" then "/"
  else
    let name := ((Text.splitOn '/' t.toList).getLast?).getD t.toList
    let ending := suffix.toList
    if !ending.isEmpty && name != ending && ending.isSuffixOf name then String.ofList (name.take (name.length - ending.length))
    else String.ofList name

/-- The directory part of a path. -/
def dirOf (p : String) : String :=
  let t := trimSlashes p
  if t = "/" then "/"
  else
    match (t.toList.reverse.dropWhile (· ≠ '/')) with
    | [] => "."
    | rest =>
      let d := trimSlashes (String.ofList rest.reverse)
      if d.isEmpty then "/" else d

example : baseOf "/a/b.c" ".c" = "b" ∧ dirOf "a/b" = "a" ∧ dirOf "a" = "." ∧ dirOf "/x" = "/" := by decide +kernel

/-- The options of `basename`. -/
def basenameSpec : Spec :=
  ⟨"as:z", [⟨"multiple", .nothing, 'a'⟩, ⟨"suffix", .required, 's'⟩, ⟨"zero", .nothing, 'z'⟩]⟩

/-- Runs `basename`. -/
def basename (cx : Context) (args : List String) : Outcome :=
  match Options.read "basename" basenameSpec args with
  | .error e => cx.badUsage "basename" e 1
  | .ok o =>
    let ending := if o.has 'z' then "\x00" else "\n"
    let several := o.has 'a' || o.has 's'
    match o.operands with
    | [] => cx.missingOperand "basename" 1
    | names =>
      if several then
        let suffix := (o.last? 's').getD ""
        cx.done (bytes (String.join (names.map fun n => baseOf n suffix ++ ending)))
      else
        match names with
        | [n] => cx.done (bytes (baseOf n "" ++ ending))
        | [n, s] => cx.done (bytes (baseOf n s ++ ending))
        | _ => cx.extraOperand "basename" (names.getD 2 "") 1

/-- Runs `dirname`. -/
def dirname (cx : Context) (args : List String) : Outcome :=
  match Options.read "dirname" ⟨"z", [⟨"zero", .nothing, 'z'⟩]⟩ args with
  | .error e => cx.badUsage "dirname" e 1
  | .ok o =>
    if o.operands.isEmpty then cx.missingOperand "dirname" 1
    else
      let ending := if o.has 'z' then "\x00" else "\n"
      cx.done (bytes (String.join (o.operands.map fun p => dirOf p ++ ending)))

/-- Runs `pwd`: writes the current directory, and warns that operands are ignored. -/
def pwd (cx : Context) (args : List String) : Outcome :=
  match Options.read "pwd" ⟨"LP", [⟨"logical", .nothing, 'L'⟩, ⟨"physical", .nothing, 'P'⟩]⟩ args with
  | .error e => cx.badUsage "pwd" e 1
  | .ok o =>
    let warning := if o.operands.isEmpty then "" else "pwd: ignoring non-option arguments\n"
    ⟨pieces [(2, bytes warning), (1, bytes (Text.utf8Bytes (Workspace.showLocation cx.cwd) ++ "\n"))], 0,
      cx.workspace, false, none⟩

end HelpMan.Tools
