import HelpMan.Tools.Basic

/-!
# File modes and `chmod`

A mode is twelve bits: read, write and run for the owner, the group and the others, and
above them the bits that set the user and the group a program runs as and the bit that
keeps others from removing what a directory holds.

* `compileMode` reads a mode as `chmod` and `mkdir -m` take it: octal digits up to
  `7777`, which set the mode, or clauses `[ugoa]*([-+=]([rwxXst]*|[ugo]))+` joined by
  commas, each a list of changes.
* `adjustMode` applies the changes to a mode. A change that names no one (`+x`) leaves
  alone the bits the mask of new files (`022` unless `umask` changed it) takes away; `X` gives the right to run
  only to a directory or to what some may run already; `u`, `g` and `o` after the
  operator copy the bits of that part to every part.
* `chmod` changes the mode of each file; a mode written as an option (`-w`) also warns when
  the mask kept the change from being what it says.
-/

namespace HelpMan.Tools

/-- How the value of a change of mode is found. -/
inductive ChangeFlag where
  /-- The bits given. -/
  | ordinary
  /-- The bits of one part of the mode (`u`, `g` or `o`), copied to every part. -/
  | copyExisting
  /-- The bits given, and the right to run for all when the file is a directory or some
  may run it already (`X`). -/
  | runIfAnyRuns
  deriving DecidableEq, Repr

/-- One change of a mode: its operator (`=`, `+` or `-`), how its value is found, the bits
its `who` letters name (none when there are none), its value, and the bits it names. -/
structure ModeChange where
  op : Char
  flag : ChangeFlag
  affected : Nat
  value : Nat
  mentioned : Nat
  deriving DecidableEq, Repr

/-- All the bits of a mode. -/
def modeBits : Nat := 0o7777

/-- The mask of new files: no one but the owner may write them. -/
def defaultUmask : Nat := 0o022

/-- The bits a `who` letter names. -/
def whoBits : Char → Option Nat
  | 'u' => some 0o4700
  | 'g' => some 0o2070
  | 'o' => some 0o1007
  | 'a' => some 0o7777
  | _ => none

/-- The value of a number written in octal digits. -/
def octalValue (ds : List Char) : Nat := ds.foldl (fun n c => 8 * n + (c.toNat - 48)) 0

/-- Whether a character is an octal digit. -/
def octalDigit (c : Char) : Bool := '0' ≤ c && c ≤ '7'

/-- Reads the permissions after an operator, `[rwxXst]*`: their bits, whether `X` came,
and the characters after them. -/
def permissions (cs : List Char) : Nat × Bool × List Char :=
  let letters := cs.takeWhile ("rwxXst".toList.contains ·)
  let bits := letters.foldl (fun b c => b ||| match c with
    | 'r' => 0o444
    | 'w' => 0o222
    | 'x' => 0o111
    | 's' => 0o6000
    | 't' => 0o1000
    | _ => 0) 0
  (bits, letters.contains 'X', cs.drop letters.length)

/-- Reads the actions of a clause after its `who` letters: an operator and what follows
it, as often as operators come. -/
def modeActions : Nat → Nat → List Char → Option (List ModeChange × List Char)
  | 0, _, _ => none
  | fuel + 1, affected, op :: rest =>
    if !"=+-".toList.contains op then none
    else
      let made : Option (ModeChange × List Char) := match rest with
        | c :: _ =>
          if octalDigit c then
            let ds := rest.takeWhile octalDigit
            let after := rest.drop ds.length
            let v := octalValue ds
            if v > modeBits || affected != 0 || !(after.isEmpty || after.head? == some ',') then none
            else some (⟨op, .ordinary, modeBits, v, modeBits⟩, after)
          else
            let copied : Option Nat := match c with
              | 'u' => some 0o700
              | 'g' => some 0o070
              | 'o' => some 0o007
              | _ => none
            match copied with
            | some v => some (⟨op, .copyExisting, affected, v, if affected != 0 then affected &&& v else v⟩, rest.drop 1)
            | none =>
              let (v, runIf, after) := permissions rest
              some (⟨op, if runIf then .runIfAnyRuns else .ordinary, affected, v,
                if affected != 0 then affected &&& v else v⟩, after)
        | [] => some (⟨op, .ordinary, affected, 0, 0⟩, [])
      match made with
      | none => none
      | some (ch, after) =>
        match after with
        | o :: _ =>
          if "=+-".toList.contains o then (modeActions fuel affected after).map fun (chs, r) => (ch :: chs, r)
          else some ([ch], after)
        | [] => some ([ch], [])
  | _ + 1, _, [] => none

/-- Reads clauses joined by commas, each `who` letters and actions. -/
def modeClauses : Nat → List Char → Option (List ModeChange)
  | 0, _ => none
  | fuel + 1, cs =>
    let who := cs.takeWhile (fun c => (whoBits c).isSome)
    let affected := who.foldl (fun b c => b ||| (whoBits c).getD 0) 0
    match modeActions (cs.length + 1) affected (cs.drop who.length) with
    | some (chs, []) => some chs
    | some (chs, ',' :: rest) => (modeClauses fuel rest).map (chs ++ ·)
    | _ => none

/-- Reads a mode: octal digits up to `7777`, which set every bit (those that set the user
and group of a directory only when five digits or those bits are given), or symbolic
clauses; `none` when it is neither. -/
def compileMode (text : String) : Option (List ModeChange) :=
  let cs := text.toList
  match cs with
  | c :: _ =>
    if octalDigit c then
      if cs.all octalDigit && octalValue cs ≤ modeBits then
        let v := octalValue cs
        some [⟨'=', .ordinary, modeBits, v, if cs.length < 5 then (v &&& 0o6000) ||| 0o1777 else modeBits⟩]
      else none
    else modeClauses (cs.length + 1) cs
  | [] => none

/-- Applies changes to a mode, of a directory when `dir`, with a mask for the changes
that name no one. -/
def adjustMode (old : Nat) (dir : Bool) (umask : Nat) (changes : List ModeChange) : Nat :=
  changes.foldl (fun m ch =>
    let omitted := (if dir then 0o6000 else 0) &&& (modeBits ^^^ (ch.mentioned &&& modeBits))
    let value := match ch.flag with
      | .ordinary => ch.value
      | .copyExisting =>
        let v := ch.value &&& m
        v ||| (if v &&& 0o444 != 0 then 0o444 else 0) ||| (if v &&& 0o222 != 0 then 0o222 else 0) |||
          (if v &&& 0o111 != 0 then 0o111 else 0)
      | .runIfAnyRuns => if m &&& 0o111 != 0 || dir then ch.value ||| 0o111 else ch.value
    let value := value &&& (if ch.affected != 0 then ch.affected else modeBits ^^^ (umask &&& modeBits)) &&&
      (modeBits ^^^ omitted)
    match ch.op with
    | '=' =>
      let preserved := (if ch.affected != 0 then modeBits ^^^ ch.affected else 0) ||| omitted
      (m &&& preserved) ||| value
    | '+' => m ||| value
    | _ => m &&& (modeBits ^^^ value)) (old &&& modeBits)

/-- The nine letters of a mode as `ls -l` writes them: `rwx` for each part, `s` or `S`
for the bits that set the user and group, `t` or `T` for the bit of directories. -/
def permString (m : Nat) : String :=
  let bit (b : Nat) (c : Char) : Char := if m &&& b != 0 then c else '-'
  let run (x special : Nat) (set unset : Char) : Char :=
    if m &&& special != 0 then (if m &&& x != 0 then set else unset) else bit x 'x'
  String.ofList [bit 0o400 'r', bit 0o200 'w', run 0o100 0o4000 's' 'S', bit 0o40 'r', bit 0o20 'w',
    run 0o10 0o2000 's' 'S', bit 0o4 'r', bit 0o2 'w', run 0o1 0o1000 't' 'T']

/-- A mode in four octal digits. -/
def octal4 (m : Nat) : String :=
  let ds := (Nat.toDigits 8 m)
  String.ofList (List.replicate (4 - ds.length) '0' ++ ds)

example : (compileMode "755").map (adjustMode 0o644 false defaultUmask) = some 0o755 ∧
    (compileMode "+x").map (adjustMode 0o644 false defaultUmask) = some 0o755 ∧
    (compileMode "go-r,u+s").map (adjustMode 0o644 false defaultUmask) = some 0o4600 ∧
    (compileMode "g=u").map (adjustMode 0o640 false defaultUmask) = some 0o660 ∧
    compileMode "u+x," = none ∧ compileMode "8" = none ∧ permString 0o1777 = "rwxrwxrwt" := by
  decide +kernel

/-! ## chmod -/

/-- What the arguments of `chmod` ask for. -/
structure ChmodRequest where
  /-- The pieces of the mode given as options (`-w`), joined by commas. -/
  modePieces : List String := []
  recursive : Bool := false
  /-- Report each change (`-c`), or each file (`-v`). -/
  reportChanges : Bool := false
  verbose : Bool := false
  silent : Bool := false
  reference : Option String := none
  operands : List String := []

/-- The long options of `chmod`. -/
def chmodLongs : List LongOption :=
  [⟨"changes", .nothing, 'c'⟩, ⟨"silent", .nothing, 'f'⟩, ⟨"quiet", .nothing, 'f'⟩, ⟨"verbose", .nothing, 'v'⟩,
   ⟨"recursive", .nothing, 'R'⟩, ⟨"reference", .required, 'F'⟩, ⟨"preserve-root", .nothing, 'P'⟩,
   ⟨"no-preserve-root", .nothing, 'N'⟩]

/-- The request after an option letter. -/
def ChmodRequest.set (r : ChmodRequest) (c : Char) (v : Option String) : ChmodRequest :=
  match c with
  | 'c' => { r with reportChanges := true }
  | 'f' => { r with silent := true }
  | 'v' => { r with verbose := true }
  | 'R' => { r with recursive := true }
  | 'F' => { r with reference := v }
  | _ => r

/-- Reads the arguments of `chmod`, options anywhere before `--`; an argument that starts
with `-` and a letter of a mode is a piece of the mode. -/
def ChmodRequest.read : Nat → List String → ChmodRequest → Except String ChmodRequest
  | 0, args, r => .ok { r with operands := r.operands ++ args }
  | _ + 1, [], r => .ok r
  | fuel + 1, a :: rest, r =>
    if a == "--" then .ok { r with operands := r.operands ++ rest }
    else
      match a.toList with
      | '-' :: '-' :: cs => do
        let ((c, v), rest) ← Options.long "chmod" chmodLongs (String.ofList cs) rest
        ChmodRequest.read fuel rest (r.set c v)
      | '-' :: cs@(_ :: _) =>
        let flags := cs.takeWhile ("Rcfv".toList.contains ·)
        let r := flags.foldl (fun r c => r.set c none) r
        match cs.drop flags.length with
        | [] => ChmodRequest.read fuel rest r
        | c :: _ =>
          if "rwxXstugoa,+=01234567".toList.contains c then
            ChmodRequest.read fuel rest { r with modePieces := r.modePieces ++ [a] }
          else .error ("chmod: invalid option -- '" ++ c.toString ++ "'\n")
      | _ => ChmodRequest.read fuel rest { r with operands := r.operands ++ [a] }

/-- What `chmod` has done so far: the workspace, its output and messages, and whether
something failed. -/
structure ChmodState where
  workspace : Workspace
  /-- What was written, in order, to standard output (1) or standard error (2). -/
  writes : List (Nat × List UInt8) := []
  failed : Bool := false

/-- Changes the mode of what stands at a location, shown as `path`, and with `-R` of all a
directory holds, in the order of the names; symbolic links below are passed over. -/
def chmodVisit (rq : ChmodRequest) (changes : List ModeChange) (diagnose : Bool) (mask : Nat) :
    Nat → ChmodState → String → Location → ChmodState
  | 0, st, _, _ => st
  | fuel + 1, st, path, loc =>
    let ws := st.workspace
    let dir := ws.kindAt loc == some .dir
    let old := ws.modeAt loc
    let new := adjustMode old dir mask changes
    let st := { st with workspace := ws.setMode loc new }
    let line :=
      if old == new then
        (if rq.verbose then "mode of " ++ quoteAlways path ++ " retained as " ++ octal4 new ++ " (" ++ permString new ++ ")\n"
         else "")
      else if rq.verbose || rq.reportChanges then
        "mode of " ++ quoteAlways path ++ " changed from " ++ octal4 old ++ " (" ++ permString old ++ ") to " ++
          octal4 new ++ " (" ++ permString new ++ ")\n"
      else ""
    let naive := adjustMode old dir 0 changes
    let st := if diagnose && new &&& (modeBits ^^^ naive) != 0 then
        { st with failed := true,
                  writes := st.writes ++ [(1, bytes line), (2, bytes ("chmod: " ++ quoteIfNeeded path ++
                    ": new permissions are " ++ permString new ++ ", not " ++ permString naive ++ "\n"))] }
      else { st with writes := st.writes ++ [(1, bytes line)] }
    if rq.recursive && dir then
      (st.workspace.namesIn loc).foldl (fun st n =>
        if (st.workspace.links.lookup (loc ++ [n])).isSome then st
        else chmodVisit rq changes diagnose mask fuel st (joinPath path (Text.utf8Bytes n)) (loc ++ [n])) st
    else st

/-- Runs `chmod`: changes the mode of each file as the mode says, or to the mode of the
file of `--reference`. -/
def chmod (cx : Context) (args : List String) : Outcome :=
  match ChmodRequest.read (args.length + 1) args {} with
  | .error e => cx.badUsage "chmod" e 1
  | .ok rq =>
    let fromOptions := !rq.modePieces.isEmpty
    let (mode, files) : Option String × List String := match rq.reference, fromOptions, rq.operands with
      | some _, _, ops => (none, ops)
      | none, true, ops => (some (",".intercalate rq.modePieces), ops)
      | none, false, m :: ops => (some m, ops)
      | none, false, [] => (none, [])
    if files.isEmpty then
      match rq.reference, fromOptions, rq.operands with
      | none, false, [m] => cx.badUsage "chmod" ("chmod: missing operand after " ++ quote m ++ "\n") 1
      | _, _, _ => cx.missingOperand "chmod" 1
    else
      let changes : Except Outcome (List ModeChange) := match rq.reference, mode with
        | some ref, _ =>
          match cx.find ref with
          | .present loc _ =>
            .ok [⟨'=', .ordinary, modeBits, cx.workspace.modeAt loc, modeBits⟩]
          | found =>
            .error (cx.failWith ("chmod: failed to get attributes of " ++ quoteAlways ref ++ ": " ++
              (match found with
                | .blocked f => f.reason
                | _ => Fault.noEntry.reason) ++ "\n") 1)
        | none, m =>
          match compileMode (m.getD "") with
          | some chs => .ok chs
          | none => .error (cx.badUsage "chmod" ("chmod: invalid mode: " ++ quote (m.getD "") ++ "\n") 1)
      match changes with
      | .error o => o
      | .ok changes =>
        let st := files.foldl (fun (st : ChmodState) f =>
          match st.workspace.find cx.cwd (Text.ofByteString f) with
          | .present loc _ => chmodVisit rq changes fromOptions cx.umask 4096 st f loc
          | found =>
            let why := if (st.workspace.linkAt? cx.cwd (Text.ofByteString f)).isSome then
                "chmod: cannot operate on dangling symlink " ++ quoteAlways f ++ "\n"
              else "chmod: cannot access " ++ quoteAlways f ++ ": " ++
                (match found with
                  | .blocked fault => fault.reason
                  | _ => Fault.noEntry.reason) ++ "\n"
            -- with -v a file that could not be reached is reported on standard output too
            let told := if rq.verbose then [(1, bytes (quoteAlways f ++ " could not be accessed\n"))] else []
            { st with writes := st.writes ++ [(2, bytes (if rq.silent then "" else why))] ++ told, failed := true })
          { workspace := cx.workspace }
        ⟨pieces st.writes, if st.failed then 1 else 0, st.workspace, false, none⟩

end HelpMan.Tools
