import HelpMan.Workspace

/-!
# Conditions of `test`

`Test.status` evaluates the arguments of `test` (and of `[` without its `]`) as the
shell's own `test` does, to the exit status 0 (true) or 1 (false), or the message of
what is wrong with them.

The grammar, loosest first: `expr -o expr`, `expr -a expr`, `! expr`, `( expr )`, a
unary operator and its operand (`-n s`, `-f path`, ...), an operand, a binary operator
and another operand (`a = b`, `m -lt n`, ...), or an operand alone, which is true when it
is not empty. A word that spells an operator is an operand where the grammar could not
take it as one: a unary operator followed by a binary operator and more, or a `(` at the
end. With three arguments whose middle one is a binary operator, that operator is
applied; with three or four that a `(` and `)` enclose, or that start with `!`, those
words are taken off first.

Numbers are decimal, with optional blanks around them and a sign, and must lie in the
range of 64-bit integers. Files are asked about through a `Files` view of the file system.
-/

namespace HelpMan.Shell.Test

/-- What `test` asks of the file system about a path: what stands there, its size, and
whether it may be run. -/
structure Files where
  kind? : String → Option HelpMan.Kind
  size : String → Nat
  executable : String → Bool
  /-- Where a path leads, symbolic links followed, if something stands there. -/
  place? : String → Option Location := fun _ => none
  /-- The time what a path names last changed, if it names something. -/
  time? : String → Option Int := fun _ => none
  /-- Whether a path names a directory with the bit that keeps others from removing what
  it holds. -/
  sticky : String → Bool := fun _ => false
  /-- Whether a path names a symbolic link. -/
  link : String → Bool := fun _ => false
  /-- Whether a path that names nothing counts as older than any that does, for `-nt` and
  `-ot`, as `bash` and the program `test` take it; the system's `sh` finds neither older. -/
  missingIsOlder : Bool := false

/-- The view `test` has of a workspace from a directory. -/
def Files.ofWorkspace (ws : Workspace) (cwd : Location) (missingIsOlder : Bool) : Files where
  kind? p := ws.kindOf? cwd (Text.ofByteString p)
  size p := match ws.readAt cwd (Text.ofByteString p) with
    | .ok bs => bs.length
    | .error _ => 0
  executable p := match ws.find cwd (Text.ofByteString p) with
    | .present loc .file => ws.isExecutableAt loc
    | .present _ .dir => true
    | _ => false
  place? p := match ws.find cwd (Text.ofByteString p) with
    | .present loc _ => some loc
    | _ => none
  time? p := match ws.find cwd (Text.ofByteString p) with
    | .present loc _ => some (ws.timeAt loc)
    | _ => none
  sticky p := match ws.find cwd (Text.ofByteString p) with
    | .present loc _ => ws.isStickyAt loc
    | _ => false
  link p := (ws.linkAt? cwd (Text.ofByteString p)).isSome
  missingIsOlder := missingIsOlder

/-- Whether what the first path names changed after what the second names, as `-nt`
asks. -/
def Files.newer (ws : Files) (a b : String) : Bool :=
  match ws.time? a, ws.time? b with
  | some x, some y => x > y
  | some _, none => ws.missingIsOlder
  | none, _ => false

/-- Whether two paths lead to the same place, as `-ef` asks. -/
def Files.same (ws : Files) (a b : String) : Bool :=
  match ws.place? a, ws.place? b with
  | some x, some y => x == y
  | _, _ => false

/-- The roles of operator words. -/
inductive Role where
  | unary
  | binary
  | negation
  | both
  | either
  | opening
  | closing
  deriving DecidableEq, Repr

/-- The unary operators. -/
def unaryOps : List String :=
  ["-r", "-w", "-x", "-s", "-t", "-z", "-n", "-h", "-O", "-G", "-L", "-S", "-e", "-f", "-d", "-c", "-b",
   "-p", "-u", "-g", "-k"]

/-- The binary operators. -/
def binaryOps : List String :=
  ["=", "!=", "<", ">", "-eq", "-ne", "-ge", "-gt", "-le", "-lt", "-nt", "-ot", "-ef"]

/-- The role of operator a word spells. -/
def kindOf? (s : String) : Option Role :=
  if unaryOps.contains s then some .unary
  else if binaryOps.contains s then some .binary
  else
    match s with
    | "!" => some .negation
    | "-a" => some .both
    | "-o" => some .either
    | "(" => some .opening
    | ")" => some .closing
    | _ => none

/-- Whether the words after a unary operator make it an operand: nothing follows it, or
a binary operator and more do. -/
def operandAfter (rest : List String) : Bool :=
  match rest with
  | [] => true
  | [_] => false
  | n :: _ :: _ => kindOf? n == some .binary

/-- The role of the word at the front as the grammar reads it, `none` for an operand or
the end. -/
def classify : List String → Option Role
  | [] => none
  | w :: rest =>
    match kindOf? w with
    | some .unary => if operandAfter rest then none else some .unary
    | some .opening => if rest.isEmpty then none else some .opening
    | k => k

/-- Whether a character is a blank for a number. -/
def isSpace (c : Char) : Bool := c = ' ' || c = '\t' || c = '\n' || c = '\r' || c = '\x0b' || c = '\x0c'

/-- Reads a decimal number with optional blanks around it and a sign, within the range of
64-bit integers. -/
def number? (s : String) : Option Int :=
  let cs := s.toList.dropWhile isSpace
  let (neg, cs) : Bool × List Char := match cs with
    | '-' :: r => (true, r)
    | '+' :: r => (false, r)
    | r => (false, r)
  let ds := cs.takeWhile Char.isDigit
  if ds.isEmpty || !(cs.drop ds.length).all isSpace then none
  else
    let n : Int := ((String.ofList ds).toNat?.getD 0)
    let v := if neg then -n else n
    if v < -9223372036854775808 || v > 9223372036854775807 then none else some v

/-- Reads a number, or fails with the message of one that is not. -/
def numberOf (s : String) : Except String Int :=
  match number? s with
  | some n => .ok n
  | none => .error ("Illegal number: " ++ s)

/-- Applies a unary operator. -/
def unary (ws : Files) (op a : String) : Bool :=
  match op with
  | "-n" => !a.isEmpty
  | "-z" => a.isEmpty
  | "-e" | "-r" | "-w" | "-O" | "-G" => (ws.kind? a).isSome
  | "-f" => ws.kind? a == some .file
  | "-d" => ws.kind? a == some .dir
  | "-c" => ws.kind? a == some .device
  | "-s" => match ws.kind? a with
    | some .file => ws.size a > 0
    | some .dir => true
    | _ => false
  | "-x" => ws.executable a || ws.kind? a == some .dir
  | "-k" => ws.sticky a
  | "-h" | "-L" => ws.link a
  | _ => false

/-- Applies a binary operator. -/
def binary (ws : Files) (a op b : String) : Except String Bool :=
  let compare (f : Int → Int → Bool) : Except String Bool := do
    let x ← numberOf a
    let y ← numberOf b
    return f x y
  match op with
  | "=" => .ok (a == b)
  | "!=" => .ok (a != b)
  | "<" => .ok (a < b)
  | ">" => .ok (b < a)
  | "-eq" => compare (· == ·)
  | "-ne" => compare (· != ·)
  | "-ge" => compare (· ≥ ·)
  | "-gt" => compare (· > ·)
  | "-le" => compare (· ≤ ·)
  | "-lt" => compare (· < ·)
  | "-nt" => .ok (ws.newer a b)
  | "-ot" => .ok (ws.newer b a)
  | "-ef" => .ok (ws.same a b)
  | _ => .ok false

/-- What reading a part of a condition gives: its truth and the words after it. -/
abbrev Result := Except String (Bool × List String)

mutual

/-- Reads `expr -o expr ...`; both sides are always evaluated. -/
def either : Nat → Files → List String → Result
  | 0, _, args => .ok (false, args)
  | fuel + 1, ws, args => do
    let (a, rest) ← both fuel ws args
    match rest with
    | "-o" :: more =>
      let (b, rest) ← either fuel ws more
      return (a || b, rest)
    | _ => return (a, rest)

/-- Reads `expr -a expr ...`; both sides are always evaluated. -/
def both : Nat → Files → List String → Result
  | 0, _, args => .ok (false, args)
  | fuel + 1, ws, args => do
    let (a, rest) ← negation fuel ws args
    match rest with
    | "-a" :: more =>
      let (b, rest) ← both fuel ws more
      return (a && b, rest)
    | _ => return (a, rest)

/-- Reads `! expr`, or a primary. -/
def negation : Nat → Files → List String → Result
  | 0, _, args => .ok (false, args)
  | fuel + 1, ws, args =>
    if classify args == some .negation then
      (negation fuel ws (args.drop 1)).map fun (b, rest) => (!b, rest)
    else primary fuel ws args

/-- Reads a primary: a bracketed condition, a unary test, a binary test, or an operand. -/
def primary : Nat → Files → List String → Result
  | 0, _, args => .ok (false, args)
  | fuel + 1, ws, args =>
    match classify args, args with
    | _, [] => .ok (false, [])
    | some .opening, _ :: rest =>
      if classify rest == some .closing then .ok (false, rest.drop 1)
      else do
        let (b, more) ← either fuel ws rest
        if classify more == some .closing then return (b, more.drop 1)
        else throw "closing paren expected"
    | some .unary, op :: rest =>
      match rest with
      | a :: more => .ok (unary ws op a, more)
      | [] => .error (op ++ ": argument expected")
    | _, a :: rest =>
      match rest with
      | op :: more =>
        if kindOf? op == some .binary then
          match more with
          | b :: after => (binary ws a op b).map fun r => (r, after)
          | [] => .error (op ++ ": argument expected")
        else .ok (!a.isEmpty, rest)
      | [] => .ok (!a.isEmpty, [])

end

/-- Evaluates the whole of a condition; words left over are an error, reported with the
last word read. -/
def whole (ws : Files) (args : List String) : Except String Bool := do
  let (b, rest) ← either (2 * args.length + 2) ws args
  match rest with
  | _ :: _ => throw (args.getD (args.length - rest.length - 1) "" ++ ": unexpected operator")
  | [] => return b

/-- The exit status of `test` on its arguments when `failed` is the status of a false
condition, or the message of what is wrong. Three arguments whose middle one is a binary
operator are that test; three or four that `(` and `)` enclose are the condition inside
them; three or four that start with `!` are read again without it, and then a true
condition fails. -/
def statusFrom (ws : Files) (failed : Nat) : List String → Except String Nat
  | [] => .ok failed
  | a :: rest =>
    let args := a :: rest
    let flip (b : Bool) : Nat := if b then 1 - failed else failed
    let n := args.length
    if n = 3 && kindOf? (args.getD 1 "") == some .binary then
      (binary ws (args.getD 0 "") (args.getD 1 "") (args.getD 2 "")).map flip
    else if (n = 3 || n = 4) && a == "(" && args.getLast? == some ")" then
      (whole ws rest.dropLast).map flip
    else if (n = 3 || n = 4) && a == "!" then statusFrom ws 0 rest
    else (whole ws args).map flip

/-- The exit status of `test` on its arguments: 0 when the condition holds, 1 when it
does not; or the message of what is wrong with them. -/
def status (ws : Files) (args : List String) : Except String Nat := statusFrom ws 1 args

/-- A view of a file system in which nothing exists. -/
def Files.none : Files := { kind? := fun _ => Option.none, size := fun _ => 0, executable := fun _ => false }

example : (status Files.none ["a", "=", "a"]).toOption = some 0 := by decide +kernel
example : (status Files.none ["!", "-z", "x"]).toOption = some 0 := by decide +kernel
example : (status Files.none ["a", "==", "b"]).toOption = none := by decide +kernel

end HelpMan.Shell.Test
