import HelpMan.Tools.Basic
import HelpMan.Shell.Test

/-!
# `test` and `[`: the program of the system

`Condition.status` evaluates the arguments of the `test` program of the system, and of
`[` without its closing `]`, to the exit status 0 (true) or 1 (false), or to the message
of what is wrong with them (status 2).

The number of arguments decides first (`posix`): none is false, one is true when it is
not empty, two are `! word` or a unary test, three are a binary test, `! a b`,
`( word )` or an `-a`/`-o` of two words, and four are `!` and three or `(` two `)`.
Anything longer, and whatever the counts leave, is read by the grammar

* `disj ::= conj (-o conj)*`, `conj ::= term (-a term)*` (`disj`, `conj`), every side
  evaluated;
* `term ::= !* ( ( disj ) | -l s OP n | a OP b | -X operand | word )` (`term`), where
  `OP` is a binary operator, and a `(` reads as many words as the counts above allow.

Integers (`findInt`) are decimal, with blanks around them and an optional sign, of any
size; `-l s` stands for the length of `s`. Files are asked about through a
`Shell.Test.Files` view of the file system.
-/

namespace HelpMan.Tools.Condition

open Shell.Test (Files)

/-- The arguments being read, as an array. -/
abbrev Args := Array String

/-- What reading a part gives: its truth and the position after it, or a message. -/
abbrev Read := Except String (Bool × Nat)

/-- The argument at a position, empty past the end. -/
def at_ (args : Args) (i : Nat) : String := args.getD i ""

/-- The message of a condition that ends too soon. -/
def beyond (args : Args) : String := "missing argument after " ++ quote (at_ args (args.size - 1))

/-- Moves past the argument at a position; when `needed`, an argument must follow. -/
def advance (args : Args) (needed : Bool) (p : Nat) : Except String Nat :=
  if needed && p + 1 ≥ args.size then .error (beyond args) else .ok (p + 1)

/-- The binary operators. -/
def binaryOps : List String :=
  ["=", "!=", "==", "-nt", "-ot", "-ef", "-eq", "-ne", "-lt", "-le", "-gt", "-ge", ">", "<"]

/-- Whether a word is a binary operator. -/
def isBinary (s : String) : Bool := binaryOps.contains s

/-- Whether a word is `-` and one more character. -/
def isSwitch (s : String) : Bool :=
  match s.toList with
  | ['-', _] => true
  | _ => false

/-- Whether a switch names a unary test. -/
def isUnary (s : String) : Bool :=
  match s.toList with
  | ['-', c] => "abcdefghknoprstuwxzGLOSN".toList.contains c
  | _ => false

/-- Whether a character is a blank around an integer. -/
def isBlank (c : Char) : Bool := c = ' ' || c = '\t'

/-- Reads an integer: blanks, an optional `+` or `-`, digits, blanks. -/
def findInt (s : String) : Except String Int :=
  let cs := s.toList.dropWhile isBlank
  let (negative, cs) : Bool × List Char := match cs with
    | '+' :: r => (false, r)
    | '-' :: r => (true, r)
    | r => (false, r)
  let ds := cs.takeWhile Char.isDigit
  if ds.isEmpty || !(cs.drop ds.length).all isBlank then .error ("invalid integer " ++ quote s)
  else
    let n : Int := ((String.ofList ds).toNat?.getD 0)
    .ok (if negative then -n else n)

/-- Applies a unary test to its operand. -/
def unary (files : Files) (op : Char) (a : String) : Except String Bool :=
  match op with
  | 'n' => .ok (!a.isEmpty)
  | 'z' => .ok a.isEmpty
  | 'e' | 'r' | 'w' | 'O' | 'G' => .ok (files.kind? a).isSome
  | 'f' => .ok (files.kind? a == some .file)
  | 'd' => .ok (files.kind? a == some .dir)
  | 'c' => .ok (files.kind? a == some .device)
  | 's' => .ok (match files.kind? a with
    | some .file => files.size a > 0
    | some .dir => true
    | some _ => false
    | none => false)
  | 'x' => .ok (files.executable a || files.kind? a == some .dir)
  | 'k' => .ok (files.sticky a)
  | 'L' | 'h' => .ok (files.link a)
  | 't' => (findInt a).map fun _ => false
  | _ => .ok false

/-- Reads a unary test at a position: its switch and operand. -/
def unaryAt (files : Files) (args : Args) (p : Nat) : Read := do
  let op := at_ args p
  let c := (op.toList.drop 1).headD ' '
  if !"efrwxOGNsSdcbpLhugktnz".toList.contains c then throw (quote op ++ ": unary operator expected")
  let q ← advance args true p
  let v ← unary files c (at_ args q)
  return (v, q + 1)

/-- Reads a binary test at a position, after `-l` when `lengthLeft`: an integer
comparison, a comparison of files, or of texts. -/
def binaryAt (files : Files) (args : Args) (lengthLeft : Bool) (p : Nat) : Read := do
  let p := if lengthLeft then p + 1 else p
  let op := p + 1
  let lengthRight := op + 2 < args.size && at_ args (op + 1) == "-l"
  let p := if lengthRight then p + 1 else p
  let o := at_ args op
  if ["-lt", "-le", "-gt", "-ge", "-eq", "-ne"].contains o then
    let l ← if lengthLeft then pure ((at_ args (op - 1)).length : Int) else findInt (at_ args (op - 1))
    let r ← if lengthRight then pure ((at_ args (op + 2)).length : Int) else findInt (at_ args (op + 1))
    let v := match o with
      | "-lt" => l < r
      | "-le" => l ≤ r
      | "-gt" => l > r
      | "-ge" => l ≥ r
      | "-eq" => l == r
      | _ => l != r
    return (v, p + 3)
  else if o == "-nt" || o == "-ot" || o == "-ef" then
    if lengthLeft || lengthRight then throw (o ++ " does not accept -l")
    let a := at_ args (op - 1)
    let b := at_ args (op + 1)
    let v := match o with
      | "-nt" => files.newer a b
      | "-ot" => files.newer b a
      | _ => files.same a b
    return (v, p + 3)
  else if o == "=" || o == "==" then return (at_ args p == at_ args (p + 2), p + 3)
  else if o == "!=" then return (at_ args p != at_ args (p + 2), p + 3)
  else if o == ">" then return (at_ args (p + 2) < at_ args p, p + 3)
  else if o == "<" then return (at_ args p < at_ args (p + 2), p + 3)
  else throw (quote o ++ ": unknown binary operator")

/-- One argument: true when it is not empty. -/
def one (args : Args) (p : Nat) : Read := .ok (!(at_ args p).isEmpty, p + 1)

/-- Two arguments: `! word`, or a unary test. -/
def two (files : Files) (args : Args) (p : Nat) : Read := do
  let w := at_ args p
  if w == "!" then
    let (v, q) ← one args (p + 1)
    return (!v, q)
  else if isSwitch w then
    if isUnary w then unaryAt files args p else throw (quote w ++ ": unary operator expected")
  else throw (beyond args)

/-- Passes over leading `!` words, each flipping the truth. -/
def nots (args : Args) : Nat → Bool → Nat → Except String (Bool × Nat)
  | 0, negated, p => .ok (negated, p)
  | fuel + 1, negated, p =>
    if p < args.size && at_ args p == "!" then do
      let q ← advance args true p
      nots args fuel (!negated) q
    else .ok (negated, p)

/-- How many words a `(` at a position reads: up to its `)`, or all that are left once
that is more than four. -/
def inside (args : Args) (k : Nat) : Nat → Nat → Nat
  | 0, _ => k
  | fuel + 1, p =>
    if p + k < args.size && at_ args (p + k) != ")" then
      if k == 4 then args.size - p else inside args (k + 1) fuel p
    else k

mutual

/-- Reads `conj (-o conj)*` from a position. -/
def disj : Nat → Files → Args → Nat → Read
  | 0, _, args, _ => .error (beyond args)
  | fuel + 1, files, args, p => do
    let (v, q) ← conj fuel files args p
    if q < args.size && at_ args q == "-o" then
      let (w, r) ← disj fuel files args (q + 1)
      return (v || w, r)
    else return (v, q)

/-- Reads `term (-a term)*` from a position. -/
def conj : Nat → Files → Args → Nat → Read
  | 0, _, args, _ => .error (beyond args)
  | fuel + 1, files, args, p => do
    let (v, q) ← term fuel files args p
    if q < args.size && at_ args q == "-a" then
      let (w, r) ← conj fuel files args (q + 1)
      return (v && w, r)
    else return (v, q)

/-- Reads a term from a position: negations, then a bracketed condition, a binary test,
a unary test or a word. -/
def term : Nat → Files → Args → Nat → Read
  | 0, _, args, _ => .error (beyond args)
  | fuel + 1, files, args, p => do
    let (negated, p) ← nots args (args.size + 1) false p
    if p ≥ args.size then throw (beyond args)
    let w := at_ args p
    let (v, q) ← if w == "(" then do
        let p ← advance args true p
        let (v, q) ← posix fuel files args (inside args 1 (args.size + 1) p) p
        if q ≥ args.size then throw (quote ")" ++ " expected")
        else if at_ args q != ")" then throw (quote ")" ++ " expected, found " ++ quote (at_ args q))
        else pure (v, q + 1)
      else if 4 ≤ args.size - p && w == "-l" && isBinary (at_ args (p + 2)) then binaryAt files args true p
      else if 3 ≤ args.size - p && isBinary (at_ args (p + 1)) then binaryAt files args false p
      else if isSwitch w then
        if isUnary w then unaryAt files args p else throw (quote w ++ ": unary operator expected")
      else pure (!w.isEmpty, p + 1)
    return (negated != v, q)

/-- Reads as many arguments as a count says, the way a condition of that many arguments
is read. -/
def posix : Nat → Files → Args → Nat → Nat → Read
  | 0, _, args, _, _ => .error (beyond args)
  | fuel + 1, files, args, n, p =>
    let w := at_ args p
    match n with
    | 1 => one args p
    | 2 => two files args p
    | 3 => three fuel files args p
    | 4 =>
      if w == "!" then do
        let q ← advance args true p
        let (v, r) ← three fuel files args q
        return (!v, r)
      else if w == "(" && at_ args (p + 3) == ")" then do
        let (v, q) ← two files args (p + 1)
        return (v, q + 1)
      else disj fuel files args p
    | _ => if p ≥ args.size then .error (beyond args) else disj fuel files args p

/-- Three arguments: a binary test, `!` and two, `( word )`, or an `-a` or `-o` of two
words. -/
def three : Nat → Files → Args → Nat → Read
  | 0, _, args, _ => .error (beyond args)
  | fuel + 1, files, args, p => do
    let w := at_ args p
    let mid := at_ args (p + 1)
    if isBinary mid then binaryAt files args false p
    else if w == "!" then
      let q ← advance args true p
      let (v, r) ← two files args q
      return (!v, r)
    else if w == "(" && at_ args (p + 2) == ")" then
      let (v, q) ← one args (p + 1)
      return (v, q + 1)
    else if mid == "-a" || mid == "-o" then disj fuel files args p
    else throw (quote mid ++ ": binary operator expected")

end

/-- The exit status of `test` on its arguments: 0 when the condition holds, 1 when it
does not, or the message of what is wrong with them. -/
def status (files : Files) (words : List String) : Except String Nat :=
  let args := words.toArray
  if args.size == 0 then .ok 1
  else do
    let (v, p) ← posix (4 * args.size + 8) files args args.size 0
    if p != args.size then throw ("extra argument " ++ quote (at_ args p))
    return if v then 0 else 1


end HelpMan.Tools.Condition
