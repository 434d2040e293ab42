/-!
# Arithmetic

`Arith.evaluate` computes the value of an arithmetic expansion `$((...))` as the shell
computes it: in 64-bit signed integers that wrap, with C's operators and their
precedence (`*` `/` `%`, then `+` `-`, shifts, comparisons, equality, `&`, `^`, `|`,
`&&`, `||`, `?:`, and the assignments `=` `+=` ... at the lowest). Numbers are decimal,
octal after a `0`, or hexadecimal after `0x`; a name stands for the number in its
variable, and an unset or empty variable for zero; a number beyond the 64-bit range reads
as the largest one. `&&`, `||` and `?:` compute only the operands they need; an
assignment that is not computed changes nothing.

A failure (`Failure`) is worded as the shell words it: a malformed expression with the
expression after it, a variable that holds no number with its text.
-/

namespace HelpMan.Shell.Arith

/-- A token of an arithmetic expression; `bad` stands at a character that starts none,
and ends the tokens. -/
inductive Token where
  | num (n : Int64)
  | name (s : String)
  | op (s : String)
  | bad
  deriving DecidableEq, Repr

/-- The operators, longest first. -/
def spellings : List String :=
  ["<<=", ">>=", "<=", ">=", "==", "!=", "&&", "||", "<<", ">>", "+=", "-=", "*=", "/=", "%=", "&=",
   "^=", "|=", "+", "-", "*", "/", "%", "<", ">", "=", "!", "~", "&", "^", "|", "?", ":", "(", ")"]

/-- The value of a digit in a base up to 16. -/
def digitOf (c : Char) : Nat :=
  if c.isDigit then c.toNat - '0'.toNat
  else if 'a' ≤ c && c ≤ 'f' then c.toNat - 'a'.toNat + 10
  else if 'A' ≤ c && c ≤ 'F' then c.toNat - 'A'.toNat + 10
  else 16

/-- The value of digits in a base. -/
def valueOfDigits (base : Nat) (ds : List Char) : Nat := ds.foldl (fun n c => n * base + digitOf c) 0

/-- The largest number. -/
def maxValue : Nat := 9223372036854775807

/-- Whether a character is white space for C's readers of numbers. -/
def isBlank (c : Char) : Bool := c = ' ' || c = '\t' || c = '\n' || c = '\r' || c = '\x0b' || c = '\x0c'

/-- Reads digits of an integer as C's `strtoimax` reads them in base 0: base 16 after
`0x` when a digit follows, 8 after `0`, 10 otherwise. The magnitude and the characters
after it; `none` when there is no digit. -/
def readMagnitude (cs : List Char) : Option (Nat × List Char) :=
  match cs with
  | '0' :: x :: rest =>
    let ds := rest.takeWhile (digitOf · < 16)
    if (x = 'x' || x = 'X') && !ds.isEmpty then some (valueOfDigits 16 ds, rest.drop ds.length)
    else
      let ds := (x :: rest).takeWhile (digitOf · < 8)
      some (valueOfDigits 8 ds, (x :: rest).drop ds.length)
  | _ =>
    let ds := cs.takeWhile Char.isDigit
    if ds.isEmpty then none else some (valueOfDigits 10 ds, cs.drop ds.length)

/-- Reads an integer as C's `strtoimax` reads it in base 0: blanks, a sign and digits. The
value, cut to the nearest end of the 64-bit range, whether it had to be cut, and the
characters after it; `none` when no digit is read. -/
def readInteger (cs : List Char) : Option (Int64 × Bool × List Char) :=
  let cs := cs.dropWhile isBlank
  let (negative, cs) := match cs with
    | '-' :: r => (true, r)
    | '+' :: r => (false, r)
    | r => (false, r)
  (readMagnitude cs).map fun (m, after) =>
    if negative then
      if m > maxValue + 1 then (Int64.ofInt (-((maxValue : Int) + 1)), true, after)
      else (Int64.ofInt (-(m : Int)), false, after)
    else if m > maxValue then (Int64.ofNat maxValue, true, after)
    else (Int64.ofNat m, false, after)

/-- Whether a character may start a name. -/
def startsName (c : Char) : Bool := c.isAlpha || c = '_'

/-- Cuts an expression into tokens; a character that starts none gives `bad`, and the
tokens end there. A number beyond the 64-bit range reads as the largest number. -/
def tokenize : Nat → List Char → List Token
  | 0, _ => []
  | _ + 1, [] => []
  | fuel + 1, c :: rest =>
    if c = ' ' || c = '\t' || c = '\n' then tokenize fuel rest
    else if c.isDigit then
      match readMagnitude (c :: rest) with
      | some (m, after) => .num (Int64.ofNat (min m maxValue)) :: tokenize fuel after
      | none => [.bad]
    else if startsName c then
      let name := (c :: rest).takeWhile fun d => d.isAlphanum || d = '_'
      .name (String.ofList name) :: tokenize fuel ((c :: rest).drop name.length)
    else
      match spellings.find? (fun o => o.toList.isPrefixOf (c :: rest)) with
      | some o => .op o :: tokenize fuel ((c :: rest).drop o.length)
      | none => [.bad]

/-- The variables that an expression reads and assigns. -/
abbrev Vars := List (String × String)

/-- Why an expression does not compute. -/
inductive Failure where
  /-- The expression is malformed, or divides by zero. -/
  | expression (why : String)
  /-- A variable holds a text that is not a whole number in range: the text. -/
  | illegalNumber (value : String)
  /-- A variable that is not set, under `set -u`. -/
  | unset (name : String)
  /-- The smallest number divided by `-1`: the processor stops the shell with a signal. -/
  | trap
  deriving DecidableEq, Repr

/-- The number a variable holds: zero when it is unset or blank; a failure when its
text is not a whole number in range, with nothing but blanks after it. -/
def varValue (vars : Vars) (strict : Bool) (n : String) : Except Failure Int64 :=
  match (vars.find? (·.1 == n)).map Prod.snd with
  | none => if strict then .error (.unset n) else .ok 0
  | some v =>
    match readInteger v.toList with
    | some (x, false, rest) => if rest.all isBlank then .ok x else .error (.illegalNumber v)
    | some (_, true, _) => .error (.illegalNumber v)
    | none => if v.all isBlank then .ok 0 else .error (.illegalNumber v)

/-- The text of a number. -/
def showNumber (n : Int64) : String := toString n.toInt

/-- The smallest number. -/
def minValue : Int64 := Int64.ofInt (-9223372036854775808)

/-- Applies a binary operator; division and remainder by zero fail, and so do both of the
smallest number by `-1`. -/
def apply (o : String) (a b : Int64) : Except Failure Int64 :=
  let flag (p : Bool) : Int64 := if p then 1 else 0
  match o with
  | "*" => .ok (a * b)
  | "/" | "%" =>
    if b == 0 then .error (.expression "division by zero")
    else if a == minValue && b == -1 then .error .trap
    else .ok (if o == "/" then a / b else a % b)
  | "+" => .ok (a + b)
  | "-" => .ok (a - b)
  | "<<" => .ok (Int64.ofInt (a.toInt * Int.pow 2 (b.toInt % 64).toNat))
  | ">>" => .ok (Int64.ofInt (a.toInt / Int.pow 2 (b.toInt % 64).toNat))
  | "<" => .ok (flag (a.toInt < b.toInt))
  | "<=" => .ok (flag (a.toInt ≤ b.toInt))
  | ">" => .ok (flag (a.toInt > b.toInt))
  | ">=" => .ok (flag (a.toInt ≥ b.toInt))
  | "==" => .ok (flag (a == b))
  | "!=" => .ok (flag (a != b))
  | "&" => .ok (a &&& b)
  | "^" => .ok (a ^^^ b)
  | "|" => .ok (a ||| b)
  | "&&" => .ok (flag (a != 0 && b != 0))
  | "||" => .ok (flag (a != 0 || b != 0))
  | _ => .ok b

/-- The binary operators by level, from the loosest. -/
def levels : List (List String) :=
  [["||"], ["&&"], ["|"], ["^"], ["&"], ["==", "!="], ["<", "<=", ">", ">="], ["<<", ">>"], ["+", "-"],
   ["*", "/", "%"]]

/-- The assignment operators, with the binary operator each applies. -/
def assignments : List (String × String) :=
  [("=", "="), ("+=", "+"), ("-=", "-"), ("*=", "*"), ("/=", "/"), ("%=", "%"), ("<<=", "<<"),
   (">>=", ">>"), ("&=", "&"), ("^=", "^"), ("|=", "|")]

/-- What reading a part of an expression gives: its value, the variables after it, and
the tokens after it. -/
abbrev Result := Except Failure (Int64 × Vars × List Token)

mutual

/-- Reads an assignment, or a conditional expression. When `skip`, nothing is computed
that could fail or change a variable. -/
def assignment (strict : Bool) : Nat → Vars → List Token → Bool → Result
  | 0, _, _, _ => .error (.expression "expecting primary")
  | fuel + 1, vars, ts, skip =>
    match ts with
    | .name n :: .op o :: rest =>
      match assignments.find? (·.1 == o) with
      | some (_, bin) => do
        let (v, vars, rest) ← assignment strict fuel vars rest skip
        if skip then return (v, vars, rest)
        else
          let cur ← if bin == "=" then pure 0 else varValue vars strict n
          let r ← apply bin cur v
          return (r, (n, showNumber r) :: vars.filter (·.1 != n), rest)
      | none => conditional strict fuel vars ts skip
    | _ => conditional strict fuel vars ts skip

/-- Reads `a ? b : c`, or a binary expression. -/
def conditional (strict : Bool) : Nat → Vars → List Token → Bool → Result
  | 0, _, _, _ => .error (.expression "expecting primary")
  | fuel + 1, vars, ts, skip => do
    let (c, vars, rest) ← binary strict fuel 0 vars ts skip
    match rest with
    | .op "?" :: rest =>
      let (a, vars, rest) ← assignment strict fuel vars rest (skip || c == 0)
      match rest with
      | .op ":" :: rest =>
        let (b, vars, rest) ← conditional strict fuel vars rest (skip || c != 0)
        return (if c != 0 then a else b, vars, rest)
      | _ => throw (.expression "expecting ':'")
    | _ => return (c, vars, rest)

/-- Reads a binary expression of the given level and tighter ones. -/
def binary (strict : Bool) : Nat → Nat → Vars → List Token → Bool → Result
  | 0, _, _, _, _ => .error (.expression "expecting primary")
  | fuel + 1, level, vars, ts, skip =>
    if level < levels.length then do
      let (a, vars, rest) ← binary strict fuel (level + 1) vars ts skip
      binaryRest strict fuel level a vars rest skip
    else unary strict fuel vars ts skip

/-- Reads the operators of a level and their right operands after a left one. -/
def binaryRest (strict : Bool) : Nat → Nat → Int64 → Vars → List Token → Bool → Result
  | 0, _, _, _, _, _ => .error (.expression "expecting primary")
  | fuel + 1, level, a, vars, ts, skip =>
    match ts with
    | .op o :: rest =>
      if (levels.getD level []).contains o then do
        let skipRight := skip || (o = "||" && a != 0) || (o = "&&" && a == 0)
        let (b, vars, rest) ← binary strict fuel (level + 1) vars rest skipRight
        let r ← if skip then pure 0
          else if o = "||" && a != 0 then pure 1
          else if o = "&&" && a == 0 then pure 0
          else apply o a b
        binaryRest strict fuel level r vars rest skip
      else .ok (a, vars, ts)
    | _ => .ok (a, vars, ts)

/-- Reads a unary expression. -/
def unary (strict : Bool) : Nat → Vars → List Token → Bool → Result
  | 0, _, _, _ => .error (.expression "expecting primary")
  | fuel + 1, vars, ts, skip =>
    match ts with
    | .op "-" :: rest => (unary strict fuel vars rest skip).map fun (v, vs, r) => (-v, vs, r)
    | .op "+" :: rest => unary strict fuel vars rest skip
    | .op "!" :: rest => (unary strict fuel vars rest skip).map fun (v, vs, r) => (if v == 0 then 1 else 0, vs, r)
    | .op "~" :: rest => (unary strict fuel vars rest skip).map fun (v, vs, r) => (~~~v, vs, r)
    | .num n :: rest => .ok (n, vars, rest)
    | .name n :: rest =>
      if skip then .ok (0, vars, rest) else (varValue vars strict n).map fun v => (v, vars, rest)
    | .op "(" :: rest => do
      let (v, vars, rest) ← assignment strict fuel vars rest skip
      match rest with
      | .op ")" :: rest => return (v, vars, rest)
      | _ => throw (.expression "expecting ')'")
    | _ => .error (.expression "expecting primary")

end

/-- The message of a failure of an expression. -/
def Failure.message (text : String) : Failure → String
  | .expression why => "arithmetic expression: " ++ why ++ ": \"" ++ text ++ "\""
  | .illegalNumber v => "Illegal number: " ++ v
  | .unset n => n ++ ": parameter not set"
  | .trap => ""

/-- Computes an expression: its value and the variables after its assignments, or why it
does not compute. An empty expression is zero; `strict` under `set -u`. -/
def evaluate (text : String) (vars : Vars) (strict : Bool) : Except Failure (Int64 × Vars) :=
  match tokenize (text.length + 1) text.toList with
  | [] => .ok (0, vars)
  | ts =>
    match assignment strict (8 * ts.length + 64) vars ts false with
    | .error f => .error f
    | .ok (v, vars, []) => .ok (v, vars)
    | .ok _ => .error (.expression "expecting EOF")

example : (evaluate "1 + 2 * 3" [] false).toOption.map Prod.fst = some 7 := by decide +kernel
example : (evaluate "i += 2" [("i", "5")] false).toOption.map Prod.snd = some [("i", "7")] := by decide +kernel

end HelpMan.Shell.Arith
