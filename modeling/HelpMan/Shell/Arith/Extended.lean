import HelpMan.Shell.State

/-!
# Arithmetic of the `bash` dialect

`Extended.evaluate` computes an arithmetic expression as `bash` computes it for `$((...))`,
`$[...]`, `((...))`, `let` and the variables declared as integers: in 64-bit signed
integers that wrap, with the operators of C and some more.

* From the loosest: `,`; the assignments `=` `*=` `/=` `%=` `+=` `-=` `<<=` `>>=` `&=` `^=`
  `|=` (to the right); `?:`; `||`; `&&`; `|`; `^`; `&`; `==` `!=`; `<` `>` `<=` `>=`;
  `<<` `>>`; `+` `-`; `*` `/` `%`; `**` (to the right); the prefixes `!` `~` `-` `+`,
  which bind tighter than `**`, so that `-2**2` is `4`; and `++` and `--` before or after
  a variable.
* Numbers are decimal, octal after `0`, hexadecimal after `0x`, or `base#digits` in a base
  from 2 to 64 (digits, then lower case letters, upper case letters, `@` and `_`).
* A variable stands for the value of its text read as an expression itself, zero when it
  is unset or empty; `name[subscript]` stands for an element of an array.
* `&&`, `||` and `?:` compute only the operands they need.

A failure is worded as the shell words it: the expression, the message, and the text of
the expression from the token where the failure was found
(`1/0: division by 0 (error token is "0")`).
-/

namespace HelpMan.Shell.Arith.Extended

/-- A token of an expression. -/
inductive Tok where
  | num (n : Int64)
  /-- A variable, with the text of its subscript when it names an element of an array. -/
  | ident (name : String) (subscript : Option String)
  /-- An operator; `++` and `--` are `pre++`, `post++`, `pre--` and `post--`. -/
  | op (s : String)
  /-- A token that does not read: the message it gives when the reading reaches it. -/
  | bad (message : String)
  /-- A number that does not read, and how many characters of the expression follow it:
  its message names the expression up to the end of the number only. -/
  | badNumber (message : String) (after : Nat)
  deriving DecidableEq, Repr

/-- Whether a character is white space between tokens. -/
def isSpace (c : Char) : Bool := c = ' ' || c = '\t' || c = '\n' || c = '\r'

/-- The characters that are operators by themselves. -/
def isOpChar (c : Char) : Bool := "=><+-*/%&|^~!?:(),".toList.contains c

/-- The value of a digit in a base: digits, then lower case letters from 10, upper case
letters from 36 (from 10 in a base up to 36), `@` for 62 and `_` for 63. -/
def digitValue (base : Nat) (c : Char) : Option Nat :=
  if c.isDigit then some (c.toNat - 48)
  else if 'a' ≤ c && c ≤ 'z' then some (c.toNat - 'a'.toNat + 10)
  else if 'A' ≤ c && c ≤ 'Z' then some (c.toNat - 'A'.toNat + (if base ≤ 36 then 10 else 36))
  else if c = '@' then some 62
  else if c = '_' then some 63
  else none

/-- Reads the digits of a number in a base, with `#` after the digits of a base starting
the digits in that base; the value wraps to 64 bits. -/
def digitsValue : Nat → Nat → Bool → Nat → List Char → Except String Nat
  | 0, _, _, v, _ => .ok v
  | _ + 1, _, _, v, [] => .ok v
  | fuel + 1, base, found, v, c :: rest =>
    if c = '#' then
      if found then .error "invalid number"
      else if v < 2 || v > 64 then .error "invalid arithmetic base"
      else
        match rest with
        | d :: _ =>
          if d.isAlphanum || d = '@' || d = '_' then digitsValue fuel v true 0 rest
          else .error "invalid integer constant"
        | [] => .error "invalid integer constant"
    else
      match digitValue base c with
      | some d => if d ≥ base then .error "value too great for base" else digitsValue fuel base found ((v * base + d) % 18446744073709551616) rest
      | none => .ok v

/-- The value of the text of a number token. -/
def numberValue (cs : List Char) : Except String Int64 :=
  let (base, found, ds) : Nat × Bool × List Char := match cs with
    | '0' :: 'x' :: r | '0' :: 'X' :: r => (16, true, r)
    | '0' :: r => (8, true, r)
    | r => (10, false, r)
  (digitsValue (ds.length + 1) base found 0 ds).map fun v => Int64.ofNat v

/-- The length of a subscript after its `[`, up to the `]` that closes it. -/
def subscriptLength : Nat → List Char → Nat → Option Nat
  | 0, _, _ => none
  | _ + 1, [], _ => none
  | fuel + 1, c :: rest, depth =>
    if c = ']' then (if depth = 0 then some 0 else (subscriptLength fuel rest (depth - 1)).map (· + 1))
    else if c = '[' then (subscriptLength fuel rest (depth + 1)).map (· + 1)
    else (subscriptLength fuel rest depth).map (· + 1)

/-- The operator at the front of the text, if one is there. After a variable, `++` and
`--` come after it; otherwise they come before the variable that follows them, and are
two signs when none follows. -/
def operatorAt (afterName : Bool) (cs : List Char) : Option String :=
  match cs with
  | '*' :: '*' :: _ => some "**"
  | '=' :: '=' :: _ => some "=="
  | '!' :: '=' :: _ => some "!="
  | '<' :: '<' :: '=' :: _ => some "<<="
  | '>' :: '>' :: '=' :: _ => some ">>="
  | '<' :: '<' :: _ => some "<<"
  | '>' :: '>' :: _ => some ">>"
  | '<' :: '=' :: _ => some "<="
  | '>' :: '=' :: _ => some ">="
  | '&' :: '&' :: _ => some "&&"
  | '|' :: '|' :: _ => some "||"
  | c :: d :: rest =>
    if (c = '+' || c = '-') && d = c then
      if afterName then some ("post" ++ String.ofList [c, c])
      else
        match rest.dropWhile isSpace with
        | e :: _ => if e.isAlpha || e = '_' then some ("pre" ++ String.ofList [c, c]) else some c.toString
        | [] => some c.toString
    else if d = '=' && "*/%+-&^|".toList.contains c then some (String.ofList [c, '='])
    else if isOpChar c then some c.toString
    else none
  | [c] => if isOpChar c then some c.toString else none
  | [] => none

/-- The number of characters an operator takes in the text. -/
def Tok.width (o : String) : Nat := if o.startsWith "pre" || o.startsWith "post" then 2 else o.length

/-- Cuts an expression into tokens, each with the text of the expression from where it
starts; a token that does not read ends them. `prev` is the token before. -/
def tokensFrom : Nat → List Char → Option Tok → List (Tok × String)
  | 0, _, _ => []
  | fuel + 1, cs, prev =>
    match cs.dropWhile isSpace with
    | [] => []
    | c :: rest =>
      let cs := c :: rest
      let text := String.ofList cs
      let emit (t : Tok) (after : List Char) : List (Tok × String) := (t, text) :: tokensFrom fuel after (some t)
      if c.isDigit then
        let body := cs.takeWhile fun d => d.isAlphanum || d = '#' || d = '@' || d = '_'
        match numberValue body with
        | .ok n => emit (.num n) (cs.drop body.length)
        | .error m => [(.badNumber m (cs.length - body.length), String.ofList body)]
      else if c.isAlpha || c = '_' then
        let name := cs.takeWhile fun d => d.isAlphanum || d = '_'
        match cs.drop name.length with
        | '[' :: more =>
          match subscriptLength (more.length + 1) more 0 with
          | some n => emit (.ident (String.ofList name) (some (String.ofList (more.take n)))) (more.drop (n + 1))
          | none => [(.bad "bad array subscript", text)]
        | after => emit (.ident (String.ofList name) none) after
      else
        let afterName := match prev with
          | some (.ident ..) => true
          | _ => false
        match operatorAt afterName cs with
        | some o => emit (.op o) (cs.drop (Tok.width o))
        | none =>
          let operand := match prev with
            | some (.num _) | some (.ident ..) => false
            | _ => true
          [(.bad (if operand then "syntax error: operand expected" else "syntax error: invalid arithmetic operator"), text)]

/-- Why an expression does not compute. -/
inductive Failure where
  /-- A failure in an expression: the expression, the message, and the text from the
  token where it was found. -/
  | at (expression message token : String)
  /-- A variable that is not set, under `set -u`. -/
  | unbound (name : String)
  deriving DecidableEq, Repr

/-- The message of a failure; `command` is the command that computed the expression, if
it is named. -/
def Failure.message (command : Option String) : Failure → String
  | .at e m t => (command.map (· ++ ": ")).getD "" ++ e ++ ": " ++ m ++ " (error token is \"" ++ t ++ "\")"
  | .unbound n => n ++ ": unbound variable"

/-- The variables an expression reads and assigns: the shell's variables and arrays, and
whether an unset variable is a failure (`set -u`). -/
structure Store : Type where
  vars : List (String × String)
  arrays : List (String × ArrayValue)
  strict : Bool

/-- An assignment an expression made: the variable, the key of the element for an array,
and the value. -/
abbrev Assignment := String × Option String × String

/-- The value of a variable or of an element, if it is set; `key` is the number or text
of the element. -/
def Store.get? (st : Store) (name : String) (key : Option String) : Option String :=
  match (List.lookup name st.arrays : Option ArrayValue), key with
  | some a, some k => a.atKey? k
  | some a, none => a.atIndex? 0
  | none, some k => if k == "0" then List.lookup name st.vars else none
  | none, none => List.lookup name st.vars

/-- The store with a variable or an element set. -/
def Store.set (st : Store) (name : String) (key : Option String) (v : String) : Store :=
  match (List.lookup name st.arrays : Option ArrayValue), key with
  | some (.indexed items), k =>
    { st with arrays := setIn' st.arrays name (.indexed (ArrayValue.setIndex items ((k.bind String.toNat?).getD 0) v)) }
  | some (.assoc items), k => { st with arrays := setIn' st.arrays name (.assoc (ArrayValue.setKey items (k.getD "0") v)) }
  | none, none | none, some "0" => { st with vars := setIn st.vars name v }
  | none, some k =>
    let items := match List.lookup name st.vars with
      | some old => [(0, old)]
      | none => []
    { st with vars := st.vars.filter (·.1 != name),
              arrays := st.arrays ++ [(name, .indexed (ArrayValue.setIndex items (k.toNat?.getD 0) v))] }

/-- Where the reading of an expression stands. -/
structure Reading : Type where
  /-- The tokens not read yet. -/
  tokens : List (Tok × String)
  /-- The text from the last token read, which a failure at the end names. -/
  last : String
  /-- The variable read last, when nothing was computed with it since: the target of an
  assignment. -/
  target : Option (String × Option String)
  store : Store
  /-- The assignments made, in order. -/
  log : List Assignment

/-- The text that a failure at this point names: from the next token, or from the last
one at the end. -/
def Reading.errorToken (r : Reading) : String :=
  match r.tokens with
  | (_, t) :: _ => t
  | [] => r.last

/-- The next token, if any. -/
def Reading.peek (r : Reading) : Option Tok := r.tokens.head?.map Prod.fst

/-- The result of reading a part of an expression: its value and where the reading stands. -/
abbrev Result := Except Failure (Int64 × Reading)

/-- An expression without its last `after` characters. -/
def cutBefore (source : String) (after : Nat) : String := String.ofList (source.toList.take (source.length - after))

/-- A failure at this point of the reading of an expression. -/
def Reading.fail {α : Type} (r : Reading) (source message : String) : Except Failure α :=
  .error (.at source message r.errorToken)

/-- Reads past the next token; the token after it must read. -/
def Reading.advance (r : Reading) (source : String) : Except Failure Reading :=
  match r.tokens with
  | [] => .ok r
  | (t, text) :: rest =>
    let target := match t with
      | .ident n s => some (n, s)
      | _ => none
    let r := { r with tokens := rest, last := text, target := target }
    match rest with
    | (.bad m, _) :: _ => r.fail source m
    | (.badNumber m after, number) :: _ => .error (.at (cutBefore source after) m number)
    | _ => .ok r

/-- The text of a number. -/
def showNumber (n : Int64) : String := toString n.toInt

/-- `base` to the power `e`, by squaring, wrapping to 64 bits. -/
def power : Nat → Int64 → Int64 → Int64 → Int64
  | 0, _, _, acc => acc
  | fuel + 1, base, e, acc =>
    if e == 0 then acc
    else power fuel (base * base) (Int64.ofInt (e.toInt / 2)) (if e.toInt % 2 == 1 then acc * base else acc)

/-- The smallest number. -/
def minValue : Int64 := Int64.ofInt (-9223372036854775808)

/-- Applies a binary operator other than `/`, `%`, `&&` and `||`. -/
def apply (o : String) (a b : Int64) : Int64 :=
  let flag (p : Bool) : Int64 := if p then 1 else 0
  match o with
  | "*" => a * b
  | "+" => a + b
  | "-" => a - b
  | "<<" => Int64.ofInt (a.toInt * Int.pow 2 (b.toInt % 64).toNat)
  | ">>" => Int64.ofInt (a.toInt / Int.pow 2 (b.toInt % 64).toNat)
  | "<" => flag (a.toInt < b.toInt)
  | "<=" => flag (a.toInt ≤ b.toInt)
  | ">" => flag (a.toInt > b.toInt)
  | ">=" => flag (a.toInt ≥ b.toInt)
  | "==" => flag (a == b)
  | "!=" => flag (a != b)
  | "&" => a &&& b
  | "^" => a ^^^ b
  | "|" => a ||| b
  | _ => b

/-- Divides as the shell does: the smallest number by `-1` gives itself, and its
remainder zero. -/
def divide (o : String) (a b : Int64) : Int64 :=
  if a == minValue && b == -1 then (if o == "/" then minValue else 0)
  else if o == "/" then a / b else a % b

/-- The binary operators by level, from the loosest. -/
def levels : List (List String) :=
  [["||"], ["&&"], ["|"], ["^"], ["&"], ["==", "!="], ["<", ">", "<=", ">="], ["<<", ">>"], ["+", "-"],
   ["*", "/", "%"]]

/-- The assignment operators with the operator each applies. -/
def assignOps : List (String × String) :=
  [("=", "="), ("*=", "*"), ("/=", "/"), ("%=", "%"), ("+=", "+"), ("-=", "-"), ("<<=", "<<"), (">>=", ">>"),
   ("&=", "&"), ("^=", "^"), ("|=", "|")]

/-- The deepest that variables may hold expressions that name variables. -/
def maxDepth : Nat := 1024

mutual

/-- Computes the text of a variable's value as an expression, as deep as `depth`. -/
def evalText : Nat → Nat → String → Store → List Assignment → Except Failure (Int64 × Store × List Assignment)
  | 0, _, _, st, log => .ok (0, st, log)
  | fuel + 1, depth, text, st, log =>
    let source := String.ofList (text.toList.dropWhile isSpace)
    match tokensFrom (text.length + 1) text.toList none with
    | [] => .ok (0, st, log)
    | ts@((t, tt) :: _) =>
      let r : Reading := ⟨ts, tt, none, st, log⟩
      match t with
      | .bad m => .error (.at source m tt)
      | .badNumber m after => .error (.at (cutBefore source after) m tt)
      | _ =>
        if depth ≥ maxDepth then .error (.at source "expression recursion level exceeded" tt)
        else do
          let (v, r) ← comma fuel depth source false r
          match r.tokens with
          | [] => .ok (v, r.store, r.log)
          | _ => r.fail source "syntax error in expression"
termination_by structural fuel => fuel

/-- Reads expressions joined by `,`; the value is the last one's. -/
def comma : Nat → Nat → String → Bool → Reading → Result
  | 0, _, _, _, r => .ok (0, r)
  | fuel + 1, depth, source, skip, r => do
    let (v, r) ← assign fuel depth source skip r
    match r.peek with
    | some (.op ",") =>
      let r ← r.advance source
      comma fuel depth source skip r
    | _ => .ok (v, r)
termination_by structural fuel => fuel

/-- Reads an assignment, whose target must be the variable read last, or a conditional
expression. -/
def assign : Nat → Nat → String → Bool → Reading → Result
  | 0, _, _, _, r => .ok (0, r)
  | fuel + 1, depth, source, skip, r => do
    let (v, r) ← conditional fuel depth source skip r
    match r.peek with
    | some (.op o) =>
      match assignOps.lookup o with
      | none => .ok (v, r)
      | some bin =>
        match r.target with
        | none => r.fail source "attempted assignment to non-variable"
        | some (name, sub) =>
          let r ← r.advance source
          let (rhs, r) ← assign fuel depth source skip r
          let value ←
            if bin == "=" then pure rhs
            else if bin == "/" || bin == "%" then
              if rhs == 0 then (if skip then pure (divide bin v 1) else r.fail source "division by 0")
              else pure (divide bin v rhs)
            else pure (apply bin v rhs)
          if skip then return (value, { r with target := none })
          else
            let (key, r) ← subscriptKey fuel depth source name sub r
            return (value, { r with target := none, store := r.store.set name key (showNumber value),
                                    log := r.log ++ [(name, key, showNumber value)] })
    | _ => .ok (v, r)
termination_by structural fuel => fuel

/-- Reads `a ? b : c`, or a binary expression. -/
def conditional : Nat → Nat → String → Bool → Reading → Result
  | 0, _, _, _, r => .ok (0, r)
  | fuel + 1, depth, source, skip, r => do
    let (c, r) ← binary fuel depth source 0 skip r
    match r.peek with
    | some (.op "?") =>
      let r ← r.advance source
      match r.peek with
      | none | some (.op ":") => r.fail source "expression expected"
      | _ =>
        let (a, r) ← comma fuel depth source (skip || c == 0) r
        match r.peek with
        | some (.op ":") =>
          let r ← r.advance source
          if r.tokens.isEmpty then r.fail source "expression expected"
          else
            let (b, r) ← conditional fuel depth source (skip || c != 0) r
            return (if c != 0 then a else b, { r with target := none })
        | _ => r.fail source "`:' expected for conditional expression"
    | _ => .ok (c, r)
termination_by structural fuel => fuel

/-- Reads a binary expression of a level and the tighter ones. -/
def binary : Nat → Nat → String → Nat → Bool → Reading → Result
  | 0, _, _, _, _, r => .ok (0, r)
  | fuel + 1, depth, source, level, skip, r =>
    if level < levels.length then do
      let (a, r) ← binary fuel depth source (level + 1) skip r
      binaryRest fuel depth source level a skip r
    else exponent fuel depth source skip r
termination_by structural fuel => fuel

/-- Reads the operators of a level and their right operands after a left one. -/
def binaryRest : Nat → Nat → String → Nat → Int64 → Bool → Reading → Result
  | 0, _, _, _, a, _, r => .ok (a, r)
  | fuel + 1, depth, source, level, a, skip, r =>
    match r.peek with
    | some (.op o) =>
      if (levels.getD level []).contains o then do
        let r ← r.advance source
        let after := r.errorToken
        let skipRight := skip || (o = "||" && a != 0) || (o = "&&" && a == 0)
        let (b, r) ← binary fuel depth source (level + 1) skipRight r
        let v ←
          if o = "||" then pure (if a != 0 || b != 0 then (1 : Int64) else 0)
          else if o = "&&" then pure (if a != 0 && b != 0 then (1 : Int64) else 0)
          else if o = "/" || o = "%" then
            if b == 0 then (if skip then pure (divide o a 1) else .error (.at source "division by 0" after))
            else pure (divide o a b)
          else pure (apply o a b)
        binaryRest fuel depth source level v skip { r with target := none }
      else .ok (a, r)
    | _ => .ok (a, r)
termination_by structural fuel => fuel

/-- Reads `a ** b`, which groups to the right; a zero exponent gives 1 at once. -/
def exponent : Nat → Nat → String → Bool → Reading → Result
  | 0, _, _, _, r => .ok (0, r)
  | fuel + 1, depth, source, skip, r => do
    let (a, r) ← prefixed fuel depth source skip r
    match r.peek with
    | some (.op "**") =>
      let r ← r.advance source
      let (b, r) ← exponent fuel depth source skip r
      if b == 0 then return (1, { r with target := none })
      else if b.toInt < 0 then r.fail source "exponent less than 0"
      else return (power 64 a b 1, { r with target := none })
    | _ => .ok (a, r)
termination_by structural fuel => fuel

/-- Reads a prefix `!`, `~`, `-` or `+` and what it applies to, or an operand. -/
def prefixed : Nat → Nat → String → Bool → Reading → Result
  | 0, _, _, _, r => .ok (0, r)
  | fuel + 1, depth, source, skip, r =>
    match r.peek with
    | some (.op "!") | some (.op "~") | some (.op "-") | some (.op "+") => do
      let o := match r.peek with
        | some (.op o) => o
        | _ => ""
      let r ← r.advance source
      let (v, r) ← prefixed fuel depth source skip r
      let v : Int64 := if o = "!" then (if v == 0 then 1 else 0) else if o = "~" then ~~~v else if o = "-" then -v else v
      return (v, { r with target := none })
    | _ => operand fuel depth source skip r
termination_by structural fuel => fuel

/-- Reads an operand: a number, a variable (with `++` or `--` after it), `++` or `--`
and a variable, or an expression in brackets. -/
def operand : Nat → Nat → String → Bool → Reading → Result
  | 0, _, _, _, r => .ok (0, r)
  | fuel + 1, depth, source, skip, r =>
    match r.peek with
    | some (.num n) => do
      let r ← r.advance source
      return (n, { r with target := none })
    | some (.op "(") => do
      let r ← r.advance source
      let (v, r) ← comma fuel depth source skip r
      match r.peek with
      | some (.op ")") =>
        let r ← r.advance source
        return (v, { r with target := none })
      | _ => r.fail source "missing `)'"
    | some (.op "pre++") | some (.op "pre--") => do
      let up := r.peek == some (.op "pre++")
      let r ← r.advance source
      match r.peek with
      | some (.ident name sub) =>
        let (v, r) ← valueOf fuel depth source skip name sub r
        let v' := if up then v + 1 else v - 1
        let r ← r.advance source
        if skip then return (v', { r with target := none })
        else
          let (key, r) ← subscriptKey fuel depth source name sub r
          return (v', { r with target := none, store := r.store.set name key (showNumber v'),
                               log := r.log ++ [(name, key, showNumber v')] })
      | _ => r.fail source "identifier expected after pre-increment or pre-decrement"
    | some (.ident name sub) => do
      let r ← r.advance source
      -- a variable about to be assigned with `=` is not read
      let (v, r) ← if r.peek == some (.op "=") then pure (0, r) else valueOf fuel depth source skip name sub r
      match r.peek with
      | some (.op "post++") | some (.op "post--") =>
        let v' := if r.peek == some (.op "post++") then v + 1 else v - 1
        let r ← r.advance source
        if skip then return (v, { r with target := none })
        else
          let (key, r) ← subscriptKey fuel depth source name sub r
          return (v, { r with target := none, store := r.store.set name key (showNumber v'),
                              log := r.log ++ [(name, key, showNumber v')] })
      | _ => return (v, { r with target := some (name, sub) })
    | _ => r.fail source "syntax error: operand expected"
termination_by structural fuel => fuel

/-- The value of a variable or an element, read as an expression; zero when skipping. -/
def valueOf : Nat → Nat → String → Bool → String → Option String → Reading → Result
  | 0, _, _, _, _, _, r => .ok (0, r)
  | fuel + 1, depth, source, skip, name, sub, r =>
    if skip then .ok (0, r)
    else do
      let (key, r) ← subscriptKey fuel depth source name sub r
      match r.store.get? name key with
      | none => if r.store.strict then .error (.unbound name) else .ok (0, r)
      | some text =>
        -- a value that is one level too deep fails where it is read, by the text around it
        if depth + 1 ≥ maxDepth && text.any (!isSpace ·) then
          .error (.at (String.ofList (source.toList.dropWhile isSpace)) "expression recursion level exceeded" r.last)
        else
        let (v, st, log) ← evalText fuel (depth + 1) text r.store r.log
        return (v, { r with store := st, log := log })
termination_by structural fuel => fuel

/-- The key of an element that a subscript names: its text for an associative array, and
otherwise the number its expression computes, counted from the end when negative. -/
def subscriptKey : Nat → Nat → String → String → Option String → Reading → Except Failure (Option String × Reading)
  | 0, _, _, _, _, r => .ok (none, r)
  | fuel + 1, depth, _, name, sub, r =>
    match sub with
    | none => .ok (none, r)
    | some text =>
      match List.lookup name r.store.arrays with
      | some (.assoc _) => .ok (some text, r)
      | a => do
        let (i, st, log) ← evalText fuel (depth + 1) text r.store r.log
        let r := { r with store := st, log := log }
        let size := match a with
          | some (.indexed items) => ((items.getLast?.map (·.1 + 1)).getD 0 : Nat)
          | _ => if (List.lookup name r.store.vars).isSome then 1 else 0
        let k : Int := if i.toInt < 0 then size + i.toInt else i.toInt
        if k < 0 then .error (.at (name ++ "[" ++ text ++ "]") "bad array subscript" (name ++ "[" ++ text ++ "]"))
        else return (some (toString k.toNat), r)
termination_by structural fuel => fuel

end

/-- Computes an expression: its value, the variables after it, and the assignments it made
in order, or why it does not compute. An empty expression is zero. The steps given let
values that name variables go down `maxDepth` levels, each level a few dozen steps. -/
def evaluate (text : String) (st : Store) : Except Failure (Int64 × Store × List Assignment) :=
  evalText (64 * text.length + 64 * maxDepth + 4096) 0 text st []

example : ((evaluate "-2**2 + 2#101 + 16#ff" ⟨[], [], false⟩).toOption.map (·.1)) = some 264 := by decide +kernel
example : (evaluate "1/0" ⟨[], [], false⟩ matches .error (.at "1/0" "division by 0" "0")) := by decide +kernel

end HelpMan.Shell.Arith.Extended
