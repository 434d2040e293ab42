import HelpMan.Shell.State
import HelpMan.Shell.Arith.Extended
import HelpMan.Shell.Parameter

/-!
# Variables of the `bash` dialect

In the `bash` dialect a variable may be an array, indexed by numbers or associative, and
may carry attributes that `declare` gives it: `i` makes every value assigned to it an
arithmetic expression that is computed, `l` and `u` turn values to lower or upper case.

* `Session.setElement` sets a variable or one of its elements; a variable that is not an
  array becomes one when an element other than `0` is set.
* `Session.assignTo` makes an assignment `name=value`, `name+=value`, `name[key]=value` or
  `name=(items)` with its attributes, or gives the message of one that may not be made.
* `Session.declaration` writes a variable as `declare -p` does, so that the shell reads it
  back.
-/

namespace HelpMan.Shell

/-- What an assignment of the `bash` dialect gives: a text, or the items of a list `(...)`,
each with the expanded key of `[key]=` when it has one. -/
inductive AssignValue where
  | text (s : String)
  | items (vs : List (Option String × String))
  deriving DecidableEq, Repr

/-- The target of an assignment: the name, the expanded subscript of an element, and
whether it appends (`+=`). -/
structure Target where
  name : String
  key : Option String
  append : Bool
  deriving DecidableEq, Repr

/-- Reads the target of an assignment as the parser keeps it: `name`, `name[subscript]`,
and either with `+` after it to append. -/
def Target.parse (t : String) : String × Option String × Bool :=
  let (t, append) := if t.endsWith "+" then ((t.dropEnd 1).toString, true) else (t, false)
  match t.splitOn "[" with
  | [name] => (name, none, append)
  | name :: rest =>
    let sub := "[".intercalate rest
    (name, some (if sub.endsWith "]" then (sub.dropEnd 1).toString else sub), append)
  | [] => (t, none, append)

namespace Session

/-- Whether the shell reads the `bash` dialect. -/
def isBash (sh : Session) : Bool := sh.dialect == .bash

/-- Whether patterns are read with their extended forms (`shopt -s extglob`). -/
def extglob (sh : Session) : Bool := sh.isBash && sh.shopts.contains "extglob"

/-- The shell as a subshell starts: in the `bash` dialect `BASH_SUBSHELL` counts one
more. -/
def enterSubshell (sh : Session) : Session :=
  if sh.isBash then sh.setVar "BASH_SUBSHELL" (toString ((sh.var "BASH_SUBSHELL").toNat?.getD 0 + 1)) else sh

/-- The start of a line that `set -x` writes, from the expanded `PS4`: in the `bash`
dialect its first character once more for each text of `eval`, `source` or a command
substitution the command runs inside. -/
def traceLead (sh : Session) (ps4 : String) : String :=
  match ps4.toList with
  | c :: _ => if sh.isBash then String.ofList (List.replicate sh.traceDepth c) ++ ps4 else ps4
  | [] => ps4

/-- The attribute letters of a variable. -/
def attrs (sh : Session) (n : String) : List Char := (List.lookup n sh.attributes).getD []

/-- The shell with attribute letters of a variable added (`on`) or removed. -/
def setAttrs (sh : Session) (n : String) (cs : List Char) (on : Bool) : Session :=
  let now := sh.attrs n
  let next := if on then now ++ cs.filter (!now.contains ·) else now.filter (!cs.contains ·)
  { sh with attributes := setIn' sh.attributes n next }

/-- The variables that arithmetic sees: the shell's, and in the `bash` dialect the line
number when no variable takes its name. -/
def arithStore (sh : Session) : Arith.Extended.Store :=
  let vars := if (sh.lookupVar "LINENO").isSome || sh.dialect != .bash then sh.vars
    else ("LINENO", toString (sh.lineNumber sh.line)) :: sh.vars
  ⟨vars, sh.arrays, sh.isOn "nounset"⟩

/-- The shell with a variable or an element set: an associative array takes the key as
it is, an indexed array the number, and a variable that is not an array becomes an
indexed one, its value as element `0`, when another element is set. -/
def setElement (sh : Session) (name : String) (key : Option String) (v : String) : Session :=
  match key with
  | none => sh.setVar name v
  | some k =>
    match List.lookup name sh.arrays with
    | some (.assoc items) => { sh with arrays := setIn' sh.arrays name (.assoc (ArrayValue.setKey items k v)) }
    | some (.indexed items) =>
      { sh with arrays := setIn' sh.arrays name (.indexed (ArrayValue.setIndex items (k.toNat?.getD 0) v)) }
    | none =>
      if k == "0" then sh.setVar name v
      else
        let items := match List.lookup name sh.vars with
          | some old => [(0, old)]
          | none => []
        { sh with vars := sh.vars.filter (·.1 != name),
                  arrays := sh.arrays ++ [(name, .indexed (ArrayValue.setIndex items (k.toNat?.getD 0) v))] }

/-- The shell after the assignments an arithmetic expression made. -/
def afterAssignments (sh : Session) (log : List Arith.Extended.Assignment) : Session :=
  log.foldl (fun sh (n, k, v) => if n == "LINENO" && k.isNone then sh else sh.setElement n k v) sh

/-- Computes an arithmetic expression with the shell's variables: the value and the shell
after its assignments. -/
def evalArith (sh : Session) (text : String) : Except Arith.Extended.Failure (Int64 × Session) :=
  (Arith.Extended.evaluate text sh.arithStore).map fun (v, _, log) => (v, sh.afterAssignments log)

/-- The number of the element that a subscript names in an indexed array: its expression
computed, counted from the end when negative; below zero when it is before the first. -/
def elementIndex (sh : Session) (name key : String) : Except String (Int × Session) :=
  match sh.evalArith key with
  | .error f => .error (f.message none)
  | .ok (i, sh) =>
    let size : Nat := match List.lookup name sh.arrays with
      | some (.indexed items) => (items.getLast?.map (·.1 + 1)).getD 0
      | _ => if (List.lookup name sh.vars).isSome then 1 else 0
    .ok (if i.toInt < 0 then size + i.toInt else i.toInt, sh)

/-- The number of the element that a subscript names in an indexed array, as
`elementIndex` counts it; one before the first element is a bad subscript. -/
def indexOf (sh : Session) (name key : String) : Except String (Nat × Session) :=
  match sh.elementIndex name key with
  | .error m => .error m
  | .ok (k, sh) => if k < 0 then .error (name ++ "[" ++ key ++ "]: bad array subscript") else .ok (k.toNat, sh)

/-- A value as a variable's attributes make it: computed for `i` (added to the old value
when appending), in lower or upper case for `l` and `u`. -/
def shapeValue (sh : Session) (name : String) (old : Option String) (append : Bool) (v : String) :
    Except String (String × Session) :=
  let attrs := sh.attrs name
  if attrs.contains 'i' then
    let text := if append then "(" ++ (old.getD "0") ++ ")+(" ++ v ++ ")" else v
    match sh.evalArith text with
    | .ok (n, sh) => .ok (Arith.Extended.showNumber n, sh)
    | .error f => .error (f.message none)
  else
    let v := if append then old.getD "" ++ v else v
    let v := if attrs.contains 'l' then v.map Char.toLower else if attrs.contains 'u' then v.map Char.toUpper else v
    .ok (v, sh)

/-- Makes an assignment, or gives the message of one that may not be made. -/
def assignTo (sh : Session) (t : Target) (value : AssignValue) : Except String Session :=
  let t := { t with name := sh.refTarget t.name }
  if sh.readonly.contains t.name then .error (t.name ++ ": readonly variable")
  else
    match value with
    | .text v =>
      match t.key with
      | none => do
        let (v, sh) ← sh.shapeValue t.name (sh.lookupVar t.name) t.append v
        return sh.setVar t.name v
      | some k =>
        match List.lookup t.name sh.arrays with
        | some (.assoc items) => do
          let (v, sh) ← sh.shapeValue t.name (List.lookup k items) t.append v
          return sh.setElement t.name (some k) v
        | a => do
          let (i, sh) ← sh.indexOf t.name k
          let old := match a with
            | some arr => arr.atIndex? i
            | none => if i = 0 then List.lookup t.name sh.vars else none
          let (v, sh) ← sh.shapeValue t.name old t.append v
          return sh.setElement t.name (some (toString i)) v
    | .items vs =>
      let assoc := (sh.attrs t.name).contains 'A' || ((List.lookup t.name sh.arrays).map ArrayValue.isAssoc).getD false
      if assoc then
        let start : List (String × String) := if t.append then
            match List.lookup t.name sh.arrays with
            | some (.assoc items) => items
            | _ => []
          else []
        let items := vs.foldl (fun acc (k, v) => match k with
          | some k => ArrayValue.setKey acc k v
          | none => acc) start
        .ok { sh with vars := sh.vars.filter (·.1 != t.name), arrays := setIn' sh.arrays t.name (.assoc items),
                      valueless := sh.valueless.erase t.name }
      else do
        let start : List (Nat × String) := if t.append then
            match List.lookup t.name sh.arrays, List.lookup t.name sh.vars with
            | some (.indexed items), _ => items
            | none, some v => [(0, v)]
            | _, _ => []
          else []
        let next := (start.getLast?.map (·.1 + 1)).getD 0
        let step : Except String (Session × List (Nat × String) × Nat) → Option String × String →
            Except String (Session × List (Nat × String) × Nat) := fun acc (k, v) => do
          let (sh, items, i) ← acc
          match k with
          | some key =>
            let (j, sh) ← sh.indexOf t.name key
            let (v, sh) ← sh.shapeValue t.name none false v
            return (sh, ArrayValue.setIndex items j v, j + 1)
          | none =>
            let (v, sh) ← sh.shapeValue t.name none false v
            return (sh, ArrayValue.setIndex items i v, i + 1)
        let (sh, items, _) ← vs.foldl step (.ok (sh, start, next))
        return { sh with vars := sh.vars.filter (·.1 != t.name), arrays := setIn' sh.arrays t.name (.indexed items),
                         valueless := sh.valueless.erase t.name }

/-- The shell without a variable, array or not. -/
def dropVar (sh : Session) (n : String) : Session :=
  { sh with vars := sh.vars.filter (·.1 != n), arrays := sh.arrays.filter (·.1 != n), valueless := sh.valueless.erase n,
            exported := sh.exported.filter (· != n), attributes := sh.attributes.filter (·.1 != n) }

/-- The attribute letters of a variable as `declare -p` writes them, in its order. -/
def flagsOf (sh : Session) (n : String) : String :=
  let a := List.lookup n sh.arrays
  let attrs := sh.attrs n
  let has (c : Char) : Bool := attrs.contains c
  String.ofList (
    (if (a.map (!·.isAssoc)).getD (has 'a') then ['a'] else []) ++
    (if (a.map ArrayValue.isAssoc).getD (has 'A') then ['A'] else []) ++
    (if has 'i' then ['i'] else []) ++
    (if has 'n' then ['n'] else []) ++
    (if sh.readonly.contains n then ['r'] else []) ++
    (if sh.exported.contains n then ['x'] else []) ++
    (if has 'l' then ['l'] else []) ++
    (if has 'u' then ['u'] else []))

/-- A key of an associative array as `declare -p` writes it: as it is when it needs no
quotes, in double quotes otherwise. -/
def keyText (k : String) : String :=
  if !k.isEmpty && k.all (fun c => c.isAlphanum || c = '_' || c = '-' || c = '.') then k else quoteDouble k

/-- The line of `declare -p` for a variable, if it is known. -/
def declaration (sh : Session) (n : String) : Option String :=
  let flags := sh.flagsOf n
  let lead := "declare -" ++ (if flags.isEmpty then "-" else flags) ++ " " ++ n
  match List.lookup n sh.arrays with
  | some (.indexed []) | some (.assoc []) => some (if sh.valueless.contains n then lead else lead ++ "=()")
  | some (.indexed items) =>
    some (lead ++ "=(" ++ " ".intercalate (items.map fun (k, v) => "[" ++ toString k ++ "]=" ++ quoteDouble v) ++ ")")
  | some (.assoc items) =>
    let entries := (ArrayValue.assoc items).entries
    some (lead ++ "=(" ++ String.join (entries.map fun (k, v) => "[" ++ keyText k ++ "]=" ++ quoteDouble v ++ " ") ++ ")")
  | none =>
    match List.lookup n sh.vars with
    | some v => some (lead ++ "=" ++ quoteDouble v)
    | none =>
      -- a variable declared without a value has none to show, an array as much as another
      if sh.attributes.any (·.1 == n) || sh.readonly.contains n || sh.exported.contains n then some lead
      else none

end Session

end HelpMan.Shell
