import HelpMan.Settings.Basic
import HelpMan.Text.Quoted
import HelpMan.Text.Utf8
import HelpMan.Yaml.Read

/-!
# Settings from YAML

`Settings.ofYaml` reads settings from the first document of a YAML text. The document is
a mapping with the keys `log_level`, `version`, `title` (texts), `environment` (a list of
mappings with `name` and `description`) and `also` (a list of texts); other keys are
ignored. The rules, as a node is decoded into what its place wants:

* a scalar gives its text as written; a null leaves a text unset and empties a list, and
  a scalar whose tag asks for a kind its text is not stops the decoding;
* a sequence gives a list, each item decoded on its own and dropped if it does not fit;
* a mapping gives an environment entry or the settings, field by field; a key given twice
  in one mapping, or a field set twice, is an error and the mapping is skipped;
* a `<<` key merges the mappings it names into the record, below its own keys;
* an alias decodes as the node it refers to, which must not contain that alias; a
  document whose decoding comes too much from aliases stops (`tooMuchAliasing`).

A node that does not fit its place (a list where a text is wanted, …) is an error that
names its line, its tag and the place, and decoding goes on; all such errors are
reported together at the end.
-/

namespace HelpMan.Settings

open Yaml Page

/-- What a node is decoded into. -/
inductive Target where
  | text
  | texts
  | entry
  | entries
  | settings
  deriving DecidableEq, Repr

/-- The name of a place in messages. -/
def Target.typeName : Target → String
  | .text => "string"
  | .texts => "[]string"
  | .entry => "models.EnvVar"
  | .entries => "[]models.EnvVar"
  | .settings => "models.Config"

/-- The keys of a record's fields, with what each wants. -/
def Target.fields : Target → List (String × Target)
  | .entry => [("name", .text), ("description", .text)]
  | .settings =>
    [("log_level", .text), ("version", .text), ("title", .text), ("environment", .entries), ("also", .texts)]
  | _ => []

/-- A decoded value. -/
inductive Value where
  | text (s : String)
  | texts (xs : List String)
  | entry (e : EnvVar)
  | entries (es : List EnvVar)
  | settings (s : Settings)
  deriving Repr

namespace Value

/-- The value of a record's field. -/
def field (v : Value) (key : String) : Value :=
  match v, key with
  | .entry e, "name" => .text e.name
  | .entry e, "description" => .text e.description
  | .settings s, "log_level" => .text s.logLevel
  | .settings s, "version" => .text s.version
  | .settings s, "title" => .text s.title
  | .settings s, "environment" => .entries s.environment
  | .settings s, "also" => .texts s.also
  | _, _ => .text ""

/-- A record with one field replaced. -/
def setField (v : Value) (key : String) (x : Value) : Value :=
  match v, key, x with
  | .entry e, "name", .text t => .entry { e with name := t }
  | .entry e, "description", .text t => .entry { e with description := t }
  | .settings s, "log_level", .text t => .settings { s with logLevel := t }
  | .settings s, "version", .text t => .settings { s with version := t }
  | .settings s, "title", .text t => .settings { s with title := t }
  | .settings s, "environment", .entries es => .settings { s with environment := es }
  | .settings s, "also", .texts xs => .settings { s with also := xs }
  | v, _, _ => v

end Value

/-- What decoding keeps: the errors so far, the aliases being expanded, the keys a
merge must not set again, and how many nodes were decoded, in all and inside aliases. -/
structure Decoding where
  errors : List String
  expanding : List Nat
  merged : Option (List String)
  steps : Nat
  aliasSteps : Nat

/-- Why decoding stops early: an error it reports, or a runtime fault that stops the
program. -/
inductive Stop where
  | reported (message : String)
  | fault (message : String)
  deriving Repr

/-- Decoding: its state, and a way to stop. -/
abbrev Decode := StateT Decoding (Except Stop)

/-- The share of decoded nodes that may come from expanding aliases after `steps` nodes:
99% up to 400000 nodes, 10% from 4000000 on, and falling evenly between. -/
def allowedAliasShare (steps : Nat) : Float :=
  if steps ≤ 400000 then 0.99
  else if steps ≥ 4000000 then 0.10
  else 0.99 - 0.89 * ((steps - 400000).toFloat / 3600000.0)

/-- Whether a document expands aliases too much: more than 100 of its more than 1000
decoded nodes came from aliases, and more than the allowed share. -/
def tooMuchAliasing (steps aliasSteps : Nat) : Bool :=
  aliasSteps > 100 && steps > 1000 && aliasSteps.toFloat / steps.toFloat > allowedAliasShare steps

/-- Counts one decoded node, as coming from an alias when one is being expanded, and stops
a document whose aliases expand too much. -/
def step : Decode Unit := do
  let d ← get
  let d := { d with steps := d.steps + 1, aliasSteps := d.aliasSteps + (if d.expanding.isEmpty then 0 else 1) }
  set d
  if tooMuchAliasing d.steps d.aliasSteps then throw (.reported "document contains excessive aliasing")

/-- Records an error and goes on. -/
def note (msg : String) : Decode Unit := modify fun d => { d with errors := d.errors ++ [msg] }

/-- A text cut for a message: more than 10 bytes become the first 7 and `...`. -/
def clip (value : String) : String :=
  let bytes := value.toUTF8.toList
  if bytes.length > 10 then String.ofList (Text.decodeLossy (bytes.take 7)) ++ "..." else value

/-- Records that a node does not fit its place. -/
def mismatch (n : Node) (t : Target) : Decode Unit :=
  let (tag, value) := match n with
    | .scalar v tag _ => (tag, v)
    | .sequence _ tag _ => (tag, "")
    | .mapping _ tag _ => (tag, "")
    | .aliasRef .. => ("", "")
  let shown := if tag == "!!seq" || tag == "!!map" then "" else " `" ++ clip value ++ "`"
  note ("line " ++ toString n.line ++ ": cannot unmarshal " ++ tag ++ shown ++ " into " ++ t.typeName)

/-- The errors of keys given twice in a mapping: each later key against each earlier. -/
def duplicateKeys : List Node → List String
  | [] => []
  | k :: rest =>
    (rest.filter k.sameKey).map (fun d => "line " ++ toString d.line ++ ": mapping key " ++
      Text.quote d.keyText ++ " already defined at line " ++ toString k.line) ++ duplicateKeys rest

/-! ## Base64 -/

/-- The value of a base64 digit. -/
def base64Digit (c : Char) : Option Nat :=
  if 'A' ≤ c && c ≤ 'Z' then some (c.toNat - 65)
  else if 'a' ≤ c && c ≤ 'z' then some (c.toNat - 71)
  else if c.isDigit then some (c.toNat + 4)
  else if c = '+' then some 62
  else if c = '/' then some 63
  else none

/-- Decodes groups of four base64 characters, the last padded with `=`. -/
def base64Groups : List Char → Option (List UInt8)
  | [] => some []
  | [a, b, '=', '='] => do
    let v := (← base64Digit a) * 64 + (← base64Digit b)
    some [(v / 16).toUInt8]
  | [a, b, c, '='] => do
    let v := ((← base64Digit a) * 64 + (← base64Digit b)) * 64 + (← base64Digit c)
    some [(v / 1024).toUInt8, (v / 4 % 256).toUInt8]
  | a :: b :: c :: d :: rest => do
    let v := (((← base64Digit a) * 64 + (← base64Digit b)) * 64 + (← base64Digit c)) * 64 + (← base64Digit d)
    let tail ← base64Groups rest
    some ((v / 65536).toUInt8 :: (v / 256 % 256).toUInt8 :: (v % 256).toUInt8 :: tail)
  | _ => none

/-- Decodes base64 text; line breaks are ignored. -/
def base64Decode (s : String) : Option String :=
  (base64Groups (s.toList.filter fun c => c ≠ '\n' && c ≠ '\r')).map fun bs => String.ofList (Text.decodeLossy bs)

/-! ## Scalars -/

/-- The text of a scalar with tag `tag`: `none` for a null, or the message of a text
that cannot be read as its tag. A `!!binary` scalar gives its decoded bytes. -/
def scalarText (value tag : String) : Except String (Option String) :=
  if tag == "!!str" then .ok (some value)
  else if tag == "!!binary" then
    match base64Decode value with
    | some s => .ok (some s)
    | none => .error "!!binary value contains invalid base64 data"
  else
    match readAs tag value with
    | .error m => .error m
    | .ok got => .ok (if isCheckedTag tag && got == "!!null" then none else some value)

/-- Lifts a result of reading a scalar. -/
def liftRead (r : Except String α) : Decode α :=
  match r with
  | .ok a => pure a
  | .error m => throw (.reported m)

/-- The text that a key reads as when it is a string: scalars whose tag is not a null,
boolean, number or timestamp. -/
def keyString (value tag : String) : Except String (Option String) := do
  let t ← scalarText value tag
  if tag == "!!str" || tag == "!!binary" then return t
  let got ← readAs tag value
  if isCheckedTag tag && ["!!null", "!!bool", "!!int", "!!float", "!!timestamp"].contains got then
    return none
  return t

/-- Whether the node in a slot is a mapping. -/
def isMappingAt (doc : Document) (slot : Nat) : Bool :=
  match doc.anchored[slot]? with
  | some (.mapping ..) => true
  | _ => false

/-- The node in a slot. -/
def slotNode (doc : Document) (slot : Nat) : Node := doc.anchored[slot]?.getD default

/-- The message of a merge of something other than mappings. -/
def wantMap : String := "map merge requires map or sequence of maps as the value"

/-- Whether a key merges mappings into its record. -/
def isMergeKey : Node → Bool
  | .scalar "<<" tag _ => tag == "!!merge"
  | _ => false

/-- The tag of a node in short form; an alias has the tag of the node it refers to. -/
def tagOf (doc : Document) : Node → String
  | .scalar _ tag _ => tag
  | .sequence _ tag _ => tag
  | .mapping _ tag _ => tag
  | .aliasRef _ slot _ _ =>
    match slotNode doc slot with
    | .scalar _ tag _ => tag
    | .sequence _ tag _ => tag
    | .mapping _ tag _ => tag
    | .aliasRef .. => ""

/-- The type a collection is read as where a value of any type may stand, as a runtime
fault names it: a list for a sequence; for a mapping, a map keyed by texts when all its
keys are texts or merges, and by values of any type otherwise. -/
def anyTypeName (doc : Document) : Node → String
  | .sequence .. => "[]interface {}"
  | .mapping entries _ _ =>
    if entries.all (fun (k, _) => tagOf doc k == "!!str" || tagOf doc k == "!!merge") then "map[string]interface {}"
    else "map[interface {}]interface {}"
  | _ => ""

/-- Starts expanding an alias, which must not be expanding already. -/
def enter (name : String) (serial : Nat) : Decode Unit := do
  if (← get).expanding.contains serial then throw (.reported ("anchor '" ++ name ++ "' value contains itself"))
  modify fun d => { d with expanding := serial :: d.expanding }

/-- Ends expanding an alias. -/
def leave (serial : Nat) : Decode Unit :=
  modify fun d => { d with expanding := d.expanding.erase serial }

mutual

/-- Decodes a node into a place holding `cur`: the new value, or `none` when the node
does not fit and the place keeps its value. -/
def decode : Nat → Document → Node → Target → Value → Decode (Option Value)
  | 0, _, _, _, _ => throw (.reported "document too deep")
  | fuel + 1, doc, n, t, cur => do
    step
    match n with
    | .aliasRef name slot serial _ => do
      enter name serial
      let r ← decode fuel doc (slotNode doc slot) t cur
      leave serial
      return r
    | .scalar v tag _ => do
      let text ← liftRead (scalarText v tag)
      match t, text with
      | .text, some s => return some (.text s)
      | .text, none => return none
      | .texts, none => return some (.texts [])
      | .entries, none => return some (.entries [])
      | _, none => return none
      | _, some _ => mismatch n t; return none
    | .sequence items _ _ => do
      match t with
      | .texts =>
        let xs ← textItems fuel doc items
        return some (.texts xs)
      | .entries =>
        let es ← entryItems fuel doc items
        return some (.entries es)
      | _ => mismatch n t; return none
    | .mapping entries _ _ => do
      let dups := duplicateKeys (entries.map Prod.fst)
      if !dups.isEmpty then
        for d in dups do note d
        return none
      match t with
      | .entry | .settings => return some (← record fuel doc entries t cur)
      | _ => mismatch n t; return none

/-- Decodes the items of a sequence into texts, dropping those that do not fit. -/
def textItems : Nat → Document → List Node → Decode (List String)
  | 0, _, _ => throw (.reported "document too deep")
  | _ + 1, _, [] => pure []
  | fuel + 1, doc, n :: rest => do
    let x ← decode fuel doc n .text (.text "")
    let xs ← textItems fuel doc rest
    match x with
    | some (.text s) => return s :: xs
    | _ => return xs

/-- Decodes the items of a sequence into environment entries, dropping those that do
not fit. -/
def entryItems : Nat → Document → List Node → Decode (List EnvVar)
  | 0, _, _ => throw (.reported "document too deep")
  | _ + 1, _, [] => pure []
  | fuel + 1, doc, n :: rest => do
    let x ← decode fuel doc n .entry (.entry ⟨"", ""⟩)
    let xs ← entryItems fuel doc rest
    match x with
    | some (.entry e) => return e :: xs
    | _ => return xs

/-- Decodes a mapping into a record, then merges what a `<<` key names. -/
def record : Nat → Document → List (Node × Node) → Target → Value → Decode Value
  | 0, _, _, _, _ => throw (.reported "document too deep")
  | fuel + 1, doc, entries, t, cur => do
    let inherited := (← get).merged
    modify fun d => { d with merged := none }
    let (value, _, mergeNode, merged) ← fields fuel doc entries t (cur, [], none, inherited)
    modify fun d => { d with merged := merged }
    match mergeNode with
    | some m => merge fuel doc (entries.map Prod.fst) m t value
    | none => return value

/-- Decodes the entries of a mapping into a record's fields. The state holds the value,
the fields set so far, the last `<<` value, and the keys a merge must not set again. -/
def fields : Nat → Document → List (Node × Node) → Target →
    Value × List String × Option Node × Option (List String) →
    Decode (Value × List String × Option Node × Option (List String))
  | 0, _, _, _, _ => throw (.reported "document too deep")
  | _ + 1, _, [], _, acc => pure acc
  | fuel + 1, doc, (k, v) :: rest, t, (value, seen, mergeNode, merged) => do
    if isMergeKey k then return ← fields fuel doc rest t (value, seen, some v, merged)
    match ← decode fuel doc k .text (.text "") with
    | some (.text key) =>
      let skip := merged.any (·.contains key)
      if skip then return ← fields fuel doc rest t (value, seen, mergeNode, merged)
      let merged := merged.map (key :: ·)
      match t.fields.lookup key with
      | some ft =>
        if seen.contains key then
          note ("line " ++ toString k.line ++ ": field " ++ key ++ " already set in type " ++ t.typeName)
          return ← fields fuel doc rest t (value, seen, mergeNode, merged)
        let value ← match ← decode fuel doc v ft (value.field key) with
          | some x => pure (value.setField key x)
          | none => pure value
        fields fuel doc rest t (value, key :: seen, mergeNode, merged)
      | none => fields fuel doc rest t (value, seen, mergeNode, merged)
    | _ => fields fuel doc rest t (value, seen, mergeNode, merged)

/-- Merges the mapping, alias of a mapping, or sequence of them that a `<<` key names
into a record; the record's own keys are not set again. -/
def merge : Nat → Document → List Node → Node → Target → Value → Decode Value
  | 0, _, _, _, _, _ => throw (.reported "document too deep")
  | fuel + 1, doc, parentKeys, m, t, value => do
    let saved := (← get).merged
    if saved.isNone then
      let keys ← keyTexts fuel doc parentKeys
      modify fun d => { d with merged := some keys }
    let value ← match m with
      | .mapping .. => return (← decode fuel doc m t value).getD value
      | .aliasRef _ slot _ _ =>
        if !isMappingAt doc slot then throw (.reported wantMap)
        return (← decode fuel doc m t value).getD value
      | .sequence items _ _ => mergeItems fuel doc items t value
      | _ => throw (.reported wantMap)
    modify fun d => { d with merged := saved }
    return value

/-- Merges the items of a sequence, each a mapping or an alias of one, in order. -/
def mergeItems : Nat → Document → List Node → Target → Value → Decode Value
  | 0, _, _, _, _ => throw (.reported "document too deep")
  | _ + 1, _, [], _, value => pure value
  | fuel + 1, doc, n :: rest, t, value => do
    match n with
    | .mapping .. => pure ()
    | .aliasRef _ slot _ _ => if !isMappingAt doc slot then throw (.reported wantMap)
    | _ => throw (.reported wantMap)
    let value := (← decode fuel doc n t value).getD value
    mergeItems fuel doc rest t value

/-- The texts of a record's keys that read as strings. -/
def keyTexts : Nat → Document → List Node → Decode (List String)
  | 0, _, _ => throw (.reported "document too deep")
  | _ + 1, _, [] => pure []
  | fuel + 1, doc, k :: rest => do
    let here ← keyText fuel doc k
    let more ← keyTexts fuel doc rest
    return here.toList ++ more

/-- The text a key reads as, when it is a string. -/
def keyText : Nat → Document → Node → Decode (Option String)
  | 0, _, _ => throw (.reported "document too deep")
  | fuel + 1, doc, k => do
    step
    match k with
    | .scalar v tag _ => liftRead (keyString v tag)
    | .aliasRef name slot serial _ => do
      enter name serial
      let r ← keyText fuel doc (slotNode doc slot)
      leave serial
      return r
    | .sequence items _ _ => do
      for i in items do stepTree fuel doc i
      throw (.fault ("runtime error: hash of unhashable type " ++ anyTypeName doc k))
    | .mapping entries _ _ => do
      let dups := duplicateKeys (entries.map Prod.fst)
      if !dups.isEmpty then
        for d in dups do note d
        return none
      for (a, b) in entries do
        stepTree fuel doc a
        stepTree fuel doc b
      throw (.fault ("runtime error: hash of unhashable type " ++ anyTypeName doc k))

/-- Counts the nodes of a key that is a collection, each as it is decoded. -/
def stepTree : Nat → Document → Node → Decode Unit
  | 0, _, _ => throw (.reported "document too deep")
  | fuel + 1, doc, n => do
    step
    match n with
    | .scalar .. => pure ()
    | .aliasRef name slot serial _ => do
      enter name serial
      stepTree fuel doc (slotNode doc slot)
      leave serial
    | .sequence items _ _ => for i in items do stepTree fuel doc i
    | .mapping entries _ _ =>
      for (a, b) in entries do
        stepTree fuel doc a
        stepTree fuel doc b

end

/-- Reads settings from a YAML text. A text without a document sets nothing. -/
def ofYaml (text : String) : Except Stop Settings :=
  match Document.read text with
  | .error p => .error (.reported p.message)
  | .ok none => .ok empty
  | .ok (some doc) =>
    let fuel := 8 * (text.length + 8) * (doc.anchored.size + 1)
    match (decode fuel doc doc.root .settings (.settings empty)).run ⟨[], [], none, 1, 0⟩ with
    | .error (.reported m) => .error (.reported ("yaml: " ++ m))
    | .error (.fault m) => .error (.fault m)
    | .ok (v, d) =>
      if d.errors.isEmpty then
        match v with
        | some (.settings s) => .ok s
        | _ => .ok empty
      else .error (.reported ("yaml: unmarshal errors:\n  " ++ "\n  ".intercalate d.errors))

end HelpMan.Settings
