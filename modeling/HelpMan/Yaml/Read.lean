import HelpMan.Yaml.Node
import HelpMan.Yaml.Resolve
import HelpMan.Yaml.Scanner

/-!
# Reading a YAML document

`Document.read` reads the first document of a YAML text into nodes. It follows the
grammar of YAML's block and flow collections token by token:

* a node is an alias, or optional properties (an anchor and a tag, in either order)
  followed by a scalar, a flow collection, a block collection (only where block content
  may stand), or nothing, which gives an empty scalar when a property was given;
* a block sequence is a run of `-` entries closed by the end of its indentation, and a
  sequence whose entries stand at the column of the mapping key it belongs to has no
  start or end of its own;
* a block mapping is a run of keys, each with an optional value;
* a flow sequence or mapping has entries separated by commas, and a `key: value` pair
  inside a flow sequence is a mapping of one entry.

A missing key or value is an empty scalar. Anchors are recorded when their node starts,
so an alias refers to the latest node with that anchor that started before it.

The tokens are asked for one at a time, so a problem in the text is reported when the
reader reaches it; the document's end is asked for after the root node, and what follows
it is not read. Every step of the reader consumes fuel, which is computed from the size
of the text, so that reading is total.
-/

namespace HelpMan.Yaml

/-- What the reader keeps besides the scanner. -/
structure Reader where
  /-- The slot of each anchor name, latest first. -/
  anchors : List (String × Nat)
  /-- The anchored nodes, by slot. -/
  anchored : Array Node
  /-- How many aliases were read. -/
  aliases : Nat
  /-- The tag handles of the document and their prefixes. -/
  handles : List (String × String)
  /-- The fuel of every call of the scanner. -/
  scanFuel : Nat

/-- Reading nodes: the reader's state over the scanner's. -/
abbrev Read := StateT Reader Scan

/-- The tag handles that every document has. -/
def defaultHandles : List (String × String) := [("!", "!"), ("!!", "tag:yaml.org,2002:")]

/-- The short form of a tag: the standard prefix becomes `!!`. -/
def shortTag (tag : String) : String :=
  if tag.startsWith "tag:yaml.org,2002:" then "!!" ++ (tag.drop 18).toString else tag

/-- The tag of a scalar: its explicit tag, else `!!str` for a quoted or block scalar,
else what its text reads as. The tag `!` counts as no tag. -/
def scalarTag (tag : String) (style : Style) (value : String) : String :=
  if tag ≠ "" && tag ≠ "!" then shortTag tag
  else if style ≠ .plain then "!!str"
  else implicitTag value

/-- The tag of a collection: its explicit tag, else the given one. -/
def collectionTag (tag default : String) : String :=
  if tag ≠ "" && tag ≠ "!" then shortTag tag else default

/-- An empty scalar at a mark. -/
def emptyScalar (m : Mark) : Node := .scalar "" "!!null" (m.line + 1)

namespace Read

/-- The next token. -/
def peek : Read Token := do
  let fuel := (← get).scanFuel
  liftM (peekToken fuel)

/-- Takes the next token. -/
def next : Read Unit := liftM skipToken

/-- Fails with a problem of structure. -/
def fail (context : Option Mark) (fault : Mark) (what : String) : Read α :=
  throw (.parsing context fault what)

/-- Reserves a slot for a node with an anchor. -/
def reserve : Option String → Read (Option Nat)
  | none => pure none
  | some name => do
    let r ← get
    let slot := r.anchored.size
    set { r with anchors := (name, slot) :: r.anchors, anchored := r.anchored.push default }
    return some slot

/-- Puts a finished node into its slot. -/
def fill (slot : Option Nat) (n : Node) : Read Node := do
  if let some i := slot then modify fun r => { r with anchored := r.anchored.setIfInBounds i n }
  return n

/-- The full tag of a tag token: the prefix of its handle and its suffix. -/
def fullTag (handle suffix : String) (start mark : Mark) : Read String := do
  if handle.isEmpty then return suffix
  match (← get).handles.lookup handle with
  | some pfx => return pfx ++ suffix
  | none => fail (some start) mark "found undefined tag handle"

/-- Reads an alias. -/
def readAlias (name : String) (t : Token) : Read Node := do
  next
  let r ← get
  match r.anchors.lookup name with
  | none => throw (.general ("unknown anchor '" ++ name ++ "' referenced"))
  | some slot =>
    set { r with aliases := r.aliases + 1 }
    return .aliasRef name slot r.aliases (t.start.line + 1)

/-- Reads the properties of a node, an anchor and a tag in either order: the anchor, the
tag (empty if none), and the token after them. -/
def properties (t : Token) : Read (Option String × String × Token) := do
  match t.kind with
  | .anchor a =>
    next
    let u ← peek
    match u.kind with
    | .tag h s =>
      next
      let after ← peek
      let tag ← fullTag h s t.start u.start
      return (some a, tag, after)
    | _ => return (some a, "", u)
  | .tag h s =>
    next
    let u ← peek
    let (anchor, u) ← match u.kind with
      | .anchor a => do next; pure (some a, ← peek)
      | _ => pure (none, u)
    let tag ← fullTag h s t.start t.start
    return (anchor, tag, u)
  | _ => return (none, "", t)

/-- Whether a token kind is one of a list. -/
def kindIn (k : TokenKind) (ks : List TokenKind) : Bool := ks.contains k

/-- A node with properties and no content is an empty scalar; no properties and no
content is an error. -/
def emptyOrFail (anchor : Option String) (tag : String) (start : Mark) (t : Token) : Read Node := do
  if anchor.isSome || !tag.isEmpty then
    let slot ← reserve anchor
    fill slot (.scalar "" (scalarTag tag .plain "") (start.line + 1))
  else fail (some start) t.start "did not find expected node content"

mutual

/-- Reads a node; `block` allows block collections, and `indentless` a sequence without
indentation, as the value of a block mapping. -/
def node : Nat → Bool → Bool → Read Node
  | 0, _, _ => throw (.general "document too deep")
  | fuel + 1, block, indentless => do
    let t ← peek
    if let .aliasRef name := t.kind then return ← readAlias name t
    let start := t.start
    let (anchor, tag, t) ← properties t
    let line := start.line + 1
    if indentless && t.kind == .blockEntry then
      let slot ← reserve anchor
      let items ← indentlessSequence fuel []
      return ← fill slot (.sequence items (collectionTag tag "!!seq") line)
    match t.kind with
    | .scalar v style =>
      next
      let slot ← reserve anchor
      fill slot (.scalar v (scalarTag tag style v) line)
    | .flowSequenceStart =>
      let slot ← reserve anchor
      next
      let items ← flowSequence fuel t.start true []
      fill slot (.sequence items (collectionTag tag "!!seq") line)
    | .flowMappingStart =>
      let slot ← reserve anchor
      next
      let entries ← flowMapping fuel t.start true []
      fill slot (.mapping entries (collectionTag tag "!!map") line)
    | .blockSequenceStart =>
      if block then
        let slot ← reserve anchor
        next
        let items ← blockSequence fuel t.start []
        fill slot (.sequence items (collectionTag tag "!!seq") line)
      else emptyOrFail anchor tag start t
    | .blockMappingStart =>
      if block then
        let slot ← reserve anchor
        next
        let entries ← blockMapping fuel t.start []
        fill slot (.mapping entries (collectionTag tag "!!map") line)
      else emptyOrFail anchor tag start t
    | _ => emptyOrFail anchor tag start t

/-- Reads the entries of a block sequence after its start. -/
def blockSequence : Nat → Mark → List Node → Read (List Node)
  | 0, _, _ => throw (.general "document too deep")
  | fuel + 1, context, acc => do
    let t ← peek
    match t.kind with
    | .blockEntry =>
      next
      let u ← peek
      let item ←
        if kindIn u.kind [.blockEntry, .blockEnd] then pure (emptyScalar t.stop)
        else node fuel true false
      blockSequence fuel context (acc ++ [item])
    | .blockEnd =>
      next
      return acc
    | _ => fail (some context) t.start "did not find expected '-' indicator"

/-- Reads the entries of a sequence that stands at its mapping key's column. -/
def indentlessSequence : Nat → List Node → Read (List Node)
  | 0, _ => throw (.general "document too deep")
  | fuel + 1, acc => do
    let t ← peek
    if t.kind == .blockEntry then
      next
      let u ← peek
      let item ←
        if kindIn u.kind [.blockEntry, .key, .value, .blockEnd] then pure (emptyScalar t.stop)
        else node fuel true false
      indentlessSequence fuel (acc ++ [item])
    else return acc

/-- Reads the entries of a block mapping after its start. -/
def blockMapping : Nat → Mark → List (Node × Node) → Read (List (Node × Node))
  | 0, _, _ => throw (.general "document too deep")
  | fuel + 1, context, acc => do
    let t ← peek
    match t.kind with
    | .key =>
      next
      let u ← peek
      let key ←
        if kindIn u.kind [.key, .value, .blockEnd] then pure (emptyScalar t.stop)
        else node fuel true true
      let value ← blockValue fuel
      blockMapping fuel context (acc ++ [(key, value)])
    | .blockEnd =>
      next
      return acc
    | _ => fail (some context) t.start "did not find expected key"

/-- Reads the value of a block mapping entry, empty if there is none. -/
def blockValue : Nat → Read Node
  | 0 => throw (.general "document too deep")
  | fuel + 1 => do
    let t ← peek
    if t.kind == .value then
      next
      let u ← peek
      if kindIn u.kind [.key, .value, .blockEnd] then return emptyScalar t.stop
      node fuel true true
    else return emptyScalar t.start

/-- Reads the entries of a flow sequence after its start. -/
def flowSequence : Nat → Mark → Bool → List Node → Read (List Node)
  | 0, _, _, _ => throw (.general "document too deep")
  | fuel + 1, context, first, acc => do
    let t ← peek
    if t.kind == .flowSequenceEnd then
      next
      return acc
    let t ←
      if first then pure t
      else if t.kind == .flowEntry then do next; peek
      else fail (some context) t.start "did not find expected ',' or ']'"
    match t.kind with
    | .key =>
      next
      let pair ← flowPair fuel t
      flowSequence fuel context false (acc ++ [pair])
    | .flowSequenceEnd =>
      next
      return acc
    | _ =>
      let item ← node fuel false false
      flowSequence fuel context false (acc ++ [item])

/-- Reads a `key: value` pair inside a flow sequence, which is a mapping of one entry. -/
def flowPair : Nat → Token → Read Node
  | 0, _ => throw (.general "document too deep")
  | fuel + 1, keyToken => do
    let t ← peek
    let key ←
      if kindIn t.kind [.value, .flowEntry, .flowSequenceEnd] then do
        next
        pure (emptyScalar t.stop)
      else node fuel false false
    let t ← peek
    let value ←
      if t.kind == .value then do
        next
        let u ← peek
        if kindIn u.kind [.flowEntry, .flowSequenceEnd] then pure (emptyScalar t.start)
        else node fuel false false
      else pure (emptyScalar t.start)
    let _ ← peek
    return .mapping [(key, value)] "!!map" (keyToken.start.line + 1)

/-- Reads the entries of a flow mapping after its start. -/
def flowMapping : Nat → Mark → Bool → List (Node × Node) → Read (List (Node × Node))
  | 0, _, _, _ => throw (.general "document too deep")
  | fuel + 1, context, first, acc => do
    let t ← peek
    if t.kind == .flowMappingEnd then
      next
      return acc
    let t ←
      if first then pure t
      else if t.kind == .flowEntry then do next; peek
      else fail (some context) t.start "did not find expected ',' or '\x7d'"
    match t.kind with
    | .key =>
      next
      let u ← peek
      let key ←
        if kindIn u.kind [.value, .flowEntry, .flowMappingEnd] then pure (emptyScalar u.start)
        else node fuel false false
      let value ← flowValue fuel
      flowMapping fuel context false (acc ++ [(key, value)])
    | .flowMappingEnd =>
      next
      return acc
    | _ =>
      let key ← node fuel false false
      let u ← peek
      flowMapping fuel context false (acc ++ [(key, emptyScalar u.start)])

/-- Reads the value of a flow mapping entry, empty if there is none. -/
def flowValue : Nat → Read Node
  | 0 => throw (.general "document too deep")
  | fuel + 1 => do
    let t ← peek
    if t.kind == .value then
      next
      let u ← peek
      if kindIn u.kind [.flowEntry, .flowMappingEnd] then return emptyScalar u.start
      node fuel false false
    else return emptyScalar t.start

end

/-- Reads the directives before a document: a `%YAML 1.1` directive at most once, and
`%TAG` directives for distinct handles. Gives the handles of the document. -/
def directives : Nat → Bool → List (String × String) → Read (List (String × String))
  | 0, _, hs => pure hs
  | fuel + 1, seenVersion, hs => do
    let t ← peek
    match t.kind with
    | .versionDirective major minor =>
      if seenVersion then fail none t.start "found duplicate %YAML directive"
      if major ≠ 1 || minor ≠ 1 then fail none t.start "found incompatible YAML document"
      next
      directives fuel true hs
    | .tagDirective handle pfx =>
      if (hs.lookup handle).isSome then fail none t.start "found duplicate %TAG directive"
      next
      directives fuel seenVersion (hs ++ [(handle, pfx)])
    | _ => pure (hs ++ defaultHandles.filter fun (h, _) => (hs.lookup h).isNone)

/-- Whether a token kind starts a document explicitly or ends the stream. -/
def isDocumentBoundary (k : TokenKind) : Bool :=
  match k with
  | .versionDirective .. | .tagDirective .. | .documentStart | .documentEnd | .streamEnd => true
  | _ => false

/-- Reads the first document of the stream, if there is one. -/
def document (fuel : Nat) : Read (Option Node) := do
  let _ ← peek
  next
  let t ← peek
  let root ←
    match t.kind with
    | .streamEnd => return none
    | .versionDirective .. | .tagDirective .. | .documentStart => do
      let hs ← directives fuel false []
      modify fun r => { r with handles := hs }
      let t ← peek
      if t.kind != .documentStart then fail none t.start "did not find expected <document start>"
      next
      let u ← peek
      if isDocumentBoundary u.kind then pure (emptyScalar u.start) else node fuel true false
    | _ => do
      modify fun r => { r with handles := defaultHandles }
      node fuel true false
  let _ ← peek
  return some root

end Read

/-- Characters that may stand in a YAML text: tab, line feed, carriage return, the
printable ASCII characters, next line, and the rest of Unicode but for the surrogates,
`U+FFFE` and `U+FFFF`. -/
def isAllowedChar (c : Char) : Bool :=
  let n := c.toNat
  n = 0x9 || n = 0xA || n = 0xD || (0x20 ≤ n && n ≤ 0x7E) || n = 0x85 || (0xA0 ≤ n && n ≤ 0xD7FF) ||
    (0xE000 ≤ n && n ≤ 0xFFFD) || 0x10000 ≤ n

/-- Reads the first document of a YAML text: `none` for a text without one. An empty text
reads as a single line break, and a byte order mark at the start is dropped. The text is
decoded chunk by chunk as the scanner needs it, so a forbidden character stops the reading
only in a chunk that the first document reaches. -/
def Document.read (text : String) : Except Problem (Option Document) := do
  let text := if text.isEmpty then "\n" else text
  let (text, skipped) := if text.startsWith "\uFEFF" then ((text.drop 1).toString, 3) else (text, 0)
  let fuel := 4 * (text.length + 4)
  let start : Reader := ⟨[], #[], 0, defaultHandles, fuel⟩
  let (root, r) ← (((Read.document (4 * fuel)).run start).run' (Scanner.start text skipped isAllowedChar))
  return root.map fun n => ⟨n, r.anchored⟩

end HelpMan.Yaml
