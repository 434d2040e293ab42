import HelpMan.Text.Utf8
import HelpMan.Yaml.Token

/-!
# Cutting YAML into tokens

The scanner reads the text one character at a time and keeps what YAML's indentation
rules need: the stack of block indentation columns, the depth of flow collections, and
for each depth the place where a *simple key* may have started. A simple key is a
scalar (or flow collection) that turns out to be a mapping key when a `:` follows it on
the same line, within 1024 characters; the key token, and the start of a block mapping
when its column opens one, are then inserted before it in the queue of tokens. A key
that had to be one (it stood at the mapping's column) but never met its `:` is an error.

Tokens are produced on demand (`fetchMore`): the queue always holds at least three
tokens, and more while its head may still turn out to be a key, so that a problem later
in the text surfaces exactly when the reader asks for a token near it.

Every loop of the scanner consumes input or produces a token, so each is bounded by an
explicit fuel computed from the length of the text.
-/

namespace HelpMan.Yaml

/-- A place where a simple key may have started. -/
structure SimpleKey where
  possible : Bool
  required : Bool
  /-- The number of the token that the key would be inserted before. -/
  number : Nat
  mark : Mark
  deriving DecidableEq, Repr

/-- The scanner's state. -/
structure Scanner where
  rest : List Char
  mark : Mark
  queue : List Token
  /-- How many tokens were taken off the queue. -/
  parsed : Nat
  started : Bool
  flowLevel : Nat
  indent : Int
  indents : List Int
  keyAllowed : Bool
  /-- One simple key per flow depth, innermost first. -/
  keys : List SimpleKey
  /-- How many characters were decoded so far. -/
  decoded : Nat
  /-- The character counts at which the later chunks of the input end. -/
  chunkEnds : List Nat
  /-- The offset of the first character that YAML forbids, if there is one. -/
  forbiddenAt : Option Nat
  /-- The first character of the window of decoded text that the scanner looks at. -/
  windowHead : Option Char
  deriving Repr

/-- Scanning: a state of the scanner, and a way to fail. -/
abbrev Scan := StateT Scanner (Except Problem)

/-- The size of the chunks in which the input is read, in bytes. -/
def chunkSize : Nat := 512

/-- The character counts at which chunks of the input end: each chunk ends `chunkSize`
bytes after the last character that the chunk before it completed. `skipped` bytes at the
start (a byte order mark) are read with the first chunk but are not characters. -/
def chunkBoundaries (skipped : Nat) (cs : List Char) : List Nat :=
  let (ends, _, _, _) := cs.foldl (fun (ends, count, bytes, limit) c =>
      let bytes := bytes + c.utf8Size
      let (ends, limit) := if bytes > limit then (ends ++ [count], (bytes - c.utf8Size) + chunkSize) else (ends, limit)
      (ends, count + 1, bytes, limit))
    (([] : List Nat), 0, skipped, chunkSize)
  ends ++ [cs.length]

/-- The scanner before the first character of a text whose first `skipped` bytes (a byte
order mark) were dropped, with `allowed` telling which characters YAML permits. The first
chunk is decoded at once. -/
def Scanner.start (text : String) (skipped : Nat) (allowed : Char → Bool) : Scanner :=
  let cs := text.toList
  let ends := chunkBoundaries skipped cs
  { rest := cs, mark := ⟨0, 0, 0⟩, queue := [], parsed := 0, started := false, flowLevel := 0,
    indent := -1, indents := [], keyAllowed := false, keys := [],
    decoded := ends.headD 0, chunkEnds := ends.drop 1,
    forbiddenAt := cs.findIdx? (fun c => !allowed c), windowHead := cs.head? }

/-! ## Characters -/

/-- Line breaks: carriage return, line feed, next line, line and paragraph separators. -/
def isBreakChar (c : Char) : Bool :=
  c = '\r' || c = '\n' || c.toNat = 0x85 || c.toNat = 0x2028 || c.toNat = 0x2029

/-- Blanks: space and tab. -/
def isBlankChar (c : Char) : Bool := c = ' ' || c = '\t'

/-- Letters, digits, underscore and hyphen: the characters of anchor names. -/
def isWordChar (c : Char) : Bool := c.isAlphanum || c = '_' || c = '-'

/-- Hexadecimal digits. -/
def isHexChar (c : Char) : Bool :=
  c.isDigit || ('a' ≤ c && c ≤ 'f') || ('A' ≤ c && c ≤ 'F')

/-- The value of a hexadecimal digit. -/
def hexValue (c : Char) : Nat :=
  if c.isDigit then c.toNat - 48 else if 'a' ≤ c && c ≤ 'f' then c.toNat - 87 else c.toNat - 55

/-- Makes sure that `n` characters from the current one are decoded. When fewer are, the
window moves to start at the current character, and further chunks are decoded until they
are or the input ends; a chunk that holds a forbidden character stops the scanner. -/
def need (n : Nat) : Scan Unit := do
  let s ← get
  let pos := s.mark.index
  if pos + n ≤ s.decoded then
    if s.forbiddenAt.any (· < s.decoded) then throw (.general "control characters are not allowed")
    return
  let later := s.chunkEnds.filter (· > s.decoded)
  let reached := later.find? (pos + n ≤ ·)
  let decoded := reached.getD (later.getLastD s.decoded)
  set { s with decoded, chunkEnds := later.filter (· > decoded), windowHead := s.rest.head? }
  if s.forbiddenAt.any (· < decoded) then throw (.general "control characters are not allowed")

def look (k : Nat) : Scan (Option Char) := do
  need (k + 1)
  return (← get).rest[k]?

def isAt (k : Nat) (c : Char) : Scan Bool := return (← look k) == some c

def breakAt (k : Nat) : Scan Bool := return match ← look k with
  | some c => isBreakChar c
  | none => false

def blankAt (k : Nat) : Scan Bool := return match ← look k with
  | some c => isBlankChar c
  | none => false

/-- A line break or the end of the text. -/
def breakzAt (k : Nat) : Scan Bool := return match ← look k with
  | some c => isBreakChar c
  | none => true

/-- A blank, a line break or the end of the text. -/
def blankzAt (k : Nat) : Scan Bool := return match ← look k with
  | some c => isBreakChar c || isBlankChar c
  | none => true

/-- Consumes one character that is not a line break. -/
def skip : Scan Unit := modify fun s =>
  match s.rest with
  | [] => s
  | _ :: r => { s with rest := r, mark := ⟨s.mark.index + 1, s.mark.line, s.mark.column + 1⟩ }

/-- Consumes a line break; a carriage return and line feed count as one. -/
def skipLine : Scan Unit := modify fun s =>
  match s.rest with
  | '\r' :: '\n' :: r => { s with rest := r, mark := ⟨s.mark.index + 2, s.mark.line + 1, 0⟩ }
  | c :: r =>
    if isBreakChar c then { s with rest := r, mark := ⟨s.mark.index + 1, s.mark.line + 1, 0⟩ } else s
  | [] => s

/-- Consumes a line break and gives it as it is kept in a scalar: line and paragraph
separators stay, any other break becomes a line feed. -/
def readLine : Scan String := do
  match ← look 0 with
  | some c =>
    if c.toNat = 0x2028 || c.toNat = 0x2029 then
      skipLine
      return c.toString
    else if isBreakChar c then
      skipLine
      return "\n"
    else return ""
  | none => return ""

/-- Consumes one character and gives it. -/
def readChar : Scan Char := do
  let c := (← look 0).getD ' '
  skip
  return c

/-- Consumes characters while `p` holds of them. -/
def skipWhile (p : Char → Bool) : Nat → Scan Unit
  | 0 => pure ()
  | fuel + 1 => do
    match ← look 0 with
    | some c => if p c then skip; skipWhile p fuel
    | none => pure ()

/-- Consumes and gives the characters while `p` holds of them. -/
def readWhile (p : Char → Bool) : Nat → String → Scan String
  | 0, acc => pure acc
  | fuel + 1, acc => do
    match ← look 0 with
    | some c => if p c then skip; readWhile p fuel (acc.push c) else pure acc
    | none => pure acc

/-! ## The token queue -/

def push (k : TokenKind) (start stop : Mark) : Scan Unit :=
  modify fun s => { s with queue := s.queue ++ [⟨k, start, stop⟩] }

def insertAt (i : Nat) (t : Token) : Scan Unit :=
  modify fun s => { s with queue := s.queue.take i ++ t :: s.queue.drop i }

/-! ## Simple keys and indentation -/

/-- Drops the innermost possible key; a required one is an error. -/
def removeSimpleKey : Scan Unit := do
  let s ← get
  match s.keys with
  | k :: ks =>
    if k.possible then
      if k.required then throw (.scanning k.mark s.mark "could not find expected ':'")
      set { s with keys := { k with possible := false } :: ks }
  | [] => pure ()

/-- Records that a simple key may start here. -/
def saveSimpleKey : Scan Unit := do
  let s ← get
  let required := s.flowLevel == 0 && s.indent == (s.mark.column : Int)
  if s.keyAllowed then
    let key : SimpleKey := ⟨true, required, s.parsed + s.queue.length, s.mark⟩
    removeSimpleKey
    modify fun s => { s with keys := key :: s.keys.drop 1 }

/-- Whether the key at depth `i` can still be a key: it must be on the current line and
at most 1024 characters back. A stale key is dropped, and a stale required key is an
error. -/
def keyStillValid (i : Nat) : Scan Bool := do
  let s ← get
  match s.keys[i]? with
  | none => return false
  | some k =>
    if !k.possible then return false
    if k.mark.line < s.mark.line || k.mark.index + 1024 < s.mark.index then
      if k.required then throw (.scanning k.mark s.mark "could not find expected ':'")
      set { s with keys := s.keys.set i { k with possible := false } }
      return false
    return true

/-- Opens a block collection at `column` if it is deeper than the current indentation;
its start token goes to the end of the queue or before token `number`. -/
def rollIndent (column : Nat) (number : Option Nat) (kind : TokenKind) (m : Mark) : Scan Unit := do
  let s ← get
  if s.flowLevel == 0 && s.indent < (column : Int) then
    set { s with indents := s.indent :: s.indents, indent := column }
    match number with
    | none => push kind m m
    | some n => insertAt (n - s.parsed) ⟨kind, m, m⟩

/-- Closes the block collections deeper than `column`. -/
def unrollIndent (column : Int) : Nat → Scan Unit
  | 0 => pure ()
  | fuel + 1 => do
    let s ← get
    if s.flowLevel == 0 && s.indent > column then
      push .blockEnd s.mark s.mark
      modify fun s => { s with indent := s.indents.headD (-1), indents := s.indents.drop 1 }
      unrollIndent column fuel

def increaseFlowLevel : Scan Unit := modify fun s =>
  { s with keys := ⟨false, false, 0, ⟨0, 0, 0⟩⟩ :: s.keys, flowLevel := s.flowLevel + 1 }

def decreaseFlowLevel : Scan Unit := modify fun s =>
  if s.flowLevel > 0 then { s with keys := s.keys.drop 1, flowLevel := s.flowLevel - 1 } else s

/-! ## Between tokens -/

/-- Skips blanks, comments and line breaks up to the next token. Tabs are skipped in
flow collections and where no simple key may start. A line break in block context
allows a simple key again. -/
def skipToToken : Nat → Scan Unit
  | 0 => pure ()
  | fuel + 1 => do
    need 1
    if (← get).mark.column == 0 && (← get).windowHead == some (Char.ofNat 0xFEFF) then skip
    let s ← get
    let tabs := s.flowLevel > 0 || !s.keyAllowed
    skipWhile (fun c => c = ' ' || (tabs && c = '\t')) fuel
    if (← look 0) == some '#' then skipWhile (fun c => !isBreakChar c) fuel
    if ← breakAt 0 then
      skipLine
      if (← get).flowLevel == 0 then modify fun s => { s with keyAllowed := true }
      skipToToken fuel

/-! ## Scalars -/

/-- What a scalar collects while it is read. -/
structure Pieces where
  text : String
  leadingBreak : String
  trailingBreaks : String
  whitespaces : String
  leadingBlanks : Bool
  stop : Mark

/-- Joins the blanks or folds the line breaks collected before the next character. -/
def Pieces.join (p : Pieces) : Pieces :=
  if p.leadingBlanks then
    let text :=
      if p.leadingBreak.startsWith "\n" then
        if p.trailingBreaks.isEmpty then p.text.push ' ' else p.text ++ p.trailingBreaks
      else p.text ++ p.leadingBreak ++ p.trailingBreaks
    { p with text, leadingBreak := "", trailingBreaks := "", leadingBlanks := false }
  else { p with text := p.text ++ p.whitespaces, whitespaces := "" }

/-- Whether the next three characters are `---` or `...` at the start of a line,
followed by a blank or the end. -/
def atDocumentIndicator : Scan Bool := do
  if (← get).mark.column != 0 then return false
  let dashes := (← isAt 0 '-') && (← isAt 1 '-') && (← isAt 2 '-')
  let dots := (← isAt 0 '.') && (← isAt 1 '.') && (← isAt 2 '.')
  return (dashes || dots) && (← blankzAt 3)

/-- The non-blank characters of a plain scalar, up to an indicator that ends it. -/
def plainWord : Nat → Pieces → Scan Pieces
  | 0, p => pure p
  | fuel + 1, p => do
    if ← blankzAt 0 then return p
    let c := (← look 0).getD ' '
    let flow := (← get).flowLevel > 0
    if (c = ':' && (← blankzAt 1)) || (flow && ",?[]\x7b\x7d".toList.contains c) then return p
    let p := if p.leadingBlanks || !p.whitespaces.isEmpty then p.join else p
    skip
    plainWord fuel { p with text := p.text.push c, stop := (← get).mark }

/-- The blanks and line breaks after a piece of a plain scalar. -/
def plainBlanks (indent : Int) (start : Mark) : Nat → Pieces → Scan Pieces
  | 0, p => pure p
  | fuel + 1, p => do
    if ← blankAt 0 then
      let s ← get
      if p.leadingBlanks && (s.mark.column : Int) < indent && (← isAt 0 '\t') then
        throw (.scanning start s.mark "found a tab character that violates indentation")
      let c ← readChar
      plainBlanks indent start fuel (if p.leadingBlanks then p else { p with whitespaces := p.whitespaces.push c })
    else if ← breakAt 0 then
      let b ← readLine
      if p.leadingBlanks then plainBlanks indent start fuel { p with trailingBreaks := p.trailingBreaks ++ b }
      else plainBlanks indent start fuel { p with whitespaces := "", leadingBreak := b, leadingBlanks := true }
    else return p

/-- The lines of a plain scalar. -/
def plainLines (indent : Int) (start : Mark) : Nat → Pieces → Scan Pieces
  | 0, p => pure p
  | fuel + 1, p => do
    need 4
    if ← atDocumentIndicator then return p
    if (← look 0) == some '#' then return p
    let p ← plainWord fuel p
    if !((← blankAt 0) || (← breakAt 0)) then return p
    let p ← plainBlanks indent start fuel p
    let s ← get
    if s.flowLevel == 0 && (s.mark.column : Int) < indent then return p
    plainLines indent start fuel p

/-- Scans a plain scalar. -/
def scanPlain (fuel : Nat) : Scan Unit := do
  let s ← get
  let start := s.mark
  let p ← plainLines (s.indent + 1) start fuel ⟨"", "", "", "", false, start⟩
  push (.scalar p.text .plain) start p.stop
  if p.leadingBlanks then modify fun s => { s with keyAllowed := true }

/-- The character an escape letter of a double-quoted scalar stands for, or the number
of hex digits that follow it. -/
def escapeOf (c : Char) : Option (Char ⊕ Nat) :=
  match c with
  | '0' => some (.inl (Char.ofNat 0))
  | 'a' => some (.inl (Char.ofNat 7))
  | 'b' => some (.inl (Char.ofNat 8))
  | 't' => some (.inl '\t')
  | '\t' => some (.inl '\t')
  | 'n' => some (.inl '\n')
  | 'v' => some (.inl (Char.ofNat 11))
  | 'f' => some (.inl (Char.ofNat 12))
  | 'r' => some (.inl '\r')
  | 'e' => some (.inl (Char.ofNat 27))
  | ' ' => some (.inl ' ')
  | '"' => some (.inl '"')
  | '/' => some (.inl '/')
  | '\'' => some (.inl '\'')
  | '\\' => some (.inl '\\')
  | 'N' => some (.inl (Char.ofNat 0x85))
  | '_' => some (.inl (Char.ofNat 0xA0))
  | 'L' => some (.inl (Char.ofNat 0x2028))
  | 'P' => some (.inl (Char.ofNat 0x2029))
  | 'x' => some (.inr 2)
  | 'u' => some (.inr 4)
  | 'U' => some (.inr 8)
  | _ => none

/-- Reads `n` hex digits into a code point. -/
def hexDigitsAt (start : Mark) : Nat → Nat → Nat → Scan Nat
  | 0, _, v => pure v
  | n + 1, k, v => do
    match ← look k with
    | some c =>
      if isHexChar c then hexDigitsAt start n (k + 1) (v * 16 + hexValue c)
      else throw (.scanning start (← get).mark "did not find expected hexdecimal number")
    | none => throw (.scanning start (← get).mark "did not find expected hexdecimal number")

/-- The non-blank characters of a quoted scalar, up to its closing quote or a blank. -/
def quotedWord (single : Bool) (start : Mark) : Nat → Pieces → Scan Pieces
  | 0, p => pure p
  | fuel + 1, p => do
    if ← blankzAt 0 then return p
    let c := (← look 0).getD ' '
    if single && c = '\'' && (← isAt 1 '\'') then
      skip; skip
      quotedWord single start fuel { p with text := p.text.push '\'' }
    else if c = (if single then '\'' else '"') then return p
    else if !single && c = '\\' && (← breakAt 1) then
      skip; skipLine
      return { p with leadingBlanks := true }
    else if !single && c = '\\' then
      match escapeOf ((← look 1).getD ' ') with
      | none => throw (.scanning start (← get).mark "found unknown escape character")
      | some (.inl e) =>
        skip; skip
        quotedWord single start fuel { p with text := p.text.push e }
      | some (.inr n) =>
        skip; skip
        let v ← hexDigitsAt start n 0 0
        if (0xD800 ≤ v && v ≤ 0xDFFF) || v > 0x10FFFF then
          throw (.scanning start (← get).mark "found invalid Unicode character escape code")
        for _ in List.range n do skip
        quotedWord single start fuel { p with text := p.text.push (Char.ofNat v) }
    else
      skip
      quotedWord single start fuel { p with text := p.text.push c }

/-- The blanks and line breaks inside a quoted scalar. -/
def quotedBlanks : Nat → Pieces → Scan Pieces
  | 0, p => pure p
  | fuel + 1, p => do
    if ← blankAt 0 then
      let c ← readChar
      quotedBlanks fuel (if p.leadingBlanks then p else { p with whitespaces := p.whitespaces.push c })
    else if ← breakAt 0 then
      let b ← readLine
      if p.leadingBlanks then quotedBlanks fuel { p with trailingBreaks := p.trailingBreaks ++ b }
      else quotedBlanks fuel { p with whitespaces := "", leadingBreak := b, leadingBlanks := true }
    else return p

/-- The pieces of a quoted scalar up to its closing quote. -/
def quotedLines (single : Bool) (start : Mark) : Nat → Pieces → Scan Pieces
  | 0, p => pure p
  | fuel + 1, p => do
    if ← atDocumentIndicator then
      throw (.scanning start (← get).mark "found unexpected document indicator")
    if (← look 0).isNone then throw (.scanning start (← get).mark "found unexpected end of stream")
    let p ← quotedWord single start fuel { p with leadingBlanks := false }
    if (← isAt 0 (if single then '\'' else '"')) then return p
    let p ← quotedBlanks fuel p
    quotedLines single start fuel p.join

/-- Scans a single- or double-quoted scalar. -/
def scanQuoted (single : Bool) (fuel : Nat) : Scan Unit := do
  let start := (← get).mark
  skip
  let p ← quotedLines single start fuel ⟨"", "", "", "", false, start⟩
  skip
  push (.scalar p.text (if single then .single else .double)) start (← get).mark

/-- Eats the indentation spaces of a line of a block scalar, up to its indentation. -/
def eatIndent (indent : Nat) : Nat → Scan Unit
  | 0 => pure ()
  | fuel + 1 => do
    if (indent == 0 || (← get).mark.column < indent) && (← isAt 0 ' ') then
      skip
      eatIndent indent fuel

/-- The indentation and empty lines before a line of a block scalar, eating at most
`indent` columns of spaces on each line. -/
def blockBreaksAt (start : Mark) (parentIndent : Int) : Nat → Nat → Nat → String → Scan (Nat × String)
  | 0, indent, _, breaks => pure (indent, breaks)
  | fuel + 1, indent, maxIndent, breaks => do
    eatIndent indent fuel
    let s ← get
    let maxIndent := max maxIndent s.mark.column
    if (indent == 0 || s.mark.column < indent) && (← isAt 0 '\t') then
      throw (.scanning start s.mark "found a tab character where an indentation space is expected")
    if !(← breakAt 0) then
      if indent == 0 then
        return (max (max maxIndent (parentIndent + 1).toNat) 1, breaks)
      return (indent, breaks)
    let b ← readLine
    blockBreaksAt start parentIndent fuel indent maxIndent (breaks ++ b)

/-- The lines of a block scalar at its indentation. -/
def blockLines (literal : Bool) (start : Mark) (parentIndent : Int) (indent : Nat) :
    Nat → String → String → String → Bool → Scan (String × String × String)
  | 0, text, leading, trailing, _ => pure (text, leading, trailing)
  | fuel + 1, text, leading, trailing, leadingBlank => do
    if (← get).mark.column != indent || (← look 0).isNone then return (text, leading, trailing)
    let trailingBlank ← blankAt 0
    let text :=
      if !literal && leading.startsWith "\n" && !leadingBlank && !trailingBlank then
        if trailing.isEmpty then text.push ' ' else text
      else text ++ leading
    let text := text ++ trailing
    let leadingBlank ← blankAt 0
    let text ← readWhile (fun c => !isBreakChar c) fuel text
    let leading ← readLine
    let (_, trailing) ← blockBreaksAt start parentIndent fuel indent 0 ""
    blockLines literal start parentIndent indent fuel text leading trailing leadingBlank

/-- Scans a literal (`|`) or folded (`>`) block scalar. -/
def scanBlock (literal : Bool) (fuel : Nat) : Scan Unit := do
  let s ← get
  let start := s.mark
  skip
  let mut chomping : Int := 0
  let mut increment : Nat := 0
  let c := (← look 0).getD ' '
  if c = '+' || c = '-' then
    chomping := if c = '+' then 1 else -1
    skip
    let d := (← look 0).getD ' '
    if d.isDigit then
      if d = '0' then throw (.scanning start (← get).mark "found an indentation indicator equal to 0")
      increment := d.toNat - 48
      skip
  else if c.isDigit then
    if c = '0' then throw (.scanning start (← get).mark "found an indentation indicator equal to 0")
    increment := c.toNat - 48
    skip
    let d := (← look 0).getD ' '
    if d = '+' || d = '-' then
      chomping := if d = '+' then 1 else -1
      skip
  skipWhile isBlankChar fuel
  if (← look 0) == some '#' then skipWhile (fun c => !isBreakChar c) fuel
  if !(← breakzAt 0) then
    throw (.scanning start (← get).mark "did not find expected comment or line break")
  if ← breakAt 0 then skipLine
  let parentIndent := s.indent
  let given : Nat :=
    if increment > 0 then (if parentIndent >= 0 then (parentIndent + increment).toNat else increment) else 0
  let (indent, trailing) ← blockBreaksAt start parentIndent fuel given 0 ""
  let (text, leading, trailing) ← blockLines literal start parentIndent indent fuel "" "" trailing false
  let text := if chomping != -1 then text ++ leading else text
  let text := if chomping == 1 then text ++ trailing else text
  push (.scalar text (if literal then .literal else .folded)) start (← get).mark

/-! ## Anchors, aliases and tags -/

/-- Scans an anchor (`&name`) or an alias (`*name`). -/
def scanAnchor (isAlias : Bool) (fuel : Nat) : Scan Unit := do
  let start := (← get).mark
  skip
  let name ← readWhile isWordChar fuel ""
  let stop := (← get).mark
  let ok ← blankzAt 0
  let next := (← look 0).getD ' '
  if name.isEmpty || !(ok || "?:,]\x7d%@`".toList.contains next) then
    throw (.scanning start stop "did not find expected alphabetic or numeric character")
  push (if isAlias then .aliasRef name else .anchor name) start stop

/-- The number of bytes of a UTF-8 encoding that starts with `b`, or zero if none does. -/
def utf8Width (b : Nat) : Nat :=
  if b < 0x80 then 1 else if b / 32 = 6 then 2 else if b / 16 = 14 then 3 else if b / 8 = 30 then 4 else 0

/-- Reads the `%XX` escapes of one UTF-8 encoded character of a tag. -/
def uriEscapes (start : Mark) : Nat → Nat → List UInt8 → Scan (List UInt8)
  | 0, _, acc => pure acc
  | fuel + 1, left, acc => do
    let hi ← look 1
    let lo ← look 2
    match hi, lo with
    | some h, some l =>
      if !((← isAt 0 '%') && isHexChar h && isHexChar l) then
        throw (.scanning start (← get).mark "did not find URI escaped octet")
      let octet := hexValue h * 16 + hexValue l
      let left ←
        if left == 0 then
          let w := utf8Width octet
          if w == 0 then throw (.scanning start (← get).mark "found an incorrect leading UTF-8 octet")
          pure w
        else
          if octet / 64 != 2 then
            throw (.scanning start (← get).mark "found an incorrect trailing UTF-8 octet")
          pure left
      skip; skip; skip
      let acc := acc ++ [octet.toUInt8]
      if left ≤ 1 then pure acc else uriEscapes start fuel (left - 1) acc
    | _, _ => throw (.scanning start (← get).mark "did not find URI escaped octet")

/-- Characters of a tag's URI; a verbatim tag also allows `,`, `[` and `]`. -/
def isUriChar (verbatim : Bool) (c : Char) : Bool :=
  isWordChar c || ";/?:@&=+$.!~*'()%".toList.contains c || (verbatim && ",[]".toList.contains c)

/-- Reads the characters of a tag's URI after `acc`, decoding `%` escapes. -/
def uriChars (verbatim : Bool) (start : Mark) : Nat → String → Bool → Scan (String × Bool)
  | 0, acc, seen => pure (acc, seen)
  | fuel + 1, acc, seen => do
    match ← look 0 with
    | some c =>
      if !isUriChar verbatim c then return (acc, seen)
      if c = '%' then
        let bytes ← uriEscapes start fuel 0 []
        uriChars verbatim start fuel (acc ++ String.ofList (Text.decodeLossy bytes)) true
      else
        skip
        uriChars verbatim start fuel (acc.push c) true
    | none => pure (acc, seen)

/-- Reads a tag's URI. The `head` already read, without its leading `!`, starts it; a URI
with neither head nor characters is an error. -/
def scanUri (verbatim : Bool) (head : String) (start : Mark) (fuel : Nat) : Scan String := do
  let (uri, seen) ← uriChars verbatim start fuel (head.drop 1).toString false
  if !(seen || !head.isEmpty) then throw (.scanning start (← get).mark "did not find expected tag URI")
  return uri

/-- Reads a tag handle: `!`, `!!` or `!word!`; outside a directive also `!word`, which
is the start of a URI. -/
def tagHandle (directive : Bool) (start : Mark) (fuel : Nat) : Scan String := do
  if !(← isAt 0 '!') then throw (.scanning start (← get).mark "did not find expected '!'")
  skip
  let word ← readWhile isWordChar fuel ""
  if ← isAt 0 '!' then
    skip
    return "!" ++ word ++ "!"
  if directive && !word.isEmpty then throw (.scanning start (← get).mark "did not find expected '!'")
  return "!" ++ word

/-- Scans a tag: `!<uri>`, `!!suffix`, `!handle!suffix`, `!suffix` or `!`. -/
def scanTag (fuel : Nat) : Scan Unit := do
  let start := (← get).mark
  let (handle, suffix) ←
    if ← isAt 1 '<' then do
      skip; skip
      let uri ← scanUri true "" start fuel
      if !(← isAt 0 '>') then throw (.scanning start (← get).mark "did not find the expected '>'")
      skip
      pure ("", uri)
    else do
      let h ← tagHandle false start fuel
      if h.length > 1 && h.endsWith "!" then
        pure (h, ← scanUri false "" start fuel)
      else
        let uri ← scanUri false h start fuel
        pure (if uri.isEmpty then ("", "!") else ("!", uri))
  let s ← get
  if !((← blankzAt 0) || (s.flowLevel > 0 && (← isAt 0 ','))) then
    throw (.scanning start s.mark "did not find expected whitespace or line break")
  push (.tag handle suffix) start s.mark

/-- Reads the one- or two-digit number of a `%YAML` directive. -/
def versionNumber (start : Mark) : Nat → Nat → Nat → Scan Nat
  | 0, _, v => pure v
  | fuel + 1, length, v => do
    match ← look 0 with
    | some c =>
      if c.isDigit then
        if length + 1 > 2 then throw (.scanning start (← get).mark "found extremely long version number")
        skip
        versionNumber start fuel (length + 1) (v * 10 + (c.toNat - 48))
      else if length == 0 then throw (.scanning start (← get).mark "did not find expected version number")
      else pure v
    | none =>
      if length == 0 then throw (.scanning start (← get).mark "did not find expected version number")
      else pure v

/-- Scans a directive, `%YAML major.minor` or `%TAG handle prefix`, and the rest of its
line, which may hold a comment. -/
def scanDirective (fuel : Nat) : Scan Unit := do
  let start := (← get).mark
  skip
  let name ← readWhile isWordChar fuel ""
  if name.isEmpty then throw (.scanning start (← get).mark "could not find expected directive name")
  if !(← blankzAt 0) then
    throw (.scanning start (← get).mark "found unexpected non-alphabetical character")
  let kind ←
    if name == "YAML" then do
      skipWhile isBlankChar fuel
      let major ← versionNumber start 3 0 0
      if !(← isAt 0 '.') then
        throw (.scanning start (← get).mark "did not find expected digit or '.' character")
      skip
      let minor ← versionNumber start 3 0 0
      pure (TokenKind.versionDirective major minor)
    else if name == "TAG" then do
      skipWhile isBlankChar fuel
      let handle ← tagHandle true start fuel
      if !(← blankAt 0) then throw (.scanning start (← get).mark "did not find expected whitespace")
      skipWhile isBlankChar fuel
      let pfx ← scanUri true "" start fuel
      if !(← blankzAt 0) then
        throw (.scanning start (← get).mark "did not find expected whitespace or line break")
      pure (TokenKind.tagDirective handle pfx)
    else throw (.scanning start (← get).mark "found unknown directive name")
  let stop := (← get).mark
  skipWhile isBlankChar fuel
  if (← look 0) == some '#' then skipWhile (fun c => !isBreakChar c) fuel
  if !(← breakzAt 0) then
    throw (.scanning start (← get).mark "did not find expected comment or line break")
  if ← breakAt 0 then skipLine
  push kind start stop

/-! ## Tokens -/

def fetchStreamStart : Scan Unit := do
  modify fun s =>
    { s with indent := -1, keys := [⟨false, false, 0, s.mark⟩], keyAllowed := true, started := true }
  let m := (← get).mark
  push .streamStart m m

def fetchStreamEnd : Scan Unit := do
  let s ← get
  if s.mark.column != 0 then
    set { s with mark := { s.mark with column := 0, line := s.mark.line + 1 } }
  unrollIndent (-1) ((← get).indents.length + 1)
  removeSimpleKey
  modify fun s => { s with keyAllowed := false }
  let m := (← get).mark
  push .streamEnd m m

def fetchDirective (fuel : Nat) : Scan Unit := do
  unrollIndent (-1) ((← get).indents.length + 1)
  removeSimpleKey
  modify fun s => { s with keyAllowed := false }
  scanDirective fuel

def fetchDocumentIndicator (kind : TokenKind) : Scan Unit := do
  unrollIndent (-1) ((← get).indents.length + 1)
  removeSimpleKey
  modify fun s => { s with keyAllowed := false }
  let start := (← get).mark
  skip; skip; skip
  push kind start (← get).mark

def fetchFlowStart (kind : TokenKind) : Scan Unit := do
  saveSimpleKey
  increaseFlowLevel
  modify fun s => { s with keyAllowed := true }
  let start := (← get).mark
  skip
  push kind start (← get).mark

def fetchFlowEnd (kind : TokenKind) : Scan Unit := do
  removeSimpleKey
  decreaseFlowLevel
  modify fun s => { s with keyAllowed := false }
  let start := (← get).mark
  skip
  push kind start (← get).mark

def fetchFlowEntry : Scan Unit := do
  removeSimpleKey
  modify fun s => { s with keyAllowed := true }
  let start := (← get).mark
  skip
  push .flowEntry start (← get).mark

def fetchBlockEntry : Scan Unit := do
  let s ← get
  if s.flowLevel == 0 then
    if !s.keyAllowed then
      throw (.scanning s.mark s.mark "block sequence entries are not allowed in this context")
    rollIndent s.mark.column none .blockSequenceStart s.mark
  removeSimpleKey
  modify fun s => { s with keyAllowed := true }
  let start := (← get).mark
  skip
  push .blockEntry start (← get).mark

def fetchKey : Scan Unit := do
  let s ← get
  if s.flowLevel == 0 then
    if !s.keyAllowed then
      throw (.scanning s.mark s.mark "mapping keys are not allowed in this context")
    rollIndent s.mark.column none .blockMappingStart s.mark
  removeSimpleKey
  modify fun s => { s with keyAllowed := s.flowLevel == 0 }
  let start := (← get).mark
  skip
  push .key start (← get).mark

def fetchValue : Scan Unit := do
  if ← keyStillValid 0 then
    let s ← get
    match s.keys with
    | k :: ks =>
      insertAt (k.number - s.parsed) ⟨.key, k.mark, k.mark⟩
      rollIndent k.mark.column (some k.number) .blockMappingStart k.mark
      modify fun s => { s with keys := { k with possible := false } :: ks, keyAllowed := false }
    | [] => pure ()
  else
    let s ← get
    if s.flowLevel == 0 then
      if !s.keyAllowed then
        throw (.scanning s.mark s.mark "mapping values are not allowed in this context")
      rollIndent s.mark.column none .blockMappingStart s.mark
    modify fun s => { s with keyAllowed := s.flowLevel == 0 }
  let start := (← get).mark
  skip
  push .value start (← get).mark

/-- Whether a plain scalar may start at the current character. -/
def plainMayStart (c : Char) : Scan Bool := do
  let indicator := "-?:,[]\x7b\x7d#&*!|>'\"%@`".toList.contains c
  let blankz ← blankzAt 0
  let nextBlank ← blankAt 1
  let nextBlankz ← blankzAt 1
  let flow := (← get).flowLevel > 0
  return !(blankz || indicator) || (c = '-' && !nextBlank) ||
    (!flow && (c = '?' || c = ':') && !nextBlankz)

/-- Where the comment starts that the rest of the line holds after blanks, if it starts
within `limit` characters. -/
def commentAhead : Nat → Nat → Scan (Option Nat)
  | 0, _ => pure none
  | limit + 1, k => do
    match ← look k with
    | some c =>
      if isBlankChar c then commentAhead limit (k + 1)
      else if c = '#' then pure (some k) else pure none
    | none => pure none

/-- Passes over the rest of the line after a token when it holds only blanks and a
comment, the token's line comment. Tabs before such a comment are passed over even
where a tab cannot start a token. -/
def skipLineComment (fuel : Nat) : Scan Unit := do
  if (← commentAhead 512 0).isSome then skipWhile (fun c => !isBreakChar c) fuel

/-- Scans a token that is not a stream or document marker or a directive. -/
def fetchContent (fuel : Nat) (s : Scanner) (c : Char) : Scan Unit := do
  let flow := s.flowLevel > 0
  if c = '[' then fetchFlowStart .flowSequenceStart
  else if c = '{' then fetchFlowStart .flowMappingStart
  else if c = ']' then fetchFlowEnd .flowSequenceEnd
  else if c = '}' then fetchFlowEnd .flowMappingEnd
  else if c = ',' then fetchFlowEntry
  else if c = '?' && (flow || (← blankzAt 1)) then fetchKey
  else if c = ':' && (flow || (← blankzAt 1)) then fetchValue
  else if c = '*' then
    saveSimpleKey
    modify fun s => { s with keyAllowed := false }
    scanAnchor true fuel
  else if c = '&' then
    saveSimpleKey
    modify fun s => { s with keyAllowed := false }
    scanAnchor false fuel
  else if c = '!' then
    saveSimpleKey
    modify fun s => { s with keyAllowed := false }
    scanTag fuel
  else if (c = '|' || c = '>') && !flow then
    removeSimpleKey
    modify fun s => { s with keyAllowed := true }
    scanBlock (c = '|') fuel
  else if c = '\'' || c = '"' then
    saveSimpleKey
    modify fun s => { s with keyAllowed := false }
    scanQuoted (c = '\'') fuel
  else if ← plainMayStart c then
    saveSimpleKey
    modify fun s => { s with keyAllowed := false }
    scanPlain fuel
  else throw (.scanning s.mark s.mark "found character that cannot start any token")

/-- Scans the next token into the queue. A token other than a stream or document
marker, a directive or a block entry may be followed by its line comment. -/
def fetchNext (fuel : Nat) : Scan Unit := do
  if !(← get).started then
    fetchStreamStart
    return
  skipToToken fuel
  let s ← get
  unrollIndent s.mark.column (s.indents.length + 1)
  need 4
  let s ← get
  match ← look 0 with
  | none => fetchStreamEnd
  | some c =>
    let col0 := s.mark.column == 0
    if col0 && c = '%' then fetchDirective fuel
    else if col0 && (← isAt 1 '-') && (← isAt 2 '-') && c = '-' && (← blankzAt 3) then
      fetchDocumentIndicator .documentStart
    else if col0 && (← isAt 1 '.') && (← isAt 2 '.') && c = '.' && (← blankzAt 3) then
      fetchDocumentIndicator .documentEnd
    else if c = '-' && (← blankzAt 1) then fetchBlockEntry
    else
      fetchContent fuel s c
      skipLineComment fuel

/-- Scans until the queue holds three tokens and its head can no longer turn out to be
a key. -/
def fetchMore (fuel : Nat) : Nat → Scan Unit
  | 0 => pure ()
  | budget + 1 => do
    let s ← get
    if s.queue.length ≥ 3 then
      match s.keys.findIdx? (fun k => k.possible && k.number == s.parsed) with
      | none => return
      | some i =>
        if ← keyStillValid i then
          fetchNext fuel
          fetchMore fuel budget
        else return
    else
      fetchNext fuel
      fetchMore fuel budget

/-- The token at the head of the queue. -/
def peekToken (fuel : Nat) : Scan Token := do
  fetchMore fuel fuel
  match (← get).queue with
  | t :: _ => return t
  | [] => throw (.general "unexpected end of tokens")

/-- Takes the head token off the queue. -/
def skipToken : Scan Unit :=
  modify fun s => { s with queue := s.queue.drop 1, parsed := s.parsed + 1 }

end HelpMan.Yaml
