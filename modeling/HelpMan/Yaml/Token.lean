/-!
# YAML tokens

A YAML text is cut into tokens: markers of the stream and of documents, the starts and
ends of block and flow collections, entry, key and value indicators, anchors, aliases,
tags and scalars. Every token carries the marks of where it starts and stops: the offset
in characters, the line and the column, all from zero.

A text that is not YAML is refused with a `Problem`. A problem found while cutting
tokens reports its line as one more than the line of the mark that it names; a problem
found while reading the structure reports the line of its mark as it is, and so counts
from zero; a problem on the first line, either way, names no line (`Problem.message`).
-/

namespace HelpMan.Yaml

/-- A position in the text: offset, line and column, from zero. -/
structure Mark where
  index : Nat
  line : Nat
  column : Nat
  deriving DecidableEq, Repr, Inhabited

/-- How a scalar is written. -/
inductive Style where
  | plain
  | single
  | double
  | literal
  | folded
  deriving DecidableEq, Repr

/-- The kinds of tokens. -/
inductive TokenKind where
  | streamStart
  | streamEnd
  | documentStart
  | documentEnd
  | versionDirective (major minor : Nat)
  | tagDirective (handle pfx : String)
  | blockSequenceStart
  | blockMappingStart
  | blockEnd
  | flowSequenceStart
  | flowSequenceEnd
  | flowMappingStart
  | flowMappingEnd
  | blockEntry
  | flowEntry
  | key
  | value
  | aliasRef (name : String)
  | anchor (name : String)
  | tag (handle suffix : String)
  | scalar (text : String) (style : Style)
  deriving DecidableEq, Repr

/-- A token with the marks where it starts and stops. -/
structure Token where
  kind : TokenKind
  start : Mark
  stop : Mark
  deriving DecidableEq, Repr

/-- Why a text is not YAML. -/
inductive Problem where
  /-- Found while cutting tokens: the mark of the construct, the mark of the fault. -/
  | scanning (context fault : Mark) (what : String)
  /-- Found while reading the structure: the mark of the construct, if any, and of the
  fault. -/
  | parsing (context : Option Mark) (fault : Mark) (what : String)
  /-- Found with no position. -/
  | general (what : String)
  deriving DecidableEq, Repr

/-- `line n: ` for a line other than zero. -/
def linePrefix (n : Nat) : String := if n = 0 then "" else "line " ++ toString n ++ ": "

/-- The message of a problem. -/
def Problem.message : Problem → String
  | .scanning c a w =>
    let n := if c.line ≠ 0 then c.line + 1 else if a.line ≠ 0 then a.line + 1 else 0
    "yaml: " ++ linePrefix n ++ w
  | .parsing c a w =>
    let n := match c with
      | some c => if c.line ≠ 0 then c.line else a.line
      | none => a.line
    "yaml: " ++ linePrefix n ++ w
  | .general w => "yaml: " ++ w

end HelpMan.Yaml
