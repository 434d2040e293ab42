import HelpMan.Text.Lower

/-!
# Sections of a help text

A utility's help text is divided into five sections, each introduced by a header line:
`commands:`, `summary:`, `options:`, `details:` and `examples:`. A line is a header when
its lower case is exactly one of these (`Section.ofHeader?`). The sections are numbered
in that order from zero (`Section.index`, `Section.ofIndex?`); a number outside the range
names no section, and its header and name are empty (`headerAt`, `nameAt`).
-/

namespace HelpMan.Help

/-- The five sections of a help text. -/
inductive Section where
  | commands
  | summary
  | options
  | details
  | examples
  deriving DecidableEq, Repr

namespace Section

/-- The sections in their order. -/
def all : List Section := [commands, summary, options, details, examples]

/-- The header line that opens the section. -/
def header : Section → String
  | commands => "commands:"
  | summary => "summary:"
  | options => "options:"
  | details => "details:"
  | examples => "examples:"

/-- The section's name: its header without the colon. -/
def name : Section → String
  | commands => "commands"
  | summary => "summary"
  | options => "options"
  | details => "details"
  | examples => "examples"

theorem header_eq_name_colon (s : Section) : s.header = s.name ++ ":" := by
  cases s <;> rfl

/-- The section's number, from zero. -/
def index : Section → Nat
  | commands => 0
  | summary => 1
  | options => 2
  | details => 3
  | examples => 4

/-- The section with a given number, if there is one. -/
def ofIndex? (n : Int) : Option Section :=
  all.find? (fun s => (s.index : Int) == n)

theorem ofIndex?_index (s : Section) : ofIndex? s.index = some s := by
  cases s <;> rfl

/-- The section that a (trimmed) line opens, if it is a header. -/
def ofHeader? (line : String) : Option Section :=
  let lowered := Text.lowerText line
  all.find? (fun s => lowered == s.header)

end Section

/-- The header of the section with number `n`, or the empty text. -/
def headerAt (n : Int) : String := ((Section.ofIndex? n).map Section.header).getD ""

/-- The name of the section with number `n`, or the empty text. -/
def nameAt (n : Int) : String := ((Section.ofIndex? n).map Section.name).getD ""

end HelpMan.Help
