/-!
# Escaping text for troff

Text set in a page goes through one pass that replaces four characters and leaves all
others alone: a backslash becomes two, a grave accent becomes the acute-accent escape
`\'`, an apostrophe becomes the `Aq` string `\*(Aq`, and a hyphen becomes the minus
escape `\-`. Replacements are never replaced again, so escaping is a homomorphism of
texts (`escapeList_append`) that keeps every other character (`escapeChar_of_plain`).
-/

namespace HelpMan.Troff

/-- The replacement of one character. -/
def escapeChar : Char → List Char
  | '\\' => ['\\', '\\']
  | '`' => ['\\', '\'']
  | '\'' => ['\\', '*', '(', 'A', 'q']
  | '-' => ['\\', '-']
  | c => [c]

/-- Escapes a text given as its characters. -/
def escapeList (cs : List Char) : List Char := cs.flatMap escapeChar

/-- Escapes a text for troff. -/
def escape (s : String) : String := String.ofList (escapeList s.toList)

theorem escapeList_append (s t : List Char) :
    escapeList (s ++ t) = escapeList s ++ escapeList t :=
  List.flatMap_append

/-- A character that is not one of the four is kept. -/
theorem escapeChar_of_plain {c : Char} (h1 : c ≠ '\\') (h2 : c ≠ '`') (h3 : c ≠ '\'') (h4 : c ≠ '-') :
    escapeChar c = [c] := by
  unfold escapeChar
  split <;> simp_all

example : escape "a-b\\c`d'e" = "a\\-b\\\\c\\'d\\*(Aqe" := by decide +kernel

end HelpMan.Troff
