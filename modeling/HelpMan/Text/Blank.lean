/-!
# Blank characters

A character is blank when it has the Unicode `White_Space` property: the five controls
tab to carriage return, space, next line, no-break space, ogham space mark, the eleven
spaces from en quad to hair space, the line and paragraph separators, narrow no-break
space, medium mathematical space and ideographic space. Zero-width space and the byte
order mark are not blank.

Trimming removes blank characters from both ends of a text (`trimBlank`); the other
trims of this module remove the characters of a given set (`trimSet`, `dropSet`).
The blank table contains every character that core calls whitespace
(`isBlank_of_isWhitespace`).
-/

namespace HelpMan.Text

/-- The Unicode `White_Space` property, as a test on code points. -/
def isBlank (c : Char) : Bool :=
  let n := c.toNat
  (0x09 ≤ n && n ≤ 0x0D) || n == 0x20 || n == 0x85 || n == 0xA0 || n == 0x1680 ||
    (0x2000 ≤ n && n ≤ 0x200A) || n == 0x2028 || n == 0x2029 || n == 0x202F ||
    n == 0x205F || n == 0x3000

/-- Every character that core calls whitespace is blank. -/
theorem isBlank_of_isWhitespace {c : Char} (h : c.isWhitespace = true) : isBlank c = true := by
  simp only [Char.isWhitespace, Bool.or_eq_true, decide_eq_true_eq] at h
  rcases h with ((h | h) | h) | h <;> simp [isBlank, h, Char.toNat]

example : isBlank (Char.ofNat 0xA0) ∧ isBlank (Char.ofNat 0x3000) ∧ ¬ isBlank (Char.ofNat 0x200B) ∧
    ¬ isBlank (Char.ofNat 0xFEFF) ∧ isBlank '\x0b' := by decide

/-- Removes the blank characters at the start. -/
def dropBlank (cs : List Char) : List Char := cs.dropWhile isBlank

/-- Removes the blank characters at both ends. -/
def trimBlank (cs : List Char) : List Char := (dropBlank (dropBlank cs).reverse).reverse

/-- Removes the characters of `set` at the start. -/
def dropSet (set : List Char) (cs : List Char) : List Char := cs.dropWhile (· ∈ set)

/-- Removes the characters of `set` at both ends. -/
def trimSet (set : List Char) (cs : List Char) : List Char :=
  (dropSet set (dropSet set cs).reverse).reverse

end HelpMan.Text

namespace String

/-- The text with its blank characters removed from both ends. -/
def trimBlank (s : String) : String := String.ofList (HelpMan.Text.trimBlank s.toList)

/-- The text is empty once its blank characters are removed. -/
def isBlankText (s : String) : Bool := (HelpMan.Text.trimBlank s.toList).isEmpty

end String
