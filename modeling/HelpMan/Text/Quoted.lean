import HelpMan.Text.Printable

/-!
# Quoted texts

A quoted text stands between double quotes. The quote and the backslash get a backslash
in front; printable characters stand for themselves; bell, backspace, form feed, line
feed, carriage return, tab and vertical tab are written `\a \b \f \n \r \t \v`; other
characters below the space and delete are written `\x` and two hex digits, the rest
`\u` and four hex digits, or `\U` and eight above the basic plane. Hex digits are small
letters.

The quoted form is a map of escapes (`quote`), so quoting distributes over appending
(`quoteBody_append`). A single character can be quoted between apostrophes instead
(`quoteChar`), where the apostrophe is the one that gets a backslash. The ASCII forms
(`quoteAscii`, `quoteCharAscii`) escape every character outside printable ASCII too.
-/

namespace HelpMan.Text

/-- The `width` small hex digits of `n`, most significant first. -/
def hexDigits (width : Nat) (n : Nat) : List Char :=
  (List.range width).reverse.map fun i =>
    let d := n / Nat.pow 16 i % 16
    if d < 10 then Char.ofNat (0x30 + d) else Char.ofNat (0x57 + d)

/-- The escape of a character that does not stand for itself inside quotes. -/
def escapeCode (c : Char) : List Char :=
  if c = '\x07' then ['\\', 'a']
  else if c = '\x08' then ['\\', 'b']
  else if c = '\x0c' then ['\\', 'f']
  else if c = '\n' then ['\\', 'n']
  else if c = '\r' then ['\\', 'r']
  else if c = '\t' then ['\\', 't']
  else if c = '\x0b' then ['\\', 'v']
  else if c.toNat < 0x20 ∨ c.toNat = 0x7F then '\\' :: 'x' :: hexDigits 2 c.toNat
  else if c.toNat < 0x10000 then '\\' :: 'u' :: hexDigits 4 c.toNat
  else '\\' :: 'U' :: hexDigits 8 c.toNat

/-- The escape of one character inside quotes whose quote character is `q`. -/
def escapeIn (q : Char) (c : Char) : List Char :=
  if c = q ∨ c = '\\' then ['\\', c]
  else if isPrintable c then [c]
  else escapeCode c

/-- The escape of one character inside quotes whose quote character is `q`, where only
printable ASCII characters stand for themselves. -/
def escapeAsciiIn (q : Char) (c : Char) : List Char :=
  if c = q ∨ c = '\\' then ['\\', c]
  else if c.toNat < 0x80 ∧ isPrintable c then [c]
  else escapeCode c

/-- The characters between the quotes. -/
def quoteBody (cs : List Char) : List Char := cs.flatMap (escapeIn '"')

theorem quoteBody_append (s t : List Char) : quoteBody (s ++ t) = quoteBody s ++ quoteBody t :=
  List.flatMap_append

/-- A text between double quotes, escaped. -/
def quote (s : String) : String := String.ofList ('"' :: quoteBody s.toList ++ ['"'])

/-- A character between apostrophes, escaped. -/
def quoteChar (c : Char) : String := String.ofList ('\'' :: escapeIn '\'' c ++ ['\''])

/-- A text between double quotes, escaped, with every character outside printable ASCII
written as an escape. -/
def quoteAscii (s : String) : String := String.ofList ('"' :: s.toList.flatMap (escapeAsciiIn '"') ++ ['"'])

/-- A character between apostrophes, escaped as in `quoteAscii`. -/
def quoteCharAscii (c : Char) : String := String.ofList ('\'' :: escapeAsciiIn '\'' c ++ ['\''])

example : quote "a\"b\\\n\x01é​" = "\"a\\\"b\\\\\\n\\x01é\\u200b\"" := by decide +kernel

end HelpMan.Text
