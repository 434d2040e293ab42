/-!
# Markdown documents

The page of the program itself is written as a Markdown document and then set in troff.
The documents it writes use a small part of Markdown, and this module holds the shape
of that part.

Inside a block, text runs are plain text, strong text (`**bold**`), HTML tags such as
`<utility>`, which a page does not show, and hard line breaks (two spaces at the end of a
line). The blocks are a title block (lines starting with `%`), headings (`# NAME`),
paragraphs, and fenced code (between lines of three grave accents).

A text run is kept as the reader found it: where the reader stopped at a construct and
went on, the text is cut in two, and troff sees the two pieces apart.
-/

namespace HelpMan.Markdown

/-- A run of inline content. -/
inductive Inline where
  | text (s : String)
  | strong (body : List Inline)
  | html (raw : String)
  | lineBreak
  deriving Repr, Inhabited

/-- A block of a document. -/
inductive Block where
  /-- The title block, the lines starting with `%` at the top of a document. -/
  | title (content : List Inline)
  | heading (level : Nat) (content : List Inline)
  | paragraph (content : List Inline)
  /-- Fenced code, with the line feed after each of its lines. -/
  | code (literal : String)
  deriving Repr, Inhabited

/-- A document: its blocks in order. -/
abbrev Document := List Block

/-- The characters Markdown counts as white space between words. -/
def isSpace (c : Char) : Bool :=
  c = ' ' || c = '\t' || c = '\n' || c = '\r' || c = '\x0c' || c = '\x0b'

/-- ASCII letters and digits. -/
def isAlnum (c : Char) : Bool :=
  ('a' ≤ c && c ≤ 'z') || ('A' ≤ c && c ≤ 'Z') || ('0' ≤ c && c ≤ '9')

end HelpMan.Markdown
