import HelpMan.Help.Parse

/-!
# How the reader keeps a help text

While it reads, the reader keeps three things for each section: whether its header
appeared, a counter of the lines the section has collected since, and the text they make.
A line is written to that text after a line feed, unless the counter says it is the
section's first (`Store.appendLine`); the counter, not the length of the text, decides, so
an empty first line gets no line feed before it either. A header starts its section
afresh: present, with no lines and an empty text (`Store.reopen`). Asked for a section,
the store gives its text with line feeds trimmed from both ends, and whether it is present
(`Store.textOf`). The lines of a help text are read as `parse` reads them (`Store.parse`).

The counter is a machine integer; it is kept here as a natural number, since a section
cannot collect more lines than there are bytes in the text.
-/

namespace HelpMan.Help

open Text

/-- A help text as the reader keeps it while it reads. -/
@[ext]
structure Store where
  /-- The command entries, in the order of the text. -/
  commands : List Command
  /-- Whether the section's header appeared. -/
  present : Section → Bool
  /-- How many lines the section has collected since its header last appeared. -/
  lines : Section → Nat
  /-- The section's lines as written so far. -/
  text : Section → String

namespace Store

/-- The store before any line is read. -/
def empty : Store := ⟨[], fun _ => false, fun _ => 0, fun _ => ""⟩

/-- A line joins the section, after a line feed unless it is the section's first line. -/
def appendLine (h : Store) (s : Section) (line : String) : Store :=
  { h with
    lines := fun t => if t = s then h.lines s + 1 else h.lines t
    text := fun t =>
      if t = s then (if 0 < h.lines s then h.text s ++ "\n" else h.text s) ++ line else h.text t }

/-- A header starts its section afresh: present, with no lines and an empty text. -/
def reopen (h : Store) (s : Section) : Store :=
  { h with
    present := fun t => if t = s then true else h.present t
    lines := fun t => if t = s then 0 else h.lines t
    text := fun t => if t = s then "" else h.text t }

/-- A command entry joins the list. -/
def addCommand (h : Store) (c : Command) : Store := { h with commands := h.commands ++ [c] }

/-- The section's text with line feeds trimmed from both ends, and whether it is present. -/
def textOf (h : Store) (s : Section) : String × Bool :=
  (String.ofList (trimSet ['\n'] (h.text s).toList), h.present s)

/-- Reads one line. -/
def step : Cursor × Store → List Char → Cursor × Store
  | (cur, h), raw =>
    let line := trimBlank raw
    match Section.ofHeader? (String.ofList line) with
    | some s => (some s, h.reopen s)
    | none =>
      match cur with
      | none => (none, h)
      | some .commands =>
        (cur, match Command.ofLine? line with
          | some c => h.addCommand c
          | none => h)
      | some s => (cur, h.appendLine s (String.ofList line))

/-- Reads a help text. -/
def parse (text : String) : Store := ((splitOn '\n' text.toList).foldl step (none, empty)).2

section Fields

variable (h : Store) (s t : Section)

@[simp] theorem present_appendLine (line : String) : (h.appendLine s line).present = h.present := rfl

@[simp] theorem commands_appendLine (line : String) : (h.appendLine s line).commands = h.commands := rfl

@[simp] theorem lines_appendLine (line : String) :
    (h.appendLine s line).lines t = if t = s then h.lines s + 1 else h.lines t := rfl

@[simp] theorem text_appendLine (line : String) :
    (h.appendLine s line).text t =
      if t = s then (if 0 < h.lines s then h.text s ++ "\n" else h.text s) ++ line else h.text t := rfl

@[simp] theorem present_reopen : (h.reopen s).present t = (t = s || h.present t) := by
  by_cases ht : t = s <;> simp [reopen, ht]

@[simp] theorem commands_reopen : (h.reopen s).commands = h.commands := rfl

@[simp] theorem lines_reopen : (h.reopen s).lines t = if t = s then 0 else h.lines t := rfl

@[simp] theorem text_reopen : (h.reopen s).text t = if t = s then "" else h.text t := rfl

@[simp] theorem commands_addCommand (c : Command) : (h.addCommand c).commands = h.commands ++ [c] := rfl

@[simp] theorem present_addCommand (c : Command) : (h.addCommand c).present = h.present := rfl

@[simp] theorem lines_addCommand (c : Command) : (h.addCommand c).lines = h.lines := rfl

@[simp] theorem text_addCommand (c : Command) : (h.addCommand c).text = h.text := rfl

end Fields

end Store

end HelpMan.Help
