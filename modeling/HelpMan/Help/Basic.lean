import HelpMan.Help.Section
import HelpMan.Text.Blank

/-!
# What a help text says

A parsed help text (`Record`) holds the command entries listed under `commands:`, in
their order, and for each other section the lines it collected since its header last
appeared. A section whose header never appeared is absent (`Record.has`). The text of a
section is its lines joined by line feeds, without line feeds at either end
(`Record.text`); the `commands` section never collects lines, so its text is empty.
-/

namespace HelpMan.Help

/-- One entry of the `commands` section: a subcommand's name and what it does. -/
structure Command where
  name : String
  description : String
  deriving DecidableEq, Repr

/-- A parsed help text. -/
structure Record where
  /-- The command entries, in the order of the text. -/
  commands : List Command
  /-- The lines of each section since its header last appeared, or `none` if it never did. -/
  body : Section → Option (List String)

namespace Record

/-- The record of a text with no header. -/
def empty : Record := ⟨[], fun _ => none⟩

/-- Whether the section's header appeared. -/
def has (r : Record) (s : Section) : Bool := (r.body s).isSome

/-- The section's lines joined by line feeds, with line feeds trimmed from both ends. -/
def text (r : Record) (s : Section) : String :=
  String.ofList (Text.trimSet ['\n'] ("\n".intercalate ((r.body s).getD [])).toList)

/-- A header (re)opens its section: the section is present and starts with no lines. -/
def reopen (r : Record) (s : Section) : Record :=
  { r with body := fun t => if t = s then some [] else r.body t }

/-- A line joins the section that is open. -/
def addLine (r : Record) (s : Section) (line : String) : Record :=
  { r with body := fun t => if t = s then some ((r.body s).getD [] ++ [line]) else r.body t }

/-- A command entry joins the list. -/
def addCommand (r : Record) (c : Command) : Record :=
  { r with commands := r.commands ++ [c] }

@[simp] theorem has_reopen (r : Record) (s t : Section) :
    (r.reopen s).has t = (t = s || r.has t) := by
  by_cases h : t = s <;> simp [reopen, has, h]

@[simp] theorem commands_reopen (r : Record) (s : Section) : (r.reopen s).commands = r.commands := rfl

@[simp] theorem commands_addLine (r : Record) (s : Section) (line : String) :
    (r.addLine s line).commands = r.commands := rfl

@[simp] theorem commands_addCommand (r : Record) (c : Command) :
    (r.addCommand c).commands = r.commands ++ [c] := rfl

end Record

/-- The text of the section numbered `n` and whether it is present; a number that names
no section gives the empty text, absent. -/
def Record.textAt (r : Record) (n : Int) : String × Bool :=
  match Section.ofIndex? n with
  | some s => (r.text s, r.has s)
  | none => ("", false)

end HelpMan.Help
