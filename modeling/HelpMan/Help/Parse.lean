import HelpMan.Help.Basic
import HelpMan.Text.Lines

/-!
# Reading a help text

The text is cut into lines at line feeds, and each line is trimmed of blank characters.
A header line opens its section; lines before the first header are dropped. Under
`commands:` a line is a command entry when it has a blank character: the name is what
comes before the first one, and the description is the rest with leading hyphens,
spaces and tabs removed and then trimmed (`Command.ofLine?`); lines with no blank, and
lines that mention `alias for`, are skipped. Under any other header the lines are
collected as they are (`parse`).

An options section is read the same way line by line (`parseOptions`): blank lines are
skipped, a line that starts with a hyphen opens an option entry, and the lines after it
describe that entry until the next one; lines before the first entry are dropped.
-/

namespace HelpMan.Help

open Text

/-- The command entry a trimmed line of the `commands` section gives, if any. -/
def Command.ofLine? (line : List Char) : Option Command :=
  match line.span (fun c => !isBlank c) with
  | (_, []) => none
  | (name, rest) =>
    if isInfix "alias for".toList line then none
    else some ⟨String.ofList name, String.ofList (trimBlank (dropSet ['-', ' ', '\t'] rest))⟩

/-- The reader's position: before any header, or inside a section. -/
abbrev Cursor := Option Section

/-- Reads one line. -/
def step : Cursor × Record → List Char → Cursor × Record
  | (cur, r), raw =>
    let line := trimBlank raw
    match Section.ofHeader? (String.ofList line) with
    | some s => (some s, r.reopen s)
    | none =>
      match cur with
      | none => (none, r)
      | some .commands =>
        (cur, match Command.ofLine? line with
          | some c => r.addCommand c
          | none => r)
      | some s => (cur, r.addLine s (String.ofList line))

/-- Reads a text given as its lines. -/
def parseLines (lines : List (List Char)) : Record := (lines.foldl step (none, Record.empty)).2

/-- Reads a help text. -/
def parse (text : String) : Record := parseLines (splitOn '\n' text.toList)

/-- One entry of an options section: the line that names the flags, and the lines that
describe them. -/
structure OptionEntry where
  flags : String
  description : List String
  deriving DecidableEq, Repr

/-- Reads one line of an options section into the finished entries and the open one. -/
def optionStep : List OptionEntry × Option OptionEntry → List Char → List OptionEntry × Option OptionEntry
  | (done, cur), raw =>
    match trimBlank raw with
    | [] => (done, cur)
    | '-' :: rest => (done ++ cur.toList, some ⟨String.ofList ('-' :: rest), []⟩)
    | line =>
      match cur with
      | none => (done, none)
      | some o => (done, some { o with description := o.description ++ [String.ofList line] })

/-- The option entries of an options section, in order. -/
def parseOptions (text : String) : List OptionEntry :=
  let (done, cur) := (splitOn '\n' text.toList).foldl optionStep ([], none)
  done ++ cur.toList

end HelpMan.Help
