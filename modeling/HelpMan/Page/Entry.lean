import HelpMan.Text.Blank
import HelpMan.Text.Lines
import HelpMan.Text.Quoted

/-!
# Files and environment entries

A page can document files and environment variables, each with a description. Files are
given on the command line as a list with one entry per line, the path and its description
divided by the first tab (`parseFiles`). The empty list has no entries; any other list
has one entry per line, and the first line without a tab is refused with its number,
counted from one, and its text (`BadEntry`).

Extra references for the end of a page are given as one text divided by tabs; each piece
is trimmed and empty pieces are dropped (`splitRefs`).
-/

namespace HelpMan.Page

/-- A file that the page documents. -/
structure FileEntry where
  path : String
  description : String
  deriving DecidableEq, Repr

/-- An environment variable that the page documents. -/
structure EnvVar where
  name : String
  description : String
  deriving DecidableEq, Repr

/-- A line of a files list that has no tab: its number from one and its text. -/
structure BadEntry where
  line : Nat
  entry : String
  deriving DecidableEq, Repr

/-- The message for a line of a files list without a tab. -/
def BadEntry.message (e : BadEntry) : String :=
  "files entry " ++ toString e.line ++ " " ++ Text.quote e.entry ++
    ": expected \"<path>\\t<description>\""

/-- Reads the lines of a files list, the first of them numbered `n`. -/
def parseFileLines (n : Nat) : List (List Char) → Except BadEntry (List FileEntry)
  | [] => .ok []
  | l :: ls =>
    match Text.cut '\t' l with
    | none => .error ⟨n, String.ofList l⟩
    | some (p, d) => (parseFileLines (n + 1) ls).map (⟨String.ofList p, String.ofList d⟩ :: ·)

/-- Reads a files list. -/
def parseFiles (list : String) : Except BadEntry (List FileEntry) :=
  if list = "" then .ok [] else parseFileLines 1 (Text.splitOn '\n' list.toList)

/-- The references of a tab-separated list, trimmed, without empty ones. -/
def splitRefs (list : String) : List String :=
  (Text.splitOn '\t' list.toList).filterMap fun piece =>
    match Text.trimBlank piece with
    | [] => none
    | ref => some (String.ofList ref)

end HelpMan.Page
