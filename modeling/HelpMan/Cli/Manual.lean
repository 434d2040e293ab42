import HelpMan.Cli.Command
import HelpMan.Clock.Civil
import HelpMan.Markdown.Read
import HelpMan.Markdown.Troff

/-!
# The program's own man page

The man page of the program is written as a Markdown document (`manualMarkdown`) and
set in troff (`manualPage`). The document has a title block, then the sections `NAME`
(the name and the summary), `SYNOPSIS` (the use line in bold), `DESCRIPTION`, `OPTIONS`
(each flag in bold with its default and its usage), `EXAMPLE` (as code), `SEE ALSO` (the
pages of the subcommands offered to the user) and `HISTORY`, which gives the date the
page was made.
-/

namespace HelpMan.Cli

open Markdown

/-- The version of the program. -/
def programVersion : String := "dev"

/-- The commit the program was built from. -/
def programCommit : String := "unknown"

/-- When the program was built. -/
def programBuilt : String := "unknown"

/-- What `version` prints. -/
def versionText : String :=
  "genman version " ++ programVersion ++ "\nGit commit: " ++ programCommit ++ "\nBuilt: " ++ programBuilt ++ "\n"

/-- A flag's entry under `OPTIONS`: its names in bold, then its default (quoted for a text
flag, in brackets for a switch), and its usage on an indented line. -/
def flagEntry (f : Flag) : String :=
  let names := match f.short with
    | some c => "**-" ++ c.toString ++ "**, **--" ++ f.name ++ "**"
    | none => "**--" ++ f.name ++ "**"
  let default := match f.kind with
    | .text => "=\"\""
    | .switch => "[=false]"
  names ++ default ++ "\n\t" ++ f.usage ++ "\n\n"

/-- The Markdown document of a command's man page. -/
def manualMarkdown (t : Tree) (c : Command) (now : Clock.Reading) : String :=
  let dashed := String.map (fun ch => if ch = ' ' then '-' else ch) c.path
  let description := if c.long.isEmpty then c.short else c.long
  let options :=
    "# OPTIONS\n" ++ String.join ((sortFlags c.ownFlags).map flagEntry) ++ "\n" ++
    (if c.inheritedFlags.isEmpty then ""
     else "# OPTIONS INHERITED FROM PARENT COMMANDS\n" ++
       String.join ((sortFlags c.inheritedFlags).map flagEntry) ++ "\n")
  let exampleSection := if c.examples.isEmpty then "" else "# EXAMPLE\n```\n" ++ c.examples ++ "\n```\n"
  let seeAlso := (c.offered t).mergeSort (fun a b => decide (a.name ≤ b.name)) |>.map
    fun s => "**" ++ dashed ++ "-" ++ s.name ++ "(1)**"
  "% \"GENMAN\" \"1\" \"" ++ now.monthYear ++ "\" \"genman " ++ programVersion ++ "\" \"User Commands\"\n" ++
  "# NAME\n" ++ dashed ++ " \\- " ++ c.short ++ "\n\n" ++
  "# SYNOPSIS\n**" ++ c.useLine ++ "**\n\n" ++
  "# DESCRIPTION\n" ++ description ++ "\n\n" ++
  options ++ exampleSection ++
  (if seeAlso.isEmpty then "" else "# SEE ALSO\n" ++ ", ".intercalate seeAlso ++ "\n") ++
  "# HISTORY\n" ++ now.dayMonthYear ++ " Auto generated by spf13/cobra\n"

/-- The man page of the program, for a tree of commands. -/
def manualPage (t : Tree) (now : Clock.Reading) : String :=
  (Document.read (manualMarkdown t .main now)).troff

end HelpMan.Cli
