import HelpMan.Help.Parse
import HelpMan.Page.Entry
import HelpMan.Troff.Escape

/-!
# Blocks of a page

Each part of a page that lists things is a block of troff requests built from escaped
text:

* options: for each entry a paragraph `.PP`, the flags in bold, and the description
  lines indented by four (`.RS 4` … `.RE`); absent when the help text has no options
  section (`formatOptions`);
* files and environment variables: a section of tagged paragraphs `.TP` with the name
  in italics (`formatFiles`, `formatEnvironment`);
* the command overview: a tagged paragraph per command, tagged with the utility and the
  command in bold (`formatCommandOverview`);
* see also: references to the pages of the commands, or to the utility's own page when
  it lists none (`formatSeeAlso`);
* extra references, each as a URL block (`formatAlso`).

A block with nothing to list is empty, except that see-also always names a page.
-/

namespace HelpMan.Troff

open Page Help

/-- The block for one option entry. -/
def optionBlock (o : OptionEntry) : String :=
  ".PP\n" ++ "\\fB" ++ escape o.flags ++ "\\fR\n" ++ ".RS 4\n" ++
    String.join (o.description.map fun line => escape line ++ "\n") ++ ".RE\n"

/-- The options of a section's text, and whether the section is present. -/
def formatOptions (text : String) (present : Bool) : String × Bool :=
  if present then (String.join ((parseOptions text).map optionBlock), true) else ("", false)

/-- A tagged paragraph with an italic tag. -/
def taggedItem (tag body : String) : String :=
  ".TP\n" ++ ".I \"" ++ tag ++ "\"\n" ++ body ++ "\n"

/-- The files section. -/
def formatFiles (files : List FileEntry) : String :=
  if files.isEmpty then ""
  else ".SH \"FILES\"\n" ++
    String.join (files.map fun f => taggedItem (escape f.path) (escape f.description))

/-- The environment section; descriptions are trimmed. -/
def formatEnvironment (vars : List EnvVar) : String :=
  if vars.isEmpty then ""
  else ".SH \"ENVIRONMENT\"\n" ++
    String.join (vars.map fun v => taggedItem (escape v.name) (escape v.description.trimBlank))

/-- The command overview section of a utility. -/
def formatCommandOverview (command : String) (commands : List Command) : String :=
  if commands.isEmpty then ""
  else ".SH \"COMMAND OVERVIEW\"\n" ++
    String.join (commands.map fun c =>
      ".TP\n" ++ ".B \"" ++ escape command ++ " " ++ escape c.name ++ "\"\n" ++
        escape c.description ++ "\n")

/-- A bold reference to a page of section one. -/
def manRef (page : String) : String := "\\fB" ++ escape page ++ "\\fR(1)"

/-- The see-also section: the commands' pages, or the utility's own. -/
def formatSeeAlso (command : String) (commands : List Command) : String :=
  let refs := match commands with
    | [] => [manRef command]
    | cs => cs.map fun c => manRef (command ++ "-" ++ c.name)
  ".SH \"SEE ALSO\"\n" ++ ", ".intercalate refs ++ "\n"

/-- The extra references, each as a URL block. -/
def formatAlso (refs : List String) : String :=
  String.join (refs.map fun r => ".UR " ++ escape r ++ "\n.UE\n")

end HelpMan.Troff
