import HelpMan.Page.Params

/-!
# Rendering a page

A page is a fixed sequence of parts (`render`): a comment preamble that names the
utility and the generation time and defines the `Aq` string; the title line and the
name section; the synopsis, of the utility or of the subcommand; the description with
its options; the command overview; the environment; the files; the see-also section;
the extra references. The parts are written in that order and each one ends with a line
feed, so every part of the page is a line-aligned block.
-/

namespace HelpMan.Page

open Help Troff

/-- The comment preamble. -/
def preamble (p : Params) : String :=
  ".\\\"Man page for " ++ p.rawCommand ++ "\n" ++
  ".\\\"\n" ++
  ".\\\" Large parts of this file are autogenerated from the output of\n" ++
  ".\\\"     \"" ++ p.rawCommand ++ " help commands\"\n" ++
  ".\\\"     \"" ++ p.rawCommand ++ " help <command>\"\n" ++
  ".\\\"\n" ++
  ".\\\" Generation time: " ++ p.timestamp ++ "\n" ++
  ".\\\"\n" ++
  "\n" ++
  ".ie \\n(.g .ds Aq \\(aq\n" ++
  ".el .ds Aq '\n"

/-- The title line and the name section. -/
def head (p : Params) : String :=
  ".TH " ++ p.page ++ " 1 \"" ++ p.datestamp ++ "\" \"" ++ p.version ++ "\" \"" ++ p.title ++ "\"\n" ++
  ".SH \"NAME\"\n" ++
  p.page ++ " \\-\\- " ++ p.summary ++ "\n"

/-- The synopsis of a utility with commands. -/
def synopsis (p : Params) : String :=
  ".SH \"SYNOPSIS\"\n" ++
  ".B \"" ++ p.command ++ "\"\n" ++
  ".I \"command\"\n" ++
  "[\n" ++
  ".I \"command_options\"\n" ++
  "]\n" ++
  ".br\n" ++
  ".B \"" ++ p.command ++ "\"\n" ++
  ".B \"help\"\n" ++
  ".br\n" ++
  ".B \"" ++ p.command ++ "\"\n" ++
  ".B \"help\"\n" ++
  ".I \"command\"\n"

/-- The synopsis of a subcommand. -/
def subcommandSynopsis (p : Params) : String :=
  ".SH \"SYNOPSIS\"\n" ++
  ".B \"" ++ p.command ++ " " ++ p.subcommand ++ "\"\n" ++
  "[\n" ++
  ".I \"options\"\n" ++
  "]\n" ++
  ".br\n" ++
  ".B \"" ++ p.command ++ " " ++ p.subcommand ++ "\"\n" ++
  ".B \"help\"\n"

/-- The description section, with the options section after it when there is one. -/
def description (p : Params) : String :=
  ".SH \"DESCRIPTION\"\n" ++
  (if p.description = "" then "" else p.description ++ "\n") ++
  (if p.hasOptions then ".SH \"OPTIONS\"\n" ++ p.options else "")

/-- The whole page. -/
def render (p : Params) (commands : List Command) (env : List EnvVar) (also : List String) :
    String :=
  preamble p ++ head p ++ (if p.hasSubcommand then subcommandSynopsis p else synopsis p) ++
    description p ++ formatCommandOverview p.rawCommand commands ++ formatEnvironment env ++
    formatFiles p.files ++ formatSeeAlso p.rawCommand commands ++ formatAlso also

end HelpMan.Page
