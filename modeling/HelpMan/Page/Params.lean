import HelpMan.Clock.Civil
import HelpMan.Troff.Blocks

/-!
# Page parameters

A request names the utility, and optionally a subcommand, a title, a version, a files
list and extra references. With the parsed help text and the current moment it gives
the parameters of the page (`Params.make`): every text that the page shows, escaped once
for troff; the version defaults to `0.0.1`; the options block is built from the options
section; examples count only when present and not empty. A files list with a line that
has no tab is refused, before anything else is looked at.

The page is named after the utility, or after the utility and the subcommand joined by
a minus (`Params.page`); the page's file is `<utility>.1` or `<utility>-<subcommand>.1`
(`filename`).
-/

namespace HelpMan.Page

/-- What the caller asks a page for. -/
structure Request where
  command : String
  subcommand : String
  title : String
  version : String
  files : String
  also : List String
  deriving DecidableEq, Repr

/-- The version a page shows when the request gives none. -/
def defaultVersion : String := "0.0.1"

/-- The texts and blocks a page is rendered from. -/
structure Params where
  rawCommand : String
  command : String
  subcommand : String
  title : String
  version : String
  summary : String
  description : String
  options : String
  hasOptions : Bool
  examples : String
  hasExamples : Bool
  files : List FileEntry
  /-- When the page was generated, `2006-01-02 15:04:05 +0000`. -/
  timestamp : String
  /-- The day the page was generated, `2006-01-02`. -/
  datestamp : String
  deriving DecidableEq, Repr

open Help Troff

/-- The parameters of a page for a request, a parsed help text and the current moment. -/
def Params.make (req : Request) (help : Record) (now : Clock.Reading) : Except BadEntry Params := do
  let files ← parseFiles req.files
  let version := if req.version = "" then defaultVersion else req.version
  let examples := help.text .examples
  let (options, hasOptions) := formatOptions (help.text .options) (help.has .options)
  pure {
    rawCommand := req.command
    command := escape req.command
    subcommand := escape req.subcommand
    title := escape req.title
    version := escape version
    summary := escape (help.text .summary)
    description := escape (help.text .details)
    options
    hasOptions
    examples := escape examples
    hasExamples := help.has .examples && examples != ""
    files
    timestamp := now.stamp
    datestamp := now.date }

/-- Whether the page documents a subcommand. -/
def Params.hasSubcommand (p : Params) : Bool := p.subcommand != ""

/-- The page's name as the page prints it. -/
def Params.page (p : Params) : String :=
  if p.subcommand = "" then p.command else p.command ++ "\\-" ++ p.subcommand

/-- The file a page is written to by default. -/
def filename (command subcommand : String) : String :=
  if subcommand = "" then command ++ ".1" else command ++ "-" ++ subcommand ++ ".1"

end HelpMan.Page
