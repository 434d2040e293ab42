import HelpMan.Text.Blank
import HelpMan.Text.Lines
import HelpMan.Text.Lower
import HelpMan.Text.Printable
import HelpMan.Text.Quoted
import HelpMan.Text.Printf
import HelpMan.Text.Utf8
import HelpMan.Help.Section
import HelpMan.Help.Basic
import HelpMan.Help.Parse
import HelpMan.Help.Store
import HelpMan.Troff.Escape
import HelpMan.Troff.Blocks
import HelpMan.Page.Entry
import HelpMan.Page.Params
import HelpMan.Page.Render
import HelpMan.Page.Generate
import HelpMan.Clock.Civil
import HelpMan.Clock.Format
import HelpMan.Log.Level
import HelpMan.Log.Logger
import HelpMan.Failure
import HelpMan.Utility.Invoke
import HelpMan.Yaml.Token
import HelpMan.Yaml.Scanner
import HelpMan.Yaml.Node
import HelpMan.Yaml.Resolve
import HelpMan.Yaml.Read
import HelpMan.Workspace
import HelpMan.Tools.Basic
import HelpMan.Tools.Text
import HelpMan.Tools.Dump
import HelpMan.Tools.Date
import HelpMan.Tools.Mode
import HelpMan.Tools.Stamp
import HelpMan.Tools.Files
import HelpMan.Tools.Copy
import HelpMan.Tools.Remove
import HelpMan.Tools.Listing
import HelpMan.Tools.Sequence
import HelpMan.Tools.Print
import HelpMan.Tools.Env
import HelpMan.Tools.Translate
import HelpMan.Tools.Condition
import HelpMan.Tools.Usage
import HelpMan.Tools.Run
import HelpMan.Settings.Basic
import HelpMan.Settings.Decode
import HelpMan.Settings.Load
import HelpMan.Cli.Flag
import HelpMan.Cli.Command
import HelpMan.Cli.Complete
import HelpMan.Markdown.Basic
import HelpMan.Markdown.Read
import HelpMan.Markdown.Troff
import HelpMan.Cli.Manual
import HelpMan.Shell.Syntax
import HelpMan.Shell.Lex
import HelpMan.Shell.Parse
import HelpMan.Binary64
import HelpMan.Shell.Printf
import HelpMan.Shell.Pattern
import HelpMan.Shell.Arith
import HelpMan.Shell.Arith.Extended
import HelpMan.Shell.Regex
import HelpMan.Shell.Parameter
import HelpMan.Shell.Brace
import HelpMan.Shell.Variables
import HelpMan.Shell.Commands
import HelpMan.Shell.State
import HelpMan.Shell.Test
import HelpMan.Shell.Builtin
import HelpMan.Shell.Program
import HelpMan.Shell.Run
import HelpMan.Shell.Format
import HelpMan.Shell.Interactive
import HelpMan.Utility.Exec
import HelpMan.Cli.Run
import HelpMan.Cli.ManualFile
import HelpMan.Main
import HelpMan.Proofs.Text.Lines
import HelpMan.Proofs.Text.Utf8
import HelpMan.Proofs.Help.Grammar
import HelpMan.Proofs.Help.Options
import HelpMan.Proofs.Help.Padding
import HelpMan.Proofs.Help.Commands
import HelpMan.Proofs.Help.Store
import HelpMan.Proofs.Troff.Lines
import HelpMan.Proofs.Troff.Decode
import HelpMan.Proofs.Page.Layout
import HelpMan.Proofs.Page.Structure
import HelpMan.Proofs.Page.Names
import HelpMan.Proofs.Page.Files
import HelpMan.Proofs.Page.AllOrNothing
import HelpMan.Proofs.Utility.Help
import HelpMan.Proofs.Cli.FailedRun
import HelpMan.Proofs.Cli.Precedence
