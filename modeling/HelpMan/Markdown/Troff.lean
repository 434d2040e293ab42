import HelpMan.Markdown.Basic
import HelpMan.Text.Lines
import HelpMan.Text.Lower

/-!
# Setting Markdown in troff

`Document.troff` sets a document as a man page. The page starts by turning hyphenation
off (`.nh`). The first level-one heading, which is the title block when there is one,
becomes the title line `.TH`; later level-one and level-two headings become `.SH`, and
deeper ones `.SS`. A paragraph right after a heading starts on the next line; any other
paragraph starts with `.PP`. Fenced code is set between `.EX` and `.EE`. Strong text is
set in bold, HTML tags are dropped, and a hard line break is `.br`.

Text runs are escaped one at a time (`escapeRun`): a backslash is doubled, and a line
of a run that starts with `.` or `'`, which troff would read as a request, gets the
zero-width `\&` in front. In the paragraph after a `NAME` heading, the first ` - ` of a
run becomes ` \- `, so that tools that index pages find the name and the summary.
-/

namespace HelpMan.Markdown

/-- Escapes one line of a run, line feed included. -/
def escapeLine (l : List Char) : String :=
  let guard := match l with
    | '.' :: _ | '\'' :: _ => "\\&"
    | _ => ""
  guard ++ String.ofList (l.flatMap fun c => if c = '\\' then ['\\', '\\'] else [c])

/-- A line without a carriage return at its end. -/
def dropReturn (l : List Char) : List Char :=
  if l.getLast? == some '\r' then l.dropLast else l

/-- Escapes a run line by line; a carriage return before a line feed is dropped. -/
def escapeRun (s : String) : String :=
  let rec go : List (List Char) → String
    | [] => ""
    | [last] => if last.isEmpty then "" else escapeLine (dropReturn last)
    | l :: ls => escapeLine (dropReturn l ++ ['\n']) ++ go ls
  go (Text.splitOn '\n' s.toList)

/-- A run of the `NAME` paragraph: the first ` - ` becomes ` \- `. -/
def nameRun (s : String) : String :=
  match s.splitOn " - " with
  | [] => ""
  | [whole] => escapeRun whole
  | before :: after => escapeRun before ++ " \\- " ++ escapeRun (" - ".intercalate after)

mutual

/-- Sets inline content; `named` marks runs of the `NAME` paragraph itself. -/
def Inline.troff (named : Bool) : Inline → String
  | .text s => if named then nameRun s else escapeRun s
  | .strong body => "\\fB" ++ Inline.troffList false body ++ "\\fP"
  | .html _ => ""
  | .lineBreak => "\n.br\n"

/-- Sets a list of inline content. -/
def Inline.troffList (named : Bool) : List Inline → String
  | [] => ""
  | i :: is => i.troff named ++ Inline.troffList named is

end

/-- Whether a block is a heading, a title block included. -/
def Block.isHeading : Block → Bool
  | .title _ | .heading _ _ => true
  | _ => false

/-- Whether a block is the heading `NAME`, in any case. -/
def Block.isNameHeading : Block → Bool
  | .title (.text t :: _) | .heading _ (.text t :: _) => Text.lowerText t == "name"
  | _ => false

/-- Sets blocks; `prev` is the block before them, and `titled` says whether the title
line was set. -/
def troffBlocks : List Block → Option Block → Bool → String
  | [], _, _ => ""
  | b :: bs, prev, titled =>
    let (text, titled') : String × Bool := match b with
      | .title c | .heading 1 c =>
        if titled then ("\n\n.SH " ++ Inline.troffList false c, true)
        else (".TH " ++ Inline.troffList false c, true)
      | .heading 2 c => ("\n.SH " ++ Inline.troffList false c, titled)
      | .heading _ c => ("\n.SS " ++ Inline.troffList false c, titled)
      | .paragraph c =>
        let opening := if (prev.map Block.isHeading).getD false then "\n" else "\n.PP\n"
        (opening ++ Inline.troffList ((prev.map Block.isNameHeading).getD false) c ++ "\n", titled)
      | .code literal => ("\n.EX\n" ++ escapeRun literal ++ ".EE\n", titled)
    text ++ troffBlocks bs (some b) titled'

/-- Sets a document as a man page. -/
def Document.troff (doc : Document) : String := ".nh\n" ++ troffBlocks doc none false

end HelpMan.Markdown
