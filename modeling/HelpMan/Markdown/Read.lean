import HelpMan.Markdown.Basic
import HelpMan.Text.Lines

/-!
# Reading Markdown

`Document.read` reads the blocks of a text line by line, and `inlines` reads the content
of a block. Inline reading walks the text and asks, at each character that may open a
construct, how much the construct takes:

* a backslash before one of the characters of `escapable` takes both and stands for
  the second;
* `<`, an optional `/`, and a letter or digit open an HTML tag, which runs to the next `>`;
* `**` followed by a character that is not blank opens strong text, which runs to the
  next `**` after a character that is not blank;
* a run of spaces before a line feed is a hard line break when it has two spaces or
  more, and is dropped when it has one.

Everything else is text, and the text of a block loses a final line feed.

Blocks end at a blank line; a paragraph also ends where a heading or a fence starts.
-/

namespace HelpMan.Markdown

/-- The characters that a backslash escapes. -/
def escapable : List Char := "\\`*_\x7b\x7d[]()#+-.!:|&<>~".toList

/-- How many characters an HTML tag at the start of the text takes: none when no tag
starts there. Without a closing `>` the tag takes the name's characters, less one. -/
def tagLength (cs : List Char) : Nat :=
  match cs with
  | '<' :: rest =>
    let (slash, body) : Nat × List Char := match rest with
      | '/' :: b => (1, b)
      | b => (0, b)
    match body with
    | c :: _ =>
      if cs.length < 3 || !isAlnum c then 0
      else
        let name := body.takeWhile (fun c => isAlnum c || c = '.' || c = '+' || c = '-')
        let i := 1 + slash + name.length
        match (cs.drop i).findIdx? (· = '>') with
        | some j => i + j + 1
        | none => i
    | [] => 0
  | _ => 0

/-- Where strong text closes, in the text after its opening `**`: the first `**` after a
character that is not blank, searching from `i`. The search gives up at a `*` where it
starts. -/
def strongEnd (cs : List Char) : Nat → Nat → Option Nat
  | 0, _ => none
  | fuel + 1, i =>
    match ((cs.drop i).findIdx? (· = '*')) with
    | none => none
    | some 0 => none
    | some k =>
      let j := i + k
      if cs[j + 1]? == some '*' && !((cs[j - 1]?.map isSpace).getD true) then some j
      else strongEnd cs fuel (j + 1)

/-- The text of a run, given reversed. -/
def run (pending : List Char) : List Inline :=
  if pending.isEmpty then [] else [.text (String.ofList pending.reverse)]

/-- The text of the last run of a block, which loses a final line feed. -/
def lastRun (pending : List Char) : List Inline :=
  match pending with
  | '\n' :: rest => run rest
  | _ => run pending

/-- Reads inline content; `pending` is the text run so far, reversed. -/
def inlinesFrom : Nat → List Char → List Char → List Inline
  | 0, _, pending => lastRun pending
  | _ + 1, [], pending => lastRun pending
  | fuel + 1, c :: rest, pending =>
    let cs := c :: rest
    let skip := inlinesFrom fuel rest (c :: pending)
    let cut (taken : Nat) (node : List Inline) :=
      run pending ++ node ++ inlinesFrom fuel (cs.drop taken) []
    match c with
    | '\\' =>
      match rest with
      | d :: _ => if escapable.contains d then cut 2 [.text d.toString] else skip
      | [] => cut 2 []
    | '<' =>
      let n := tagLength cs
      if n = 0 then skip
      else if n > 2 then cut n [.html (String.ofList (cs.take n))]
      else cut n []
    | '*' =>
      match rest with
      | '*' :: d :: more =>
        if d = '*' || isSpace d || more.isEmpty then skip
        else
          let body := d :: more
          match strongEnd body (body.length + 1) 0 with
          | some j => cut (j + 4) [.strong (inlinesFrom fuel (body.take j) [])]
          | none => skip
      | _ => skip
    | ' ' =>
      let spaces := (cs.takeWhile (· = ' ')).length
      match cs.drop spaces with
      | '\n' :: _ => if spaces ≥ 2 then cut (spaces + 1) [.lineBreak] else cut spaces []
      | _ => skip
    | _ => skip

/-- Reads the inline content of a block. -/
def inlines (s : String) : List Inline := inlinesFrom (s.length + 1) s.toList []

/-! ## Blocks -/

/-- Whether a line is blank: spaces and tabs only. -/
def blankLine (l : List Char) : Bool := l.all (fun c => c = ' ' || c = '\t')

/-- The level of a heading line: one to six `#` and a space. -/
def headingLevel (l : List Char) : Option Nat :=
  let n := (l.takeWhile (· = '#')).length
  if 0 < n && n ≤ 6 && l[n]? == some ' ' then some n else none

/-- The content of a heading line: without its `#`, the spaces after them, and the `#`
and spaces at its end. -/
def headingText (l : List Char) (level : Nat) : String :=
  let body := (l.drop level).dropWhile (· = ' ')
  String.ofList ((body.reverse.dropWhile (· = '#')).dropWhile (· = ' ')).reverse

/-- Whether a line is a fence: three grave accents or more, after at most three spaces. -/
def isFence (l : List Char) : Bool :=
  let indent := (l.takeWhile (· = ' ')).length
  indent ≤ 3 && ((l.drop indent).takeWhile (· = '`')).length ≥ 3

/-- The lines of a paragraph: up to a blank line, a heading or a fence. -/
def paragraphLines : List (List Char) → List (List Char) × List (List Char)
  | [] => ([], [])
  | l :: ls =>
    if blankLine l || (headingLevel l).isSome || isFence l then ([], l :: ls)
    else
      let (more, rest) := paragraphLines ls
      (l :: more, rest)

/-- The lines of fenced code, up to the closing fence, and the lines after it. -/
def codeLines : List (List Char) → List (List Char) × List (List Char)
  | [] => ([], [])
  | l :: ls =>
    if isFence l then ([], ls)
    else
      let (more, rest) := codeLines ls
      (l :: more, rest)

/-- The content of a paragraph: its lines joined, without spaces at its start and end. -/
def paragraphText (ls : List (List Char)) : String :=
  let joined := "\n".intercalate (ls.map String.ofList)
  let cs := joined.toList.dropWhile (· = ' ')
  String.ofList (cs.reverse.dropWhile (· = ' ')).reverse

/-- Reads the blocks of lines; `fuel` bounds the number of blocks. -/
def blocksFrom : Nat → List (List Char) → Document
  | 0, _ => []
  | _ + 1, [] => []
  | fuel + 1, l :: ls =>
    if blankLine l then blocksFrom fuel ls
    else
      match headingLevel l with
      | some n =>
        let text := headingText l n
        if text.isEmpty then blocksFrom fuel ls else .heading n (inlines text) :: blocksFrom fuel ls
      | none =>
        if l.head? == some '%' then
          let titled := (l :: ls).takeWhile (·.head? == some '%')
          let text := "\n".intercalate (titled.map fun t =>
            String.ofList (match t with | '%' :: ' ' :: r => r | '%' :: r => '%' :: r | r => r))
          .title (inlines text) :: blocksFrom fuel ((l :: ls).drop titled.length)
        else if isFence l then
          let (body, rest) := codeLines ls
          .code (String.join (body.map fun b => String.ofList b ++ "\n")) :: blocksFrom fuel rest
        else
          let (body, rest) := paragraphLines ls
          .paragraph (inlines (paragraphText (l :: body))) :: blocksFrom fuel rest

/-- Reads a document. -/
def Document.read (s : String) : Document :=
  let lines := Text.splitOn '\n' s.toList
  blocksFrom (lines.length + 1) lines

end HelpMan.Markdown
