import HelpMan.Shell.Syntax

/-!
# Reading shell words and operators

`tokensAt` cuts a script into tokens: words, operators, descriptor numbers and line ends.

* Blanks separate tokens; a `#` at the start of a word starts a comment to the end of
  the line.
* In a word, a backslash quotes the next character and a backslash before a line end
  joins the lines; single quotes quote everything up to the next single quote; in double
  quotes a backslash quotes only `$`, a grave accent, `"`, a backslash and a line end, and
  expansions are made.
* `$name`, `$0` to `$9`, `$#`, `$*`, `$@`, `$$` and `$?` are parameters, and `${...}` holds
  one with an optional modifier, or `#` and one for its length; `$(...)` and a text
  between grave accents are command substitutions, and `$((...))` is arithmetic. Any
  other `$` is text.
* The operators are `&&`, `||`, `;`, `&`, `|`, `(`, `)`, `>`, `>>`, `>|`, `>&`, `<`, `<&`,
  `<>`, and `<<` or `<<-` with the word after them, which open a here-document.
* A single digit right before `<` or `>` names the descriptor that the redirection
  applies to; more digits are a word of their own.

A here-document's body is the lines after the end of the line that opens it, up to a
line that is its delimiter (with leading tabs removed for `<<-`); it is expanded like
text in double quotes unless the delimiter had quotes.

A quote or an expansion that is never closed is an error, with the line it opened on.
-/

namespace HelpMan.Shell

/-- A token of a script. -/
inductive Token where
  | word (w : Word)
  | op (s : String)
  | fdNumber (n : Nat)
  /-- In the `bash` dialect, `{name}` right before a redirection operator. -/
  | fdName (name : String)
  | newline
  /-- A here-document, with its body. -/
  | here (body : Word)
  /-- In the `bash` dialect, `(( ... ))` where a command starts or after `for`, by the text
  between the double brackets. -/
  | arithCommand (text : String)
  deriving DecidableEq, Repr

/-- How the `bash` dialect words a syntax error. -/
inductive BashProblem where
  /-- A token that cannot stand where it does, by its text. -/
  | near (token : String)
  /-- The end of the script before a command is complete. -/
  | endOfFile
  /-- The end of the script inside a quote or a bracket, by the character that would
  close it. -/
  | unclosed (closer : String)
  /-- A problem inside the list of an array assignment: worded as the problem is, but only
  the line it is on is lost, with status 1, and the reading goes on at the next line. -/
  | inList (p : BashProblem)
  deriving DecidableEq, Repr

/-- Why a script does not read: the message and the line, and how the `bash` dialect words
it when it words it otherwise. -/
structure SyntaxError where
  message : String
  line : Nat
  bash : Option BashProblem
  deriving DecidableEq, Repr

/-- A syntax error that both dialects word alike. -/
def SyntaxError.plain (message : String) (line : Nat) : SyntaxError := ⟨message, line, none⟩

/-- The reserved words of the language. -/
def reservedWords : List String :=
  ["if", "then", "else", "elif", "fi", "do", "done", "case", "esac", "while", "until", "for", "in", "\x7b", "\x7d", "!"]

/-- The reserved word a token is: an unquoted word that is exactly one. -/
def Token.reserved? : Token → Option String
  | .word [.plain s] => if reservedWords.contains s then some s else none
  | _ => none

/-- Whether a token is a line end. -/
def Token.isNewline : Token → Bool
  | .newline => true
  | _ => false

/-- The redirection operators. -/
def redirectOps : List String := [">", ">|", ">>", "<", "<>", ">&", "<&"]

/-- How an unexpected token is named in a message. -/
def Token.describe (t : Token) : String :=
  match t.reserved? with
  | some r => "\"" ++ r ++ "\""
  | none =>
    match t with
    | .word _ => "word"
    | .op s => if redirectOps.contains s then "redirection" else "\"" ++ s ++ "\""
    | .fdNumber _ => "redirection"
    | .fdName _ => "redirection"
    | .newline => "newline"
    | .here _ => "redirection"
    | .arithCommand _ => "word"

/-- A token as the `bash` dialect names it in a syntax error: as it was written, and a line
end as `newline`. -/
def Token.bashText : Token → String
  | .word w => w.written
  | .op s => s
  | .fdNumber n => toString n
  | .fdName n => "\x7b" ++ n ++ "\x7d"
  | .newline => "newline"
  | .here _ => "<<"
  | .arithCommand t => "((" ++ t ++ "))"

/-- The error of an unexpected token, or of the end of the script, on the line where the
reading stands: after a line end, on the next line (in the `bash` dialect, on its own). -/
def unexpected : List (Token × Nat) → Nat → SyntaxError
  | (t, l) :: _, _ =>
    ⟨"Syntax error: " ++ t.describe ++ " unexpected", if t.isNewline then l + 1 else l, some (.near t.bashText)⟩
  | [], l => ⟨"Syntax error: end of file unexpected", l, some .endOfFile⟩

/-- How the `bash` dialect words an error of reading a word, given as the `posix` dialect
words it, inside the quote `quote`: the end of the script before what closes the quote, the
grave accent, the expansion or the commands it is in. -/
def bashUnclosed (quote : Char) (message : String) : Option BashProblem :=
  if message.endsWith "EOF in backquote substitution" then some (.unclosed "`")
  else if message.endsWith "Missing '\x7d'" then some (.unclosed "\x7d")
  else if message.endsWith "(expecting \")\")" then some (.unclosed ")")
  else if message.endsWith "Unterminated quoted string" then some (.unclosed quote.toString)
  else none

/-- A syntax error found inside a word that starts inside the quote `quote`. -/
def wordError (quote : Char) (message : String) (line : Nat) : SyntaxError :=
  ⟨message, line, bashUnclosed quote message⟩

/-- A name in braces, maybe with a subscript, right before a redirection operator, and the
characters from the operator on. -/
def fdNameAt (cs : List Char) : Option (String × List Char) :=
  match cs with
  | '\x7b' :: rest =>
    let name := rest.takeWhile fun c => c.isAlphanum || c == '_'
    let afterName := rest.drop name.length
    let sub := match afterName with
      | '[' :: more =>
        let inner := more.takeWhile (· != ']')
        if (more.drop inner.length).head? == some ']' then '[' :: inner ++ [']'] else []
      | _ => []
    let name := name ++ sub
    match rest.drop name.length with
    | '\x7d' :: after =>
      if !name.isEmpty && !(name.head?.any Char.isDigit) && (after.head? == some '<' || after.head? == some '>') then
        some (String.ofList name, after)
      else none
    | _ => none
  | _ => none

/-- Characters that end a word outside quotes. -/
def isBreak (c : Char) : Bool :=
  c = ' ' || c = '\t' || c = '\n' || c = ';' || c = '&' || c = '|' || c = '<' || c = '>' ||
    c = '(' || c = ')'

/-- Characters of a variable name after its first. -/
def isNameChar (c : Char) : Bool := c.isAlphanum || c = '_'

/-- Characters that may start a variable name. -/
def isNameStart (c : Char) : Bool := c.isAlpha || c = '_'

/-- Appends text to a word, joining it to a last part of the same kind. -/
def pushText (quoted : Option Quoting) (t : String) (w : Word) : Word :=
  match w.getLast?, quoted with
  | some (.plain s), none => w.dropLast ++ [.plain (s ++ t)]
  | some (.quoted s q), some q' => if q == q' then w.dropLast ++ [.quoted (s ++ t) q] else w ++ [.quoted t q']
  | _, some q => w ++ [.quoted t q]
  | _, none => w ++ [.plain t]

/-- The value of a hexadecimal digit, if it is one. -/
def hexDigit? (c : Char) : Option Nat :=
  if c.isDigit then some (c.toNat - '0'.toNat)
  else if 'a' ≤ c && c ≤ 'f' then some (c.toNat - 'a'.toNat + 10)
  else if 'A' ≤ c && c ≤ 'F' then some (c.toNat - 'A'.toNat + 10)
  else none

/-- Reads up to `most` digits of a base (8 or 16) at the front: their value and how many
there were. -/
def leadingDigits (base most : Nat) (cs : List Char) : Nat × Nat :=
  let ds := (cs.take most).takeWhile fun c => match hexDigit? c with
    | some v => v < base
    | none => false
  (ds.foldl (fun n c => n * base + (hexDigit? c).getD 0) 0, ds.length)

/-- The bytes of the UTF-8 encoding of a code point, each as a character. -/
def utf8Chars (n : Nat) : List Char :=
  let b (k : Nat) : Char := Char.ofNat k
  if n < 0x80 then [b n]
  else if n < 0x800 then [b (0xC0 + n / 64), b (0x80 + n % 64)]
  else if n < 0x10000 then [b (0xE0 + n / 4096), b (0x80 + n / 64 % 64), b (0x80 + n % 64)]
  else [b (0xF0 + n / 262144 % 8), b (0x80 + n / 4096 % 64), b (0x80 + n / 64 % 64), b (0x80 + n % 64)]

/-- What a backslash and the characters after it stand for in `$'...'`: the bytes, and the
characters after the escape. An escape that is not one stands for itself, backslash
included. -/
def ansiEscape (d : Char) (more : List Char) : List Char × List Char :=
  match d with
  | 'a' => ([Char.ofNat 7], more)
  | 'b' => ([Char.ofNat 8], more)
  | 'e' | 'E' => ([Char.ofNat 27], more)
  | 'f' => ([Char.ofNat 12], more)
  | 'n' => (['\n'], more)
  | 'r' => ([Char.ofNat 13], more)
  | 't' => (['\t'], more)
  | 'v' => ([Char.ofNat 11], more)
  | '\\' | '\'' | '"' | '?' => ([d], more)
  | 'x' =>
    let (v, k) := leadingDigits 16 2 more
    if k = 0 then (['\\', 'x'], more) else ([Char.ofNat v], more.drop k)
  | 'u' | 'U' =>
    let (v, k) := leadingDigits 16 (if d = 'u' then 4 else 8) more
    if k = 0 then (['\\', d], more) else (utf8Chars v, more.drop k)
  | 'c' =>
    match more with
    | c :: rest => ([Char.ofNat (c.toUpper.toNat % 32)], rest)
    | [] => (['\\', 'c'], [])
  | _ =>
    if '0' ≤ d && d ≤ '7' then
      let (v, k) := leadingDigits 8 3 (d :: more)
      ([Char.ofNat (v % 256)], (d :: more).drop k)
    else (['\\', d], more)

/-- Reads the inside of `$'...'` up to its closing quote: the bytes its text and escapes
stand for, cut at the first zero byte, and the characters after the quote; `none` when the
quote is not closed. -/
def ansiQuoted : Nat → List Char → Option (List Char × List Char)
  | 0, _ => none
  | _ + 1, [] => none
  | fuel + 1, c :: rest =>
    if c = '\'' then some ([], rest)
    else if c = '\\' then
      match rest with
      | [] => none
      | d :: more =>
        let (bytes, after) := ansiEscape d more
        (ansiQuoted fuel after).map fun (t, r) => (bytes ++ t, r)
    else (ansiQuoted fuel rest).map fun (t, r) => (c :: t, r)

example : ansiQuoted 20 "tab\\there'x".toList = some ("tab\there".toList, ['x']) := by decide

/-- Reads a parameter after `$` that is not in braces: the parameter and the characters
after it, or `none` when the `$` is text. -/
def readParam (cs : List Char) : Option (Param × List Char) :=
  match cs with
  | c :: rest =>
    if c.isDigit then some (.positional (c.toNat - '0'.toNat), rest)
    else if c = '#' then some (.count, rest)
    else if c = '*' then some (.joined, rest)
    else if c = '@' then some (.each, rest)
    else if c = '$' then some (.pid, rest)
    else if c = '?' then some (.status, rest)
    else if c = '!' then some (.lastJob, rest)
    else if c = '-' then some (.flags, rest)
    else if isNameStart c then
      let name := (c :: rest).takeWhile isNameChar
      some (.var (String.ofList name), (c :: rest).drop name.length)
    else none
  | [] => none

/-- Reads the parameter that starts the inside of braces: all its digits for a positional
parameter, one character for a special one, or a name. -/
def bracedParam (cs : List Char) : Option (Param × List Char) :=
  match cs with
  | c :: rest =>
    if c.isDigit then
      let digits := cs.takeWhile Char.isDigit
      some (.positional ((String.ofList digits).toNat?.getD 0), cs.drop digits.length)
    else readParam (c :: rest)
  | [] => none

/-- The number of line ends in a text. -/
def lineEnds (cs : List Char) : Nat := (cs.filter (· = '\n')).length

/-- The length of a quoted text after its opening quote `q`, with the closing quote; a
backslash escapes the next character unless `q` is a single quote. -/
def quotedLength (q : Char) : Nat → List Char → Option Nat
  | 0, _ => none
  | _ + 1, [] => none
  | fuel + 1, c :: rest =>
    if c = q then some 1
    else if c = '\\' && q != '\'' then
      match rest with
      | _ :: more => (quotedLength q fuel more).map (· + 2)
      | [] => none
    else (quotedLength q fuel rest).map (· + 1)

/-- The length of the text before the `closing` bracket that matches an opened one, where
each `opening` bracket must be closed first; quoted and escaped text is passed over. -/
def bracketLength (opening closing : Char) : Nat → List Char → Nat → Option Nat
  | 0, _, _ => none
  | _ + 1, [], _ => none
  | fuel + 1, c :: rest, depth =>
    if c = closing then
      if depth = 0 then some 0 else (bracketLength opening closing fuel rest (depth - 1)).map (· + 1)
    else if c = opening then (bracketLength opening closing fuel rest (depth + 1)).map (· + 1)
    else if c = '\'' || c = '"' || c = '`' then
      match quotedLength c fuel rest with
      | some n => (bracketLength opening closing fuel (rest.drop n) depth).map (· + n + 1)
      | none => none
    else if c = '\\' then
      match rest with
      | _ :: more => (bracketLength opening closing fuel more depth).map (· + 2)
      | [] => none
    else (bracketLength opening closing fuel rest depth).map (· + 1)

/-- The commands of a grave-accent substitution: a backslash before `$`, a grave accent
or a backslash (and a `"` inside double quotes) stands for that character. -/
def unescapeGrave (inQuotes : Bool) : List Char → List Char
  | '\\' :: d :: rest =>
    if d = '$' || d = '`' || d = '\\' || (inQuotes && d = '"') then d :: unescapeGrave inQuotes rest
    else '\\' :: unescapeGrave inQuotes (d :: rest)
  | c :: rest => c :: unescapeGrave inQuotes rest
  | [] => []

/-- Reads a grave-accent substitution after its opening accent: the part and the
characters after it, or the message when it is not closed. -/
def readGrave (inQuotes : Bool) (cs : List Char) : Except String (Part × List Char) :=
  match quotedLength '`' (cs.length + 1) cs with
  | some n => .ok (.command (String.ofList (unescapeGrave inQuotes (cs.take (n - 1)))) inQuotes false, cs.drop n)
  | none => .error "Syntax error: EOF in backquote substitution"

/-- The modifier that starts the rest of a braced expansion, and the text of its word. -/
def modifierOf? (cs : List Char) : Option (Modifier × List Char) :=
  match cs with
  | ':' :: '-' :: w => some (.useDefault true, w)
  | ':' :: '=' :: w => some (.assignDefault true, w)
  | ':' :: '?' :: w => some (.errorIfUnset true, w)
  | ':' :: '+' :: w => some (.useAlternative true, w)
  | '-' :: w => some (.useDefault false, w)
  | '=' :: w => some (.assignDefault false, w)
  | '?' :: w => some (.errorIfUnset false, w)
  | '+' :: w => some (.useAlternative false, w)
  | '#' :: '#' :: w => some (.dropPrefix true, w)
  | '#' :: w => some (.dropPrefix false, w)
  | '%' :: '%' :: w => some (.dropSuffix true, w)
  | '%' :: w => some (.dropSuffix false, w)
  | _ => none

/-- The expansion that the inside of braces names; `none` when it names no parameter.
Braces that name no parameter, a parameter followed by something that is no modifier, and
a length with anything after its parameter read, and fail only when they are expanded.
After `#`, a parameter that is also a modifier (`-`, `?`, `#`) with more after it is that
modifier of the count of arguments. -/
def bracedPart (inQuotes : Bool) (inner : List Char) : Option Part :=
  match inner with
  | ['#'] => some (.param .count inQuotes)
  | '#' :: p =>
    match bracedParam p with
    | some (q, []) => some (.length q inQuotes)
    | some _ =>
      some ((modifierOf? p).elim .badSubstitution fun (m, w) => .modified .count m (String.ofList w) inQuotes)
    | none => (modifierOf? p).map fun (m, w) => .modified .count m (String.ofList w) inQuotes
  | _ =>
    match bracedParam inner with
    | some (p, []) => some (.param p inQuotes)
    | some (p, tail) =>
      some ((modifierOf? tail).elim .badSubstitution fun (m, w) => .modified p m (String.ofList w) inQuotes)
    | none => none

/-- A here-document waiting for its body: the delimiter, whether leading tabs are
removed, and whether the body is expanded. -/
structure PendingHere where
  delimiter : String
  stripTabs : Bool
  expand : Bool
  deriving DecidableEq, Repr

/-- Whether a line of a here-document whose delimiter was not quoted goes on to the next
line: it ends in a backslash that no backslash before it escapes. -/
def continuesLine (l : List Char) : Bool := (l.reverse.takeWhile (· = '\\')).length % 2 == 1

/-- Reads the lines of a here-document body up to its delimiter: the body and the
characters after the delimiter line. A line that starts after a line going on to it
(`check` false) is neither stripped of tabs nor taken for the delimiter. A last line
without a line end keeps none in the `posix` dialect and gets one in the `bash` dialect. -/
def hereLinesFrom (bash : Bool) (h : PendingHere) : Nat → Bool → List Char → List Char × List Char
  | 0, _, cs => ([], cs)
  | _ + 1, _, [] => ([], [])
  | fuel + 1, check, cs =>
    let l := cs.takeWhile (· ≠ '\n')
    let ended := (cs.drop l.length).isEmpty
    let after := (cs.drop l.length).drop 1
    let l := if h.stripTabs && check then l.dropWhile (· = '\t') else l
    if check && String.ofList l = h.delimiter then ([], after)
    else
      let (body, rest) := hereLinesFrom bash h fuel (!(h.expand && continuesLine l)) after
      (l ++ (if ended && !bash then [] else ['\n']) ++ body, rest)

/-- Reads the lines of a here-document body up to its delimiter: the body and the
characters after the delimiter line. -/
def hereLines (bash : Bool) (h : PendingHere) (fuel : Nat) (cs : List Char) : List Char × List Char :=
  hereLinesFrom bash h fuel true cs

/-- What the commands of a command substitution are in the middle of, as far as the `)`
that ends the substitution depends on it. -/
inductive Nest where
  /-- A subshell or a group in brackets, which a `)` closes. -/
  | group
  /-- A `case` before its subject. -/
  | caseSubject
  /-- A `case` between its subject and `in`. -/
  | caseIn
  /-- The patterns of a case arm, which a `)` ends. -/
  | patterns
  /-- The commands of a case arm, up to `;;` or `esac`. -/
  | arm
  deriving DecidableEq, Repr

/-- The reserved words after which a command may start. -/
def commandWords : List String := ["then", "do", "else", "elif", "if", "while", "until", "\x7b", "!"]

/-- The characters after the bodies of the waiting here-documents. -/
def hereSkip (cs : List Char) : List PendingHere → List Char
  | [] => cs
  | h :: hs => hereSkip (hereLines true h (cs.length + 1) cs).2 hs

/-- The delimiter of a here-document as written, without its quotes. -/
def unquoteDelimiter : List Char → List Char
  | '\\' :: d :: rest => d :: unquoteDelimiter rest
  | c :: rest => if c = '\'' || c = '"' then unquoteDelimiter rest else c :: unquoteDelimiter rest
  | [] => []

/-- Why a substitution does not close: the quotes, the expansion or the commands that the
script ends in. -/
def unclosed (c : Char) : String :=
  if c = '`' then "Syntax error: EOF in backquote substitution"
  else if c = '{' then "Syntax error: Missing '\x7d'"
  else if c = '(' then "Syntax error: end of file unexpected (expecting \")\")"
  else "Syntax error: Unterminated quoted string"

/-- The length of quoted text, or the message of text that the script ends in. -/
def quotedLength? (q : Char) (fuel : Nat) (cs : List Char) : Except String Nat :=
  match quotedLength q fuel cs with
  | some n => .ok n
  | none => .error (unclosed q)

/-- How the inside of `${...}` is read after its parameter: the length of the parameter
and its modifier, and whether the word after them is read as text in double quotes. The
word of a pattern (`#`, `%`) is read as outside quotes even inside them; any other word
is read as the text around the braces is. -/
def braceMode (inQuotes : Bool) (cs : List Char) : Nat × Bool :=
  match bracedParam cs with
  | some (_, rest) =>
    match modifierOf? rest with
    | some (.dropPrefix _, w) | some (.dropSuffix _, w) => (cs.length - w.length, false)
    | some (_, w) => (cs.length - w.length, inQuotes)
    | none => (cs.length - rest.length, inQuotes)
  | none => (0, inQuotes)

mutual

/-- The length of the commands of a command substitution, up to the `)` that closes it.
The commands are followed as far as their grammar decides where a `)` belongs: the `)`
after the patterns of a case arm is passed over, and so are brackets in words, comments
and here-documents. `nest` is what the reading is inside, innermost first; `start` tells
whether a command may start here, where `case` and `esac` are reserved words; `pending`
holds the here-documents whose bodies follow the current line. The message tells what the
script ends in when nothing closes the substitution. -/
def closeLength : Nat → List Char → List Nest → Bool → List PendingHere → Except String Nat
  | 0, _, _, _, _ => .error (unclosed '(')
  | _ + 1, [], _, _, _ => .error (unclosed '(')
  | fuel + 1, c :: rest, nest, start, pending =>
    let cs := c :: rest
    let on (n : Nat) (nest : List Nest) (start : Bool) (pending : List PendingHere) : Except String Nat :=
      (closeLength fuel (cs.drop n) nest start pending).map (· + n)
    if c = ' ' || c = '\t' then on 1 nest start pending
    else if c = '\n' then on (1 + (rest.length - (hereSkip rest pending).length)) nest true []
    else if c = '#' then on (cs.takeWhile (· ≠ '\n')).length nest start pending
    else if c = '\\' && rest.head? == some '\n' then on 2 nest start pending
    else
      match cs with
      | ')' :: _ =>
        match nest with
        | .patterns :: outer => on 1 (.arm :: outer) true pending
        | .group :: outer => on 1 outer false pending
        | _ => .ok 0
      | '(' :: _ =>
        match nest with
        | .patterns :: _ => on 1 nest false pending
        | _ => on 1 (.group :: nest) true pending
      | ';' :: ';' :: _ =>
        match nest with
        | .arm :: outer => on 2 (.patterns :: outer) true pending
        | _ => on 2 nest true pending
      | ';' :: '&' :: _ =>
        match nest with
        | .arm :: outer => on 2 (.patterns :: outer) true pending
        | _ => on 2 nest true pending
      | '<' :: '<' :: more =>
        let (strip, skip) := if more.head? == some '-' then (true, 3) else (false, 2)
        let afterOp := cs.drop skip
        let blanks := (afterOp.takeWhile fun d => d = ' ' || d = '\t').length
        (wordLength fuel (afterOp.drop blanks)).bind fun w =>
          let delim := String.ofList (unquoteDelimiter ((afterOp.drop blanks).take w))
          on (skip + blanks + w) nest start (pending ++ [⟨delim, strip, true⟩])
      | _ =>
        if c = ';' || c = '&' || c = '|' then on 1 nest true pending
        else if c = '<' || c = '>' then on 1 nest false pending
        else
          (wordLength fuel cs).bind fun n =>
            if n = 0 then on 1 nest start pending
            else
              let w := String.ofList (cs.take n)
              match nest with
              | .caseSubject :: outer => on n (.caseIn :: outer) false pending
              | .caseIn :: outer => on n (if w == "in" then .patterns :: outer else nest) false pending
              | .patterns :: outer => on n (if w == "esac" then outer else nest) false pending
              | _ =>
                if start && w == "case" then on n (.caseSubject :: nest) false pending
                else if start && w == "esac" then
                  match nest with
                  | .arm :: outer => on n outer false pending
                  | _ => on n nest false pending
                else on n nest (start && commandWords.contains w) pending

/-- The length of a word outside quotes, up to a blank or an operator character; quoted
text and expansions in it are passed over whole. The message tells what the script ends
in when one of them is not closed. -/
def wordLength : Nat → List Char → Except String Nat
  | 0, _ => .error (unclosed '(')
  | _ + 1, [] => .ok 0
  | fuel + 1, c :: rest =>
    let more (n : Nat) : Except String Nat := (wordLength fuel ((c :: rest).drop n)).map (· + n)
    if isBreak c then .ok 0
    else if c = '\\' then (if rest.isEmpty then .ok 1 else more 2)
    else if c = '\'' || c = '`' then (quotedLength? c fuel rest).bind fun n => more (n + 1)
    else if c = '"' then (doubleLength fuel rest).bind fun n => more (n + 1)
    else if c = '$' then
      match rest with
      | '(' :: inner => (closeLength fuel inner [] true []).bind fun n => more (n + 3)
      | '{' :: inner => (braceLength fuel false inner).bind fun n => more (n + 3)
      | _ => more 1
    else more 1

/-- The length of the inside of double quotes, with the closing quote; expansions in it
are passed over whole. The message tells what the script ends in when the quotes, or an
expansion, are not closed. -/
def doubleLength : Nat → List Char → Except String Nat
  | 0, _ => .error (unclosed '"')
  | _ + 1, [] => .error (unclosed '"')
  | fuel + 1, c :: rest =>
    let more (n : Nat) : Except String Nat := (doubleLength fuel ((c :: rest).drop n)).map (· + n)
    if c = '"' then .ok 1
    else if c = '\\' then (if rest.isEmpty then .error (unclosed '"') else more 2)
    else if c = '`' then (quotedLength? c fuel rest).bind fun n => more (n + 1)
    else if c = '$' then
      match rest with
      | '(' :: inner => (closeLength fuel inner [] true []).bind fun n => more (n + 3)
      | '{' :: inner => (braceLength fuel true inner).bind fun n => more (n + 3)
      | _ => more 1
    else more 1

/-- The length of the inside of `${...}`, up to its closing brace, opened inside double
quotes or not (`inQuotes`). -/
def braceLength : Nat → Bool → List Char → Except String Nat
  | 0, _, _ => .error (unclosed '{')
  | fuel + 1, inQuotes, cs =>
    let (head, dq) := braceMode inQuotes cs
    (braceScan fuel (cs.drop head) dq false).map (· + head)

/-- The length of the word of `${...}` up to the closing brace. A `"` opens or closes inner
quotes, inside which a brace is text; outside them a brace closes the expansion. A single
quote quotes text up to the next one when the word is read as outside double quotes
(`dq` off), and is text otherwise. A backslash quotes the next character, and nested
expansions and grave accents are passed over whole. -/
def braceScan : Nat → List Char → Bool → Bool → Except String Nat
  | 0, _, _, _ => .error (unclosed '{')
  | _ + 1, [], _, _ => .error (unclosed '{')
  | fuel + 1, c :: rest, dq, inner =>
    let more (n : Nat) (inner : Bool) : Except String Nat :=
      (braceScan fuel ((c :: rest).drop n) dq inner).map (· + n)
    if c = '}' && !inner then .ok 0
    else if c = '"' then more 1 (!inner)
    else if c = '\\' then (if rest.isEmpty then .error (unclosed '{') else more 2 inner)
    else if (c = '\'' && !dq && !inner) || c = '`' then (quotedLength? c fuel rest).bind fun n => more (n + 1) inner
    else if c = '$' then
      match rest with
      | '(' :: body => (closeLength fuel body [] true []).bind fun n => more (n + 3) inner
      | '{' :: body => (braceLength fuel (dq || inner) body).bind fun n => more (n + 3) inner
      | _ => more 1 inner
    else more 1 inner

end

/-- Reads a command substitution after its `(`: the part and the characters after it. -/
def readCommandText (inQuotes : Bool) (cs : List Char) : Except String (Part × List Char) :=
  (closeLength (cs.length + 1) cs [] true []).map fun n =>
    (.command (String.ofList (cs.take n)) inQuotes true, cs.drop (n + 1))

/-- Reads what follows a `$`: the expansion and the characters after it, `none` when the
`$` is text, or the message of an expansion that is not closed or names nothing. An
arithmetic expansion `$((...))` needs its two closing brackets together; otherwise the
text is a command substitution of a subshell. In the `bash` dialect `${...}` is kept as
the text inside its braces, `$[...]` is arithmetic too, and outside double quotes
`$'...'` is quoted text with escapes. -/
def readDollar (bash : Bool) (inQuotes : Bool) (cs : List Char) : Except String (Option (Part × List Char)) :=
  match cs with
  | '(' :: '(' :: rest =>
    match bracketLength '(' ')' (rest.length + 1) rest 0 with
    | some n =>
      if (rest.drop (n + 1)).head? == some ')' then
        .ok (some (.arith (String.ofList (rest.take n)) inQuotes, rest.drop (n + 2)))
      else (readCommandText inQuotes ('(' :: rest)).map some
    | none => (readCommandText inQuotes ('(' :: rest)).map some
  | '(' :: rest => (readCommandText inQuotes rest).map some
  | '{' :: rest =>
    match braceLength (rest.length + 1) inQuotes rest with
    | .ok n =>
      let inner := rest.take n
      let part := if bash then .braced (String.ofList inner) inQuotes
        else (bracedPart inQuotes inner).getD .badSubstitution
      .ok (some (part, rest.drop (n + 1)))
    | .error e => .error e
  | '[' :: rest =>
    if bash then
      match bracketLength '[' ']' (rest.length + 1) rest 0 with
      | some n => .ok (some (.arith (String.ofList (rest.take n)) inQuotes, rest.drop (n + 1)))
      | none => .error (unclosed '(')
    else .ok none
  | '\'' :: rest =>
    if bash && !inQuotes then
      match ansiQuoted (rest.length + 1) rest with
      | some (t, more) => .ok (some (.quoted (String.ofList (t.takeWhile (· ≠ Char.ofNat 0))) .single, more))
      | none => .error (unclosed '\'')
    else .ok none
  | _ => .ok ((readParam cs).map fun (p, r) => (.param p inQuotes, r))

/-- Reads the inside of double quotes, up to the closing quote: the word so far, the
characters after the quote, and the lines passed; the message when something is not
closed. Quotes with nothing inside leave an empty quoted text, which makes a field;
`start` is the length of the word when the quote opened. -/
def readDouble (bash : Bool) (start : Nat) : Nat → List Char → Word → Except String (Word × List Char × Nat)
  | 0, _, _ => .error "Syntax error: Unterminated quoted string"
  | _ + 1, [], _ => .error "Syntax error: Unterminated quoted string"
  | fuel + 1, c :: rest, w =>
    match c with
    | '"' => .ok (if w.length == start then pushText (some .double) "" w else w, rest, 0)
    | '\\' =>
      match rest with
      | '\n' :: more => (readDouble bash start fuel more w).map fun (w, r, n) => (w, r, n + 1)
      | d :: more =>
        if d = '$' || d = '`' || d = '"' || d = '\\' then readDouble bash start fuel more (pushText (some .double) d.toString w)
        else readDouble bash start fuel more (pushText (some .double) (String.ofList ['\\', d]) w)
      | [] => .error "Syntax error: Unterminated quoted string"
    | '$' =>
      match readDollar bash true rest with
      | .ok (some (p, more)) =>
        let k := lineEnds (rest.take (rest.length - more.length))
        (readDouble bash start fuel more (w ++ [p])).map fun (w, r, n) => (w, r, n + k)
      | .ok none => readDouble bash start fuel rest (pushText (some .double) "$" w)
      | .error e => .error e
    | '`' =>
      match readGrave true rest with
      | .ok (p, more) =>
        let k := lineEnds (rest.take (rest.length - more.length))
        (readDouble bash start fuel more (w ++ [p])).map fun (w, r, n) => (w, r, n + k)
      | .error e => .error e
    | _ =>
      let n := if c = '\n' then 1 else 0
      (readDouble bash start fuel rest (pushText (some .double) c.toString w)).map fun (w, r, m) => (w, r, m + n)

/-- Where a word is read. -/
inductive WordPlace where
  /-- Among the tokens of a command, where blanks and operator characters end it. -/
  | command
  /-- As the word of a modifier, where they are text. -/
  | modifier
  /-- As the pattern of a modifier, where a doubled backslash also leaves a backslash that
  is not quoted, which makes the character after it stand for itself in the pattern. -/
  | pattern
  deriving DecidableEq, Repr

/-- Whether a word read so far is the target of an assignment followed by its `=`: a
name, in the `bash` dialect also with a subscript in brackets, and `+=` to append. -/
def isAssignTarget (w : Word) : Bool :=
  match w with
  | [.plain s] =>
    match s.toList.reverse with
    | '=' :: before =>
      let target := (match before with
        | '+' :: t => t
        | t => t).reverse
      let name := target.takeWhile isNameChar
      match target.head?, target.drop name.length with
      | some c, [] => isNameStart c
      | some c, '[' :: sub => isNameStart c && sub.getLast? == some ']'
      | _, _ => false
    | _ => false
  | _ => false

/-- Reads a word outside quotes: the word, the characters after it, and the lines passed,
or the error of something that is not closed. In the `bash` dialect, `$"..."` is text in
double quotes, the brackets after an assignment's `=` hold the list of an array, and a
word that starts with `<(` or `>(` is a process substitution. -/
def readWord (bash : Bool) (place : WordPlace) (line : Nat) : Nat → List Char → Word → Except SyntaxError (Word × List Char × Nat)
  | 0, cs, w => .ok (w, cs, 0)
  | _ + 1, [], w => .ok (w, [], 0)
  | fuel + 1, c :: rest, w =>
    let breaks := place == .command
    let after (p : Part) (more : List Char) : Except SyntaxError (Word × List Char × Nat) :=
      let k := lineEnds (rest.take (rest.length - more.length))
      (readWord bash place (line + k) fuel more (w ++ [p])).map fun (w, r, n) => (w, r, n + k)
    if bash && breaks && c = '(' && isAssignTarget w then
      match bracketLength '(' ')' (rest.length + 1) rest 0 with
      | some n => after (.list (String.ofList (rest.take n))) (rest.drop (n + 1))
      | none => .error ⟨"Syntax error: unclosed list", line, some (.inList (.unclosed ")"))⟩
    else if bash && breaks && w.isEmpty && (c = '<' || c = '>') && rest.head? == some '(' then
      match closeLength (rest.length + 1) (rest.drop 1) [] true [] with
      | .ok n => after (.process (String.ofList ((rest.drop 1).take n)) (c = '<')) (rest.drop (n + 2))
      | .error m => .error (wordError '(' m line)
    else if breaks && isBreak c then .ok (w, c :: rest, 0)
    else
      match c with
      | '\\' =>
        match rest with
        | '\n' :: more => do
          let (w, r, n) ← readWord bash place (line + 1) fuel more w
          .ok (w, r, n + 1)
        | d :: more =>
          readWord bash place line fuel more (pushText (if place == .pattern && d = '\\' then none else some .escaped) d.toString w)
        | [] => .ok (w, [], 0)
      | '\'' =>
        let body := rest.takeWhile (· ≠ '\'')
        match rest.drop body.length with
        | '\'' :: more => do
          let (w, r, n) ← readWord bash place (line + lineEnds body) fuel more (pushText (some .single) (String.ofList body) w)
          .ok (w, r, n + lineEnds body)
        | _ => .error (wordError '\'' "Syntax error: Unterminated quoted string" line)
      | '"' =>
        match readDouble bash w.length (rest.length + 1) rest w with
        | .ok (w, more, k) => do
          let (w, r, n) ← readWord bash place (line + k) fuel more w
          .ok (w, r, n + k)
        | .error m => .error (wordError '"' m line)
      | '$' =>
        if bash && rest.head? == some '"' then readWord bash place line fuel rest w
        else
          match readDollar bash false rest with
          | .ok (some (p, more)) => after p more
          | .ok none => readWord bash place line fuel rest (pushText none "$" w)
          | .error m => .error (wordError '\'' m line)
      | '`' =>
        match readGrave false rest with
        | .ok (p, more) => after p more
        | .error m => .error (wordError '`' m line)
      | _ =>
        -- an extended pattern of the `bash` dialect keeps its brackets and bars in the word
        match (if bash && "?*+@!".toList.contains c && rest.head? == some '(' then
            bracketLength '(' ')' rest.length rest.tail 0 else none) with
        | some n =>
          readWord bash place line fuel (rest.drop (n + 2)) (pushText none (String.ofList (c :: rest.take (n + 2))) w)
        | none => readWord bash place line fuel rest (pushText none c.toString w)

/-- Reads a text as one word in which blanks and operators are text; a text that does not
read is taken as it stands. -/
def Word.ofText (bash : Bool) (text : String) : Word :=
  let cs := text.toList
  match readWord bash .modifier 1 (cs.length + 1) cs [] with
  | .ok (w, _, _) => w
  | .error _ => [.plain text]

/-- Reads the text of a pattern as one word (see `WordPlace.pattern`). -/
def Word.ofPatternText (bash : Bool) (text : String) : Word :=
  let cs := text.toList
  match readWord bash .pattern 1 (cs.length + 1) cs [] with
  | .ok (w, _, _) => w
  | .error _ => [.plain text]

/-- The text of a word with its quotes removed, and whether it had any. -/
def Word.unquoted (w : Word) : String × Bool :=
  w.foldl (fun (s, q) p =>
    match p with
    | .plain t => (s ++ t, q)
    | .quoted t _ => (s ++ t, true)
    | _ => (s ++ "$", q)) ("", false)

/-- Reads the body of a here-document that is expanded, like text in double quotes
where a `"` is text. -/
def readHereBody (bash : Bool) : Nat → List Char → Word → Word
  | 0, _, w => w
  | _ + 1, [], w => pushText (some .double) "" w
  | fuel + 1, c :: rest, w =>
    match c with
    | '\\' =>
      match rest with
      | '\n' :: more => readHereBody bash fuel more w
      | d :: more =>
        if d = '$' || d = '`' || d = '\\' then readHereBody bash fuel more (pushText (some .double) d.toString w)
        else readHereBody bash fuel more (pushText (some .double) (String.ofList ['\\', d]) w)
      | [] => pushText (some .double) "\\" w
    | '$' =>
      match readDollar bash true rest with
      | .ok (some (p, more)) => readHereBody bash fuel more (w ++ [p])
      | _ => readHereBody bash fuel rest (pushText (some .double) "$" w)
    | '`' =>
      match readGrave true rest with
      | .ok (p, more) => readHereBody bash fuel more (w ++ [p])
      | .error _ => readHereBody bash fuel rest (pushText (some .double) "`" w)
    | _ => readHereBody bash fuel rest (pushText (some .double) c.toString w)

/-- Reads the word of a modifier that stands inside double quotes: all of it is quoted, a
`"` only marks where inner quotes open or close, a single quote is text, and a backslash
quotes only `$`, a grave accent, `"`, a backslash and a closing brace. -/
def readQuotedWord (bash : Bool) : Nat → List Char → Word → Word
  | 0, _, w => w
  | _ + 1, [], w => w
  | fuel + 1, c :: rest, w =>
    match c with
    | '"' => readQuotedWord bash fuel rest (pushText (some .double) "" w)
    | '\\' =>
      match rest with
      | '\n' :: more => readQuotedWord bash fuel more w
      | d :: more =>
        if d = '$' || d = '`' || d = '"' || d = '\\' || d = '}' then readQuotedWord bash fuel more (pushText (some .double) d.toString w)
        else readQuotedWord bash fuel more (pushText (some .double) (String.ofList ['\\', d]) w)
      | [] => pushText (some .double) "\\" w
    | '$' =>
      match readDollar bash true rest with
      | .ok (some (p, more)) => readQuotedWord bash fuel more (w ++ [p])
      | _ => readQuotedWord bash fuel rest (pushText (some .double) "$" w)
    | '`' =>
      match readGrave true rest with
      | .ok (p, more) => readQuotedWord bash fuel more (w ++ [p])
      | .error _ => readQuotedWord bash fuel rest (pushText (some .double) "`" w)
    | _ => readQuotedWord bash fuel rest (pushText (some .double) c.toString w)

/-- Reads the word of a modifier inside double quotes (see `readQuotedWord`). -/
def Word.ofQuotedText (bash : Bool) (text : String) : Word := readQuotedWord bash (text.length + 1) text.toList []

/-- Reads the text of an arithmetic expansion, which is expanded like the body of a
here-document, except that a backslash quotes any character. Quotes are text, so that
an expression that holds them does not read, except that double quotes are dropped when
`dropDouble` says so. -/
def readArithText (bash dropDouble : Bool) : Nat → List Char → Word → Word
  | 0, _, w => w
  | _ + 1, [], w => pushText (some .double) "" w
  | fuel + 1, c :: rest, w =>
    match c with
    | '"' => readArithText bash dropDouble fuel rest (if dropDouble then w else pushText (some .double) "\"" w)
    | '\\' =>
      match rest with
      | '\n' :: more => readArithText bash dropDouble fuel more w
      | d :: more => readArithText bash dropDouble fuel more (pushText (some .double) d.toString w)
      | [] => pushText (some .double) "\\" w
    | '$' =>
      match readDollar bash true rest with
      | .ok (some (p, more)) => readArithText bash dropDouble fuel more (w ++ [p])
      | _ => readArithText bash dropDouble fuel rest (pushText (some .double) "$" w)
    | '`' =>
      match readGrave true rest with
      | .ok (p, more) => readArithText bash dropDouble fuel more (w ++ [p])
      | .error _ => readArithText bash dropDouble fuel rest (pushText (some .double) "`" w)
    | _ => readArithText bash dropDouble fuel rest (pushText (some .double) c.toString w)

/-- Reads the bodies of the waiting here-documents in order. -/
def hereBodies (bash : Bool) (cs : List Char) : List PendingHere → List Word × List Char
  | [] => ([], cs)
  | h :: hs =>
    let (body, rest) := hereLines bash h (cs.length + 1) cs
    let w : Word := if h.expand then readHereBody bash (body.length + 1) body [] else [.quoted (String.ofList body) .single]
    let (ws, rest) := hereBodies bash rest hs
    (w :: ws, rest)

/-- The operators, longest first. -/
def operators : List String :=
  ["&&", "||", ";;", ">>", ">|", ">&", "<&", "<>", ";", "&", "|", "(", ")", ">", "<"]

/-- The operators of the `bash` dialect, longest first: those of the language, the
here-string `<<<`, `&>` and `&>>`, which send both outputs to a file, and `;&` and `;;&`,
which end an arm of `case`. -/
def bashOperators : List String := ["<<<", "&>>", "&>", ";;&", ";&"] ++ operators

/-- Where the reading of tokens stands, as far as the `bash` dialect reads differently
there. -/
structure Scan where
  /-- Whether a command may start at the next token. -/
  start : Bool
  /-- Whether the tokens are inside `[[ ... ]]`. -/
  cond : Bool
  /-- Whether the next word is the regular expression after `=~`. -/
  regex : Bool
  /-- Whether the last token was `for` where a command starts. -/
  afterFor : Bool
  deriving DecidableEq, Repr

/-- Where the reading stands at the start of a line outside `[[ ... ]]`. -/
def Scan.initial : Scan := ⟨true, false, false, false⟩

/-- Where the reading stands after a word: `[[` where a command starts opens a conditional
expression and `]]` closes it, `=~` inside one comes before a regular expression, and a
reserved word after which a command starts keeps the place where one starts. -/
def Scan.afterWord (st : Scan) (w : Word) : Scan :=
  let text : Option String := match w with
    | [.plain s] => some s
    | _ => none
  if st.cond then ⟨false, text != some "]]", text == some "=~", false⟩
  else if st.start && text == some "[[" then ⟨false, true, false, false⟩
  else ⟨st.start && (text.map commandWords.contains).getD false, false, false, st.start && text == some "for"⟩

/-- Where the reading stands after an operator: a command may start after one that is
not a redirection. -/
def Scan.afterOp (st : Scan) (o : String) : Scan :=
  if st.cond then { st with regex := false, start := false }
  else ⟨!(redirectOps.contains o || o == "<<<" || o == "&>" || o == "&>>"), false, false, false⟩

/-- The length of the regular expression after `=~`: up to a blank, a line end or an
operator character outside brackets, where brackets nest and `|` belongs to the
expression; quoted text and expansions are passed over whole. -/
def regexLength : Nat → List Char → Nat → Nat
  | 0, _, _ => 0
  | _ + 1, [], _ => 0
  | fuel + 1, c :: rest, depth =>
    let more (n : Nat) (depth : Nat) : Nat := regexLength fuel ((c :: rest).drop n) depth + n
    if depth = 0 && (c = ' ' || c = '\t' || c = '\n' || c = ';' || c = '&' || c = '<' || c = '>' || c = ')') then 0
    else if c = '(' then more 1 (depth + 1)
    else if c = ')' then more 1 (depth - 1)
    else if c = '\\' then (if rest.isEmpty then 1 else more 2 depth)
    else if c = '\'' || c = '"' || c = '`' then
      match quotedLength c fuel rest with
      | some n => more (n + 1) depth
      | none => (c :: rest).length
    else if c = '$' && (rest.head? == some '(' || rest.head? == some '{') then
      let closing := if rest.head? == some '(' then ')' else '}'
      match bracketLength (rest.headD ' ') closing fuel (rest.drop 1) 0 with
      | some n => more (n + 3) depth
      | none => (c :: rest).length
    else more 1 depth

/-- Tokenizes a script from a line; `pending` are the here-documents opened on the
current line, whose bodies follow its end as `here` tokens. A here-document opens with
the operator `<<`. Each token has its line. Reading stops at the first error, which is
given with the tokens before it. In the `bash` dialect `st` tells where the reading
stands: `((` where a command starts, or after `for`, opens an arithmetic command, and the
regular expression after `=~` is one word. -/
def tokensFrom (bash : Bool) : Nat → Scan → Nat → List Char → List PendingHere → List (Token × Nat) × Option SyntaxError
  | 0, _, _, _, _ => ([], none)
  | _ + 1, _, _, [], _ => ([], none)
  | fuel + 1, st, line, c :: rest, pending =>
    let cs := c :: rest
    let digits := cs.takeWhile Char.isDigit
    let afterDigits := cs.drop digits.length
    let emit (t : Token) (l : Nat) (r : List (Token × Nat) × Option SyntaxError) := ((t, l) :: r.1, r.2)
    -- the list of an array assignment holds words only
    let wrongIn (text : List Char) : Option SyntaxError :=
      ((tokensFrom bash fuel Scan.initial line text []).1.find? fun (t, _) => t matches .op _).map
        fun (t, l) => ⟨"Syntax error: " ++ t.describe ++ " unexpected", l, some (.inList (.near t.bashText))⟩
    let listProblem (w : Word) : Option SyntaxError :=
      w.findSome? fun p => match p with
        | .list text => wrongIn text.toList
        | _ => none
    let word (place : WordPlace) (st : Scan) (text : List Char) (after : List Char) : List (Token × Nat) × Option SyntaxError :=
      match readWord bash place line (text.length + 1) text [] with
      | .error e =>
        -- a list that is not closed may hold a token that cannot stand in it before its end
        if e.bash == some (.inList (.unclosed ")")) then
          ([], some ((wrongIn ((text.dropWhile (· != '(')).drop 1)).getD e))
        else ([], some e)
      | .ok (w, left, n) =>
        match (if bash then listProblem w else none) with
        | some e => ([], some e)
        | none => emit (.word w) line (tokensFrom bash fuel (st.afterWord w) (line + n) (left ++ after) pending)
    if c = ' ' || c = '\t' then tokensFrom bash fuel st line rest pending
    -- a line continued between tokens is a blank, and the next token is on the next line
    else if c = '\\' && rest.head? == some '\n' then tokensFrom bash fuel st (line + 1) rest.tail pending
    else if c = '\n' then
      let (bodies, after) := hereBodies bash rest pending
      let skipped := lineEnds (rest.take (rest.length - after.length))
      let next := if st.cond then { st with start := false, regex := false } else Scan.initial
      let (more, err) := tokensFrom bash fuel next (line + 1 + skipped) after []
      ((.newline, line) :: bodies.map (fun b => (Token.here b, line)) ++ more, err)
    else if c = '#' then
      let comment := cs.takeWhile (· ≠ '\n')
      tokensFrom bash fuel st line (cs.drop comment.length) pending
    else if bash && st.regex then
      let n := regexLength (cs.length + 1) cs 0
      word .modifier st (cs.take n) (cs.drop n)
    else if (digits.length == 1 || (bash && !digits.isEmpty)) &&
        (afterDigits.head? == some '<' || afterDigits.head? == some '>') then
      emit (.fdNumber ((String.ofList digits).toNat?.getD 0)) line (tokensFrom bash fuel st line afterDigits pending)
    else if bash && (fdNameAt cs).isSome then
      match fdNameAt cs with
      | some (n, after) => emit (.fdName n) line (tokensFrom bash fuel st line after pending)
      | none => ([], none)
    else
      let arith? : Option (String × List Char) :=
        match cs with
        | '(' :: '(' :: inner =>
          if bash && !st.cond && (st.start || st.afterFor) then
            match bracketLength '(' ')' (inner.length + 1) inner 0 with
            | some n => if (inner.drop (n + 1)).head? == some ')' then some (String.ofList (inner.take n), inner.drop (n + 2)) else none
            | none => none
          else none
        | _ => none
      match arith?, cs with
      | some (text, after), _ =>
        let k := lineEnds text.toList
        emit (.arithCommand text) line (tokensFrom bash fuel ⟨false, false, false, false⟩ (line + k) after pending)
      | none, '<' :: '<' :: more =>
        if bash && more.head? == some '<' then
          emit (.op "<<<") line (tokensFrom bash fuel (st.afterOp "<<<") line (more.drop 1) pending)
        else
        let (strip, more) := match more with
          | '-' :: r => (true, r)
          | r => (false, r)
        let more := more.dropWhile (fun c => c = ' ' || c = '\t')
        match readWord bash .command line (more.length + 1) more [] with
        | .error e => ([], some e)
        | .ok (w, after, n) =>
          if w.isEmpty then
            match tokensFrom bash fuel st line more [] with
            | (t :: _, _) => ([], some (unexpected [t] line))
            | ([], some e) => ([], some e)
            | ([], none) => ([], some (unexpected [] line))
          else
            let (delim, quoted) := w.unquoted
            emit (.op "<<") line (tokensFrom bash fuel (st.afterOp "<<") (line + n) after (pending ++ [⟨delim, strip, !quoted⟩]))
      | none, _ =>
        let processStart := bash && !st.cond && (c = '<' || c = '>') && rest.head? == some '('
        match (if processStart then none else (if bash then bashOperators else operators).find? (fun o => o.toList.isPrefixOf cs)) with
        | some o =>
          let after := cs.drop o.length
          -- in the `bash` dialect a `-` right after `>&` or `<&` is a word of its own
          if bash && (o == ">&" || o == "<&") && after.head? == some '-' then
            emit (.op o) line (emit (.word [.plain "-"]) line
              (tokensFrom bash fuel (st.afterWord [.plain "-"]) line after.tail pending))
          else emit (.op o) line (tokensFrom bash fuel (st.afterOp o) line after pending)
        | none => word .command st cs []

/-- Gives each `<<` the body of its here-document, in order, and drops the bodies from
where they stood; a here-document with no body left is empty. -/
def attachBodies : List (Token × Nat) → List Word → List (Token × Nat)
  | [], _ => []
  | (.here _, _) :: rest, bs => attachBodies rest bs
  | (.op "<<", l) :: rest, b :: bs => (.here b, l) :: attachBodies rest bs
  | (.op "<<", l) :: rest, [] => (.here [], l) :: attachBodies rest []
  | t :: rest, bs => t :: attachBodies rest bs

/-- The tokens of a script whose lines are numbered from `first`, here-documents with
their bodies, and the error that stopped the reading, if any. -/
def tokensAt (dialect : Dialect) (first : Nat) (script : String) : List (Token × Nat) × Option SyntaxError :=
  let cs := script.toList
  let (ts, err) := tokensFrom (dialect == .bash) (cs.length + 1) Scan.initial first cs []
  let bodies := ts.filterMap fun (t, _) => match t with
    | .here b => some b
    | _ => none
  (attachBodies ts bodies, err)

end HelpMan.Shell
