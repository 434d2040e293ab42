/-!
# Shell scripts

The utilities that the program documents are shell scripts in the working directory.
This module holds the shape of the part of the POSIX shell language that they use.

A script is a list of and-or lists, each a chain of pipelines joined by `&&` and `||`; a
pipeline is one or more commands joined by `|`. A command is a simple command
(assignments, words and redirections), a compound command (a group, a subshell, `if`,
`while`, `until`, `for` or `case`) with redirections, or a function definition.

A word is made of parts: literal text, quoted text, and expansions: parameters, and
parameters with a modifier (`${name:-word}`, `${#name}`, ...), command substitutions and
arithmetic. An expansion stands outside quotes (and its value is split into fields) or
inside them (and it is not). The words that a modifier, a command substitution or an
arithmetic expansion holds are kept as text and read when they are expanded, because
only then is it known whether they are needed.
-/

namespace HelpMan.Shell

/-- The dialect of the shell language that a script is read and run in. -/
inductive Dialect where
  /-- The POSIX shell language, as the system's `sh` runs it. -/
  | posix
  /-- The language of `bash`, which adds arrays, the conditional command `[[ ... ]]`,
  arithmetic commands, more expansions and more built-in commands, and words its messages
  with the line (`line 3: `). -/
  | bash
  deriving DecidableEq, Repr

/-- A parameter that a word may expand. -/
inductive Param where
  /-- A variable, by name. -/
  | var (name : String)
  /-- A positional parameter, `$0` to `$9` and `${n}`. -/
  | positional (n : Nat)
  /-- `$#`, the number of positional parameters. -/
  | count
  /-- `$*`, the positional parameters joined. -/
  | joined
  /-- `$@`, the positional parameters one by one. -/
  | each
  /-- `$$`, the process number of the shell. -/
  | pid
  /-- `$?`, the status of the last command. -/
  | status
  /-- `$!`, the process number of the last command run in the background. -/
  | lastJob
  /-- `$-`, the letters of the options that are on. -/
  | flags
  deriving DecidableEq, Repr

/-- What a modifier of a parameter does with the word after it; `colon` makes an empty
value count as unset. -/
inductive Modifier where
  /-- `${p-word}`: the word when the parameter is unset. -/
  | useDefault (colon : Bool)
  /-- `${p=word}`: the word, also assigned, when the parameter is unset. -/
  | assignDefault (colon : Bool)
  /-- `${p?word}`: an error with the word as message when the parameter is unset. -/
  | errorIfUnset (colon : Bool)
  /-- `${p+word}`: the word when the parameter is set. -/
  | useAlternative (colon : Bool)
  /-- `${p#pattern}`: the value without its shortest (`##`: longest) matching prefix. -/
  | dropPrefix (longest : Bool)
  /-- `${p%pattern}`: the value without its shortest (`%%`: longest) matching suffix. -/
  | dropSuffix (longest : Bool)
  deriving DecidableEq, Repr

/-- How quoted text was written. Quoted text means the same however it was written; only
a function written back (`declare -f`) shows the difference. -/
inductive Quoting where
  /-- In single quotes, or as `$'...'` with its escapes read. -/
  | single
  /-- In double quotes. -/
  | double
  /-- Each character after a backslash. -/
  | escaped
  deriving DecidableEq, Repr

/-- A part of a word. -/
inductive Part where
  /-- Text outside quotes. -/
  | plain (s : String)
  /-- Text inside quotes, or escaped by a backslash, and how it was quoted. -/
  | quoted (s : String) (q : Quoting)
  /-- A parameter expansion; `inQuotes` when it stands inside double quotes. -/
  | param (p : Param) (inQuotes : Bool)
  /-- A parameter with a modifier and the text of its word. -/
  | modified (p : Param) (m : Modifier) (word : String) (inQuotes : Bool)
  /-- `${#p}`, the length of a parameter's value. -/
  | length (p : Param) (inQuotes : Bool)
  /-- A command substitution, by the text of its commands. The commands of `$(...)`
  (`scriptLines`) keep the line numbers of the script around them; those between grave
  accents are numbered from one. -/
  | command (text : String) (inQuotes : Bool) (scriptLines : Bool)
  /-- An arithmetic expansion, by the text of its expression. -/
  | arith (text : String) (inQuotes : Bool)
  /-- Braces that name no parameter, or a parameter in braces followed by something that
  is no modifier: expanding it fails with "Bad substitution". -/
  | badSubstitution
  /-- In the `bash` dialect, `${...}` by the text inside its braces, which is read when
  it is expanded. -/
  | braced (text : String) (inQuotes : Bool)
  /-- `<(...)` (`reads`) or `>(...)`: the commands, run with their output (or input)
  reached through a path that the word becomes. -/
  | process (text : String) (reads : Bool)
  /-- The list `(...)` of an array assignment, by the text inside its brackets. -/
  | list (text : String)
  deriving DecidableEq, Repr

/-- A word: its parts in order. -/
abbrev Word := List Part

/-- How a parameter is written after `$`. -/
def Param.text : Param → String
  | .var n => n
  | .positional n => toString n
  | .count => "#"
  | .joined => "*"
  | .each => "@"
  | .pid => "$"
  | .status => "?"
  | .lastJob => "!"
  | .flags => "-"

/-- A part written back as the text of a word that reads as it: quoted text in single
quotes, expansions in their braces or brackets. Double quotes are not written back, so
that the text expands to the same value but is split like text outside quotes. -/
def Part.source : Part → String
  | .plain s => s
  | .quoted s _ => "'" ++ String.join (s.toList.map fun c => if c = '\'' then "'\\''" else c.toString) ++ "'"
  | .param p _ => "$\x7b" ++ p.text ++ "\x7d"
  | .modified p _ _ _ => "$\x7b" ++ p.text ++ "\x7d"
  | .length p _ => "$\x7b#" ++ p.text ++ "\x7d"
  | .command t _ _ => "$(" ++ t ++ ")"
  | .arith t _ => "$((" ++ t ++ "))"
  | .badSubstitution => ""
  | .braced t _ => "$\x7b" ++ t ++ "\x7d"
  | .process t reads => (if reads then "<(" else ">(") ++ t ++ ")"
  | .list t => "(" ++ t ++ ")"

/-- Text inside double quotes written back: the characters special there are escaped, and
a backslash is doubled where it would otherwise escape what follows it, the closing quote
included. -/
def doubleQuoted (s : String) : String :=
  let cs := s.toList
  String.join (cs.zipIdx.map fun (c, i) =>
    if c == '$' || c == '`' || c == '"' then "\\" ++ c.toString
    else if c == '\\' then
      match cs[i + 1]? with
      | some d => if d == '$' || d == '`' || d == '"' || d == '\\' || d == '\n' then "\\\\" else "\\"
      | none => "\\\\"
    else c.toString)

/-- Whether a part stands inside double quotes. -/
def Part.inDouble : Part → Bool
  | .quoted _ q => q == .double
  | .param _ q | .modified _ _ _ q | .length _ q | .command _ q _ | .arith _ q | .braced _ q => q
  | _ => false

/-- A part written back. Text in double quotes is written without its quotes, which the
word around it adds. -/
def Part.written : Part → String
  | .plain s => s
  | .quoted s .single => "'" ++ String.join (s.toList.map fun c => if c = '\'' then "'\\''" else c.toString) ++ "'"
  | .quoted s .escaped => String.join (s.toList.map fun c => "\\" ++ c.toString)
  | .quoted s .double => doubleQuoted s
  | .param p _ => "$" ++ p.text
  | .command t _ scriptLines => if scriptLines then "$(" ++ t ++ ")" else "`" ++ t ++ "`"
  | p => p.source

/-- A word written back: its parts in order, and a pair of double quotes around each run of
parts that stood in them. -/
def Word.written (w : Word) : String :=
  let (out, inside) := w.foldl (fun (out, inside) (p : Part) =>
    if p.inDouble then (out ++ (if inside then "" else "\"") ++ p.written, true)
    else (out ++ (if inside then "\"" else "") ++ p.written, false)) ("", false)
  if inside then out ++ "\"" else out

/-- How many line ends the text of a part holds, as it was written. -/
def Part.lineBreaks : Part → Nat
  | .plain s | .quoted s _ | .modified _ _ s _ | .command s _ _ | .arith s _ | .braced s _ | .process s _ | .list s =>
    (s.toList.filter (· == '\n')).length
  | _ => 0

/-- How many line ends a word holds, as it was written: the lines it spans past its first. -/
def Word.lineBreaks (w : Word) : Nat := w.foldr (fun p n => p.lineBreaks + n) 0

/-- A redirection of a file descriptor. -/
inductive Redirect where
  /-- `n>file`, or `n>>file` when `append`; `n>|file` (`force`) replaces a file even
  under `set -C`. -/
  | toFile (fd : Nat) (target : Word) (append : Bool) (force : Bool)
  /-- `n<file`. -/
  | fromFile (fd : Nat) (source : Word)
  /-- `n<>file`: the file opened to be read and written, and made if it is missing. -/
  | readWrite (fd : Nat) (target : Word)
  /-- `n>&word` and `n<&word`: `fd` goes where the descriptor that the word names goes,
  or is closed when the word is `-`. -/
  | duplicate (fd : Nat) (target : Word)
  /-- A here-document: the body, to be expanded, on the descriptor. -/
  | here (fd : Nat) (body : Word)
  /-- `n<<<word`: the word, expanded, and a line end, to be read on the descriptor. -/
  | hereString (fd : Nat) (w : Word)
  /-- `&>file`, or `&>>file` when `append`: standard output and standard error to a file. -/
  | bothToFile (target : Word) (append : Bool)
  /-- `{name}` before a redirection: the redirection opens a free descriptor from 10 on and
  sets the variable to its number; one that closes (`{name}>&-`) closes the descriptor
  the variable names. -/
  | named (name : String) (r : Redirect)
  deriving DecidableEq, Repr

/-- A redirection on another descriptor. -/
def Redirect.onFd (fd : Nat) : Redirect → Redirect
  | .toFile _ w append force => .toFile fd w append force
  | .fromFile _ w => .fromFile fd w
  | .readWrite _ w => .readWrite fd w
  | .duplicate _ w => .duplicate fd w
  | .here _ body => .here fd body
  | .hereString _ w => .hereString fd w
  | r => r

/-- A conditional expression of `[[ ... ]]`; its words are expanded without splitting
and without pathname expansion, and only as far as its value needs them. -/
inductive Cond where
  /-- A word alone: true when it is not empty. -/
  | word (w : Word)
  /-- A test with one operand, such as `-f file` or `-z text`. -/
  | unary (op : String) (w : Word)
  /-- A test with two operands: `==` and `!=` against a pattern, `=~` against a regular
  expression, `<` and `>` on texts, `-eq` and the other comparisons of numbers, and
  `-nt`, `-ot`, `-ef` on files. -/
  | binary (op : String) (l r : Word)
  | not (c : Cond)
  | and (a b : Cond)
  | or (a b : Cond)
  deriving DecidableEq, Repr

/-- A simple command. -/
structure Simple where
  assigns : List (String × Word)
  words : List Word
  redirects : List Redirect
  /-- The line the command starts on, from one. -/
  line : Nat
  deriving DecidableEq, Repr

/-- How a pipeline is joined to the one before it. -/
inductive Join where
  | andThen
  | orElse
  deriving DecidableEq, Repr

/-- How an arm of a `case` command ends: `;;` ends the command, `;&` runs the body of the
next arm as well, and `;;&` goes on to test the patterns of the arms after it. -/
inductive ArmEnd where
  | stop
  | fallThrough
  | testNext
  deriving DecidableEq, Repr

mutual

/-- A command of a pipeline. -/
inductive Command where
  | simple (s : Simple)
  /-- `{ list; }`, run by the shell itself. -/
  | group (body : List AndOr) (redirects : List Redirect)
  /-- `( list )`, run by a copy of the shell. -/
  | subshell (body : List AndOr) (redirects : List Redirect)
  /-- `if cond; then yes; else no; fi`; an `elif` is an `if` in the `else` part. -/
  | ifThen (cond yes : List AndOr) (no : Option (List AndOr)) (redirects : List Redirect)
  /-- `while cond; do body; done`, or `until` when `negated`. -/
  | loop (negated : Bool) (cond body : List AndOr) (redirects : List Redirect)
  /-- `for name in words; do body; done`. -/
  | forIn (name : String) (words : List Word) (body : List AndOr) (redirects : List Redirect)
  /-- `select name in words; do body; done`: a menu of the words, and the body run with
  the word chosen on each line read. -/
  | select (name : String) (words : List Word) (body : List AndOr) (redirects : List Redirect)
  /-- `case subject in patterns) body;; ... esac`. -/
  | caseOf (subject : Word) (arms : List CaseArm) (redirects : List Redirect)
  /-- `coproc name command`: the command started beside the shell, which talks to it
  through two descriptors kept in the array `name`. -/
  | coproc (name : String) (body : Command)
  /-- `name() body`, defined on the line given. -/
  | function (name : String) (body : Command) (line : Nat)
  /-- `[[ expression ]]` on a line. -/
  | cond (e : Cond) (line : Nat) (redirects : List Redirect)
  /-- `(( expression ))` on a line, by the text of the expression. -/
  | arith (text : String) (line : Nat) (redirects : List Redirect)
  /-- `for (( start; test; step )); do body; done`, by the texts of the expressions. -/
  | forArith (start test step : String) (line : Nat) (body : List AndOr) (redirects : List Redirect)
  /-- A compound command with redirections, with the line it starts on and the line its
  redirections end on: the `posix` dialect reports a problem with them on the first, the
  `bash` dialect on the second. -/
  | placed (start finish : Nat) (body : Command)

/-- An arm of a `case` command: its patterns, its body and how it ends. -/
structure CaseArm where
  patterns : List Word
  body : List AndOr
  ending : ArmEnd := .stop

/-- A pipeline: commands whose output feeds the next one; `negated` by a leading `!`, and
`timed` by a leading `time` of the `bash` dialect (`some true` for `time -p`). -/
structure Pipeline where
  negated : Bool
  commands : List Command
  timed : Option Bool

/-- An and-or list: a pipeline, and pipelines that run or not by the status so far;
`background` when a `&` after it runs it in the background. -/
structure AndOr where
  first : Pipeline
  rest : List (Join × Pipeline)
  background : Bool

end

/-- A script: its and-or lists in order. -/
abbrev Script := List AndOr

/-- A command without the lines a compound command with redirections is placed at. -/
def Command.bare : Command → Command
  | .placed _ _ c => c
  | c => c

/-- The built-in commands that come before functions of the same name and whose
problems end the shell; no function may take their names. -/
def specialBuiltins : List String :=
  [".", ":", "break", "continue", "eval", "exec", "exit", "export", "local", "readonly", "return", "set", "shift",
   "times", "trap", "unset"]

end HelpMan.Shell
