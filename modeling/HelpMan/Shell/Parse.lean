import HelpMan.Shell.Lex

/-!
# Reading shell scripts

`Source.next` reads the next complete command of a script, one line's and-or lists at a
time, so that a shell can run each before it reads the next; a compound command may span
many lines. A word that names an alias where a command starts is replaced by the alias's
text (`expandAliases`).

* A simple command is a run of words, assignments (`name=value` before the first word)
  and redirections; a word followed by `()` starts a function definition, whose body is
  the command after it.
* `|` joins commands into a pipeline, a leading `!` negates it, and `&&` and `||` join
  pipelines. `;`, `&` and line ends separate and-or lists.
* The reserved words `if`, `while`, `until`, `for`, `case` and `{` start compound
  commands when they stand where a command starts, and `(` starts a subshell. A list
  inside a compound command ends at a reserved word that closes something (`then`,
  `else`, `elif`, `fi`, `do`, `done`, `esac`, `}`), at `)`, at `;;`, or at the end of the
  script; it must not be empty, except the body of a `case` arm.
* Redirections may follow a compound command.

A token where a command should start, a redirection without its word, and a missing
reserved word are syntax errors, worded as the shell words them. Reading stops at the
first error; the complete commands before it are kept, because a shell runs each
complete command before it reads the next.
-/

namespace HelpMan.Shell

/-- The error of a token that is not the one the grammar needs next. -/
def expecting (what : String) : List (Token × Nat) → Nat → SyntaxError
  | ts, l =>
    let e := unexpected ts l
    { e with message := e.message ++ " (expecting " ++ what ++ ")" }

/-- Whether a text is a variable name. -/
def isName (s : String) : Bool :=
  match s.toList with
  | c :: rest => isNameStart c && rest.all isNameChar
  | [] => false

/-- Whether a text is the target of an assignment in the `bash` dialect: a name, maybe
with a subscript in brackets, and maybe a `+` after it to append. -/
def isBashTarget (t : List Char) : Bool :=
  let t := match t.reverse with
    | '+' :: r => r.reverse
    | _ => t
  let name := t.takeWhile isNameChar
  match t.head?, t.drop name.length with
  | some c, [] => isNameStart c
  | some c, '[' :: sub => isNameStart c && sub.getLast? == some ']' && sub.length > 1
  | _, _ => false

/-- The target and value of an assignment word `name=value`; in the `bash` dialect the
target may also be `name[subscript]`, and `name+` appends. -/
def assignment? (bash : Bool) (w : Word) : Option (String × Word) :=
  match w with
  | .plain s :: rest =>
    let cs := s.toList
    -- a subscript may hold `=`, so the target ends at the first `=` after its brackets
    let name := if bash then
        let head := cs.takeWhile (fun c => c ≠ '=' && c ≠ '[')
        match cs.drop head.length with
        | '[' :: more =>
          let sub := more.takeWhile (· ≠ ']')
          head ++ '[' :: sub ++ ((more.drop sub.length).takeWhile (· ≠ '='))
        | _ => head
      else cs.takeWhile (· ≠ '=')
    let ok := if bash then isBashTarget name else isName (String.ofList name)
    if name.length < cs.length && ok then
      let value := (cs.drop (name.length + 1))
      some (String.ofList name, (if value.isEmpty then [] else [.plain (String.ofList value)]) ++ rest)
    else if bash && name.length == cs.length && name.contains '[' && !name.contains ']' then
      -- a subscript with expansions in it ends in a later part, at its `]=` or `]+=`
      let closes (p : Part) : Bool := match p with
        | .plain t => (t.splitOn "]=").length > 1 || (t.splitOn "]+=").length > 1
        | _ => false
      let inside := rest.takeWhile (!closes ·)
      match rest.drop inside.length with
      | .plain t :: after =>
        let tcs := t.toList
        let upTo := tcs.takeWhile (· ≠ '=')
        let target := s ++ String.join (inside.map Part.source) ++ String.ofList upTo
        let value := tcs.drop (upTo.length + 1)
        if isBashTarget target.toList then
          some (target, (if value.isEmpty then [] else [.plain (String.ofList value)]) ++ after)
        else none
      | _ => none
    else none
  | _ => none

/-- The number that a word of digits names. -/
def fdOf? (w : Word) : Option Nat :=
  match w with
  | [.plain s] => if !s.isEmpty && s.all Char.isDigit then some (s.toNat?.getD 0) else none
  | _ => none

/-- Drops line ends. -/
def skipNewlines (ts : List (Token × Nat)) : List (Token × Nat) :=
  ts.dropWhile fun (t, _) => t.isNewline

/-- The line of the first token, or the last line given. -/
def lineOf (ts : List (Token × Nat)) (l : Nat) : Nat := (ts.head?.map Prod.snd).getD l

/-- Whether the next token ends a list: a closing reserved word, `)`, `;;`, or the end. -/
def endsList (ts : List (Token × Nat)) : Bool :=
  match ts with
  | [] => true
  | (t, _) :: _ =>
    match t.reserved? with
    | some r => ["then", "else", "elif", "fi", "do", "done", "esac", "\x7d"].contains r
    | none => t == .op ")" || t == .op ";;" || t == .op ";&" || t == .op ";;&"

/-- Whether the tokens start a compound command. -/
def startsCompound (ts : List (Token × Nat)) : Bool :=
  match ts with
  | (.op "(", _) :: _ | (.arithCommand _, _) :: _ => true
  | (.word [.plain w], _) :: _ => ["\x7b", "if", "while", "until", "for", "case", "select", "[["].contains w
  | _ => false

/-- Whether the next token is the given reserved word. -/
def startsWith (r : String) (ts : List (Token × Nat)) : Bool :=
  match ts with
  | (t, _) :: _ => t.reserved? == some r
  | [] => false

/-- Reads one redirection, with the descriptor number before it if any. -/
def redirectionAt (ts : List (Token × Nat)) : Except SyntaxError (Option (Redirect × List (Token × Nat))) :=
  let (fd?, ts') : Option Nat × List (Token × Nat) := match ts with
    | (.fdNumber n, _) :: rest => (some n, rest)
    | _ => (none, ts)
  match ts' with
  | (.here body, _) :: rest => .ok (some (.here (fd?.getD 0) body, rest))
  | (.op "<<<", l) :: rest =>
    match rest with
    | (.word w, _) :: more => .ok (some (.hereString (fd?.getD 0) w, more))
    | _ => .error (unexpected rest l)
  | (.op "&>", l) :: rest | (.op "&>>", l) :: rest =>
    match rest with
    | (.word w, _) :: more => .ok (some (.bothToFile w (ts'.head?.map Prod.fst == some (.op "&>>")), more))
    | _ => .error (unexpected rest l)
  | (.op o, l) :: rest =>
    if redirectOps.contains o then
      match rest with
      | (.word w, _) :: more =>
        let fdOut := fd?.getD 1
        let fdIn := fd?.getD 0
        if o = ">" then .ok (some (.toFile fdOut w false false, more))
        else if o = ">|" then .ok (some (.toFile fdOut w false true, more))
        else if o = ">>" then .ok (some (.toFile fdOut w true false, more))
        else if o = "<" then .ok (some (.fromFile fdIn w, more))
        else if o = "<>" then .ok (some (.readWrite fdIn w, more))
        else .ok (some (.duplicate (if o = ">&" then fdOut else fdIn) w, more))
      | _ => .error (unexpected rest l)
    else .ok none
  | _ => .ok none

/-- Reads one redirection at the front of the tokens: the redirection and the rest,
`none` when there is none, or the error of a redirection without its word. -/
def redirection? (ts : List (Token × Nat)) : Except SyntaxError (Option (Redirect × List (Token × Nat))) :=
  match ts with
  | (.fdName n, _) :: rest =>
    match redirectionAt rest with
    | .ok (some (r, more)) => .ok (some (.named n r, more))
    | other => other
  | _ => redirectionAt ts

/-- Reads the redirections that follow a command. -/
def redirections : Nat → List (Token × Nat) → Except SyntaxError (List Redirect × List (Token × Nat))
  | 0, ts => .ok ([], ts)
  | fuel + 1, ts => do
    match ← redirection? ts with
    | some (r, rest) =>
      let (rs, rest) ← redirections fuel rest
      return (r :: rs, rest)
    | none => return ([], ts)

/-- The aliases of a shell: names, each with the text it stands for. -/
abbrev Aliases := List (String × String)

/-- The total length of the texts of aliases, which bounds how far they make a command
grow. -/
def aliasSize (al : Aliases) : Nat := al.foldl (fun n (_, v) => n + v.length + 1) 0

/-- What the reading of commands depends on besides the tokens: the aliases in force,
and whether the script is in the `bash` dialect. -/
structure Grammar where
  aliases : Aliases
  bash : Bool

/-- A word token that is a name being replaced, kept from being replaced again. -/
def freeze (chain : List String) : Token × Nat → Token × Nat
  | (.word [.plain s], l) => if chain.contains s then (.word [.plain s, .quoted "" .escaped], l) else (.word [.plain s], l)
  | t => t

/-- Whether a text ends with a blank or a tab. -/
def endsBlank (s : String) : Bool := s.endsWith " " || s.endsWith "\t"

/-- Replaces an unquoted word at the front of the tokens that names an alias by the tokens
of its text, on the word's line, as long as the front names one; a name is not replaced
inside its own text (`chain` holds the names being replaced). After a text that ends with
a blank, the word after it is looked up too. -/
def expandAliases (g : Grammar) : Nat → List String → List (Token × Nat) → List (Token × Nat)
  | 0, _, ts => ts
  | fuel + 1, chain, ts =>
    match ts with
    | (.word [.plain s], l) :: rest =>
      match g.aliases.lookup s with
      | some v =>
        let chain := s :: chain
        let replaced := (tokensAt (if g.bash then .bash else .posix) l v).1.map fun (t, _) => freeze chain (t, l)
        let rest := if endsBlank v then expandAliases g fuel chain rest else rest
        expandAliases g fuel chain (replaced ++ rest)
      | none => ts
    | _ => ts

/-- Reads the rest of a simple command; a word followed by `(` when the command is only
that word is where a function definition starts, and it ends the command read so far.
Before the command's name, after an assignment or a redirection, a word may name an
alias. -/
def simpleFrom (al : Grammar) : Nat → List (Token × Nat) → Simple → Except SyntaxError (Simple × List (Token × Nat))
  | 0, ts, s => .ok (s, ts)
  | fuel + 1, ts, s => do
    let ts := if s.words.isEmpty && !(s.assigns.isEmpty && s.redirects.isEmpty) then
        expandAliases al (aliasSize al.aliases + 1) [] ts
      else ts
    match ← redirection? ts with
    | some (r, rest) => simpleFrom al fuel rest { s with redirects := s.redirects ++ [r] }
    | none =>
      match ts with
      | (.word w, _) :: rest =>
        if s.words.isEmpty then
          match assignment? al.bash w with
          | some a => simpleFrom al fuel rest { s with assigns := s.assigns ++ [a] }
          | none => simpleFrom al fuel rest { s with words := [w] }
        else simpleFrom al fuel rest { s with words := s.words ++ [w] }
      | _ => .ok (s, ts)

/-- Whether a simple command is empty. -/
def Simple.isEmpty (s : Simple) : Bool := s.assigns.isEmpty && s.words.isEmpty && s.redirects.isEmpty

/-- Checks that the next token is a reserved word and drops it. -/
def expectWord (r : String) (ts : List (Token × Nat)) (l : Nat) : Except SyntaxError (List (Token × Nat)) :=
  if startsWith r ts then .ok (ts.drop 1) else .error (expecting ("\"" ++ r ++ "\"") ts l)

/-- Checks that the next token is an operator and drops it. -/
def expectOp (o : String) (ts : List (Token × Nat)) (l : Nat) : Except SyntaxError (List (Token × Nat)) :=
  match ts with
  | (.op p, _) :: rest => if p = o then .ok rest else .error (expecting ("\"" ++ o ++ "\"") ts l)
  | _ => .error (expecting ("\"" ++ o ++ "\"") ts l)

/-- Reads the words of a `for` command after `in`, up to the `;` or line end after them. -/
def forWords : Nat → List (Token × Nat) → Nat → Except SyntaxError (List Word × List (Token × Nat))
  | 0, ts, _ => .ok ([], ts)
  | fuel + 1, ts, l =>
    match ts with
    | (.word w, _) :: rest => do
      let (ws, rest) ← forWords fuel rest l
      return (w :: ws, rest)
    | (.op ";", _) :: rest | (.newline, _) :: rest => .ok ([], rest)
    | _ => .error (unexpected ts l)

/-- Reads the patterns of a `case` arm, separated by `|`, and the `)` after them. -/
def casePatterns : Nat → List (Token × Nat) → Nat → Except SyntaxError (List Word × List (Token × Nat))
  | 0, ts, _ => .ok ([], ts)
  | fuel + 1, ts, l =>
    match ts with
    | (.word w, _) :: (.op "|", _) :: rest => do
      let (ws, rest) ← casePatterns fuel rest l
      return (w :: ws, rest)
    | (.word w, _) :: rest => do
      let rest ← expectOp ")" rest l
      return ([w], rest)
    | _ => .error (expecting "\")\"" (ts.drop 1) l)

/-- The tests of `[[ ... ]]` with one operand. -/
def condUnaryOps : List String :=
  ["-a", "-b", "-c", "-d", "-e", "-f", "-g", "-h", "-k", "-p", "-r", "-s", "-t", "-u", "-w", "-x", "-G", "-L",
   "-N", "-O", "-S", "-z", "-n", "-o", "-v", "-R"]

/-- The tests of `[[ ... ]]` with two operands, written as words. -/
def condBinaryOps : List String :=
  ["==", "=", "!=", "=~", "-eq", "-ne", "-lt", "-le", "-gt", "-ge", "-nt", "-ot", "-ef"]

/-- The text of a token that is a word of unquoted text alone. -/
def Token.plainText? : Token → Option String
  | .word [.plain s] => some s
  | _ => none

/-- The error of a conditional expression that does not read, at a token. -/
def condError (ts : List (Token × Nat)) (l : Nat) : SyntaxError :=
  match ts with
  | (t, l') :: _ => .plain ("syntax error in conditional expression: unexpected token " ++ t.describe) l'
  | [] => .plain "unexpected EOF while looking for `]]'" l

/-- The binary test that a token names, if it names one: a word of `condBinaryOps`, or
`<` and `>`, which compare texts. -/
def condBinary? : Token → Option String
  | .op "<" => some "<"
  | .op ">" => some ">"
  | t => (t.plainText?).filter condBinaryOps.contains

mutual

/-- Reads a conditional expression: terms joined by `||`, which binds loosest. -/
def condOr : Nat → List (Token × Nat) → Nat → Except SyntaxError (Cond × List (Token × Nat))
  | 0, ts, l => .error (condError ts l)
  | fuel + 1, ts, l => do
    let (a, rest) ← condAnd fuel ts l
    match skipNewlines rest with
    | (.op "||", _) :: more =>
      let (b, more) ← condOr fuel (skipNewlines more) l
      return (.or a b, more)
    | _ => return (a, rest)

/-- Reads terms joined by `&&`. -/
def condAnd : Nat → List (Token × Nat) → Nat → Except SyntaxError (Cond × List (Token × Nat))
  | 0, ts, l => .error (condError ts l)
  | fuel + 1, ts, l => do
    let (a, rest) ← condTerm fuel ts l
    match skipNewlines rest with
    | (.op "&&", _) :: more =>
      let (b, more) ← condAnd fuel (skipNewlines more) l
      return (.and a b, more)
    | _ => return (a, rest)

/-- Reads a term: `! term`, an expression in brackets, a test with one operand, a test
with two, or a word alone. -/
def condTerm : Nat → List (Token × Nat) → Nat → Except SyntaxError (Cond × List (Token × Nat))
  | 0, ts, l => .error (condError ts l)
  | fuel + 1, ts, l =>
    match skipNewlines ts with
    | (.word [.plain "!"], _) :: rest => do
      let (c, rest) ← condTerm fuel rest l
      return (.not c, rest)
    | (.op "(", _) :: rest => do
      let (c, rest) ← condOr fuel rest l
      match skipNewlines rest with
      | (.op ")", _) :: more => return (c, more)
      | other => throw (condError other l)
    | (.word w, _) :: rest =>
      let op? := (Token.word w).plainText?
      match rest with
      | (t, _) :: (.word r, _) :: more =>
        match condBinary? t with
        | some b => .ok (.binary b w r, more)
        | none =>
          if (op?.map condUnaryOps.contains).getD false && t.plainText? != some "]]" then
            match t with
            | .word x => .ok (.unary (op?.getD "") x, rest.drop 1)
            | _ => .ok (.word w, rest)
          else .ok (.word w, rest)
      | (.word x, _) :: more =>
        if (op?.map condUnaryOps.contains).getD false && (Token.word x).plainText? != some "]]" then
          .ok (.unary (op?.getD "") x, more)
        else .ok (.word w, rest)
      | (t, _) :: more =>
        match condBinary? t with
        | some _ => .error (condError more l)
        | none => .ok (.word w, rest)
      | [] => .ok (.word w, rest)
    | other => .error (condError other l)

end

/-- Splits the text of `for (( ... ))` into its three expressions. -/
def forParts (text : String) : Option (String × String × String) :=
  match text.splitOn ";" with
  | [a, b, c] => some (a, b, c)
  | _ => none

mutual

/-- Reads the list of a compound command: and-or lists up to a token that ends a list.
Only an arm of `case` may have an empty one. -/
def compoundList (al : Grammar) : Nat → List (Token × Nat) → Nat → Bool → Except SyntaxError (List AndOr × List (Token × Nat))
  | 0, ts, _, _ => .ok ([], ts)
  | fuel + 1, ts, l, mayEnd =>
    let ts := skipNewlines ts
    if ts.isEmpty || (mayEnd && endsList ts) then .ok ([], ts)
    else do
      let (a, rest) ← andOr al fuel ts l
      match rest with
      | (.op ";", _) :: more | (.newline, _) :: more =>
        let (as, more) ← compoundList al fuel more l true
        return (a :: as, more)
      | (.op "&", _) :: more =>
        let (as, more) ← compoundList al fuel more l true
        return ({ a with background := true } :: as, more)
      | _ => return ([a], rest)

/-- Reads an and-or list. -/
def andOr (al : Grammar) : Nat → List (Token × Nat) → Nat → Except SyntaxError (AndOr × List (Token × Nat))
  | 0, ts, _ => .ok (⟨⟨false, [], none⟩, [], false⟩, ts)
  | fuel + 1, ts, l => do
    let (p, rest) ← pipeline al fuel ts l
    let (ps, rest) ← andOrRest al fuel rest l
    return (⟨p, ps, false⟩, rest)

/-- Reads the pipelines after the first of an and-or list. -/
def andOrRest (al : Grammar) : Nat → List (Token × Nat) → Nat → Except SyntaxError (List (Join × Pipeline) × List (Token × Nat))
  | 0, ts, _ => .ok ([], ts)
  | fuel + 1, ts, l =>
    let join? : Option Join := match ts with
      | (.op "&&", _) :: _ => some .andThen
      | (.op "||", _) :: _ => some .orElse
      | _ => none
    match join? with
    | some j => do
      let rest := skipNewlines (ts.drop 1)
      let (p, more) ← pipeline al fuel rest (lineOf ts l)
      let (ps, more) ← andOrRest al fuel more l
      return ((j, p) :: ps, more)
    | none => .ok ([], ts)

/-- Reads a pipeline. -/
def pipeline (al : Grammar) : Nat → List (Token × Nat) → Nat → Except SyntaxError (Pipeline × List (Token × Nat))
  | 0, ts, _ => .ok (⟨false, [], none⟩, ts)
  | fuel + 1, ts, l => do
    -- `time`, with `-p`, and `!` may come in either order
    let timeAt (ts : List (Token × Nat)) : Option Bool × List (Token × Nat) :=
      match ts with
      | (.word [.plain "time"], _) :: (.word [.plain "-p"], _) :: more => if al.bash then (some true, more) else (none, ts)
      | (.word [.plain "time"], _) :: more => if al.bash then (some false, more) else (none, ts)
      | _ => (none, ts)
    let (timed, ts) := timeAt ts
    let (negated, ts) := if startsWith "!" ts then (true, ts.drop 1) else (false, ts)
    let (timed, ts) := if timed.isNone then timeAt ts else (timed, ts)
    let (c, rest) ← command al fuel ts l
    let (cs, rest) ← pipeRest al fuel rest l
    return (⟨negated, c :: cs, timed⟩, rest)

/-- Reads the commands after the first of a pipeline. -/
def pipeRest (al : Grammar) : Nat → List (Token × Nat) → Nat → Except SyntaxError (List Command × List (Token × Nat))
  | 0, ts, _ => .ok ([], ts)
  | fuel + 1, ts, l =>
    match ts with
    | (.op "|", l') :: rest => do
      let rest := skipNewlines rest
      let (c, more) ← command al fuel rest l'
      let (cs, more) ← pipeRest al fuel more l
      return (c :: cs, more)
    | _ => .ok ([], ts)

/-- Reads a command: a compound command with its redirections, a function definition, or
a simple command, which must not be empty. -/
def command (al : Grammar) : Nat → List (Token × Nat) → Nat → Except SyntaxError (Command × List (Token × Nat))
  | 0, ts, _ => .ok (.simple ⟨[], [], [], 0⟩, ts)
  | fuel + 1, ts, l =>
    let ts := expandAliases al (aliasSize al.aliases + 1) [] ts
    let l := lineOf ts l
    let withRedirects (make : List Redirect → Command) (rest : List (Token × Nat)) :
        Except SyntaxError (Command × List (Token × Nat)) := do
      let (rs, after) ← redirections (rest.length + 1) rest
      if rs.isEmpty then return (make rs, after)
      else
        let finish := ((rest.take (rest.length - after.length)).getLast?.map Prod.snd).getD l
        return (.placed l finish (make rs), after)
    match ts with
    | (.arithCommand text, _) :: rest => withRedirects (.arith text l) rest
    | (.word [.plain "[["], _) :: rest =>
      if al.bash then do
        let (c, rest) ← condOr fuel rest l
        match skipNewlines rest with
        | (.word [.plain "]]"], _) :: more => withRedirects (.cond c l) more
        | other => .error (condError other l)
      else command al fuel ((.word [.plain "[[", .quoted "" .escaped], l) :: rest) l
    | (.word [.plain "coproc"], _) :: rest =>
      if al.bash then
        -- a name is taken only before a compound command
        let named : Option String := match rest with
          | (.word [.plain n], _) :: more => if isName n && startsCompound more then some n else none
          | _ => none
        match named with
        | some n => do
          let (body, after) ← command al fuel (rest.drop 1) l
          return (.coproc n body, after)
        | none => do
          let (body, after) ← command al fuel rest l
          return (.coproc "COPROC" body, after)
      else command al fuel ((.word [.plain "coproc", .quoted "" .escaped], l) :: rest) l
    | (.word [.plain "select"], _) :: (.word [.plain name], _) :: rest =>
      if al.bash then
        if !isName name then .error (.plain ("syntax error near unexpected token `" ++ name ++ "'") l)
        else do
          let rest := skipNewlines rest
          let (words, rest) ← if startsWith "in" rest then forWords fuel (rest.drop 1) l
            else match rest with
              | (.op ";", _) :: more => pure ([[.param .each true]], more)
              | _ => pure ([[.param .each true]], rest)
          let rest ← expectWord "do" (skipNewlines rest) l
          let (body, rest) ← compoundList al fuel rest l false
          let rest ← expectWord "done" rest l
          withRedirects (.select name words body) rest
      else command al fuel ((.word [.plain "select", .quoted "" .escaped], l) :: (.word [.plain name], l) :: rest) l
    | (.word [.plain "function"], _) :: (.word [.plain name], _) :: rest =>
      if al.bash then do
        let rest := match rest with
          | (.op "(", _) :: (.op ")", _) :: more => more
          | _ => rest
        let (body, more) ← command al fuel (skipNewlines rest) l
        return (.function name body l, more)
      else command al fuel ((.word [.plain "function", .quoted "" .escaped], l) :: (.word [.plain name], l) :: rest) l
    | (t, _) :: rest =>
      match t.reserved?, t with
      | some "if", _ => do
        let (cond, yes, no, rest) ← ifParts al fuel rest l
        let rest ← expectWord "fi" rest l
        withRedirects (.ifThen cond yes no) rest
      | some "while", _ | some "until", _ => do
        let (cond, rest) ← compoundList al fuel rest l false
        let rest ← expectWord "do" rest l
        let (body, rest) ← compoundList al fuel rest l false
        let rest ← expectWord "done" rest l
        withRedirects (.loop (t.reserved? == some "until") cond body) rest
      | some "for", _ =>
        match rest with
        | (.arithCommand text, _) :: rest =>
          match forParts text with
          | none => .error (.plain "syntax error: arithmetic expression required" l)
          | some (a, b, c) => do
            let rest := match skipNewlines rest with
              | (.op ";", _) :: more => more
              | more => more
            let rest ← expectWord "do" (skipNewlines rest) l
            let (body, rest) ← compoundList al fuel rest l false
            let rest ← expectWord "done" rest l
            withRedirects (.forArith a b c l body) rest
        | (.word [.plain name], _) :: rest =>
          if !isName name && !al.bash then .error (.plain "Syntax error: Bad for loop variable" l)
          else do
            let rest := skipNewlines rest
            let (words, rest) ← if startsWith "in" rest then forWords fuel (rest.drop 1) l
              else match rest with
                | (.op ";", _) :: more => pure ([[.param .each true]], more)
                | _ => pure ([[.param .each true]], rest)
            let rest ← expectWord "do" (skipNewlines rest) l
            let (body, rest) ← compoundList al fuel rest l false
            let rest ← expectWord "done" rest l
            withRedirects (.forIn name words body) rest
        | (.word w, _) :: rest =>
          -- the `bash` dialect takes any word here, and finds a name that is not one only
          -- when the loop runs
          if al.bash then
            command al fuel ((.word [.plain "for"], l) :: (.word [.plain (String.join (w.map Part.source))], l) :: rest) l
          else .error (.plain "Syntax error: Bad for loop variable" l)
        | _ => .error (if al.bash then unexpected rest l else .plain "Syntax error: Bad for loop variable" l)
      | some "case", _ =>
        match rest with
        | (.word subject, _) :: rest => do
          let rest ← expectWord "in" (skipNewlines rest) l
          let (arms, rest) ← caseArms al fuel rest l
          withRedirects (.caseOf subject arms) rest
        | _ => .error (expecting "word" rest l)
      | some "\x7b", _ => do
        let (body, rest) ← compoundList al fuel rest l false
        let rest ← expectWord "\x7d" rest l
        withRedirects (.group body) rest
      | some _, _ => .error (unexpected ts l)
      | none, .op "(" => do
        let (body, rest) ← compoundList al fuel rest l false
        let rest ← expectOp ")" rest l
        withRedirects (.subshell body) rest
      | none, _ => do
        -- a simple command is numbered by the line its first word ends on; in the `bash`
        -- dialect a first word that is no assignment is numbered by the token after it, and
        -- a first redirection by the line its word ends on
        let ending : List (Token × Nat) → Nat → Nat := fun ts l => match ts with
          | (.word w, wl) :: _ => wl + w.lineBreaks
          | (_, tl) :: _ => tl
          | [] => l
        let l := match ts with
          | (.word w, _) :: rest =>
            if al.bash && (assignment? true w).isNone then ending rest (l + w.lineBreaks) else l + w.lineBreaks
          | (.fdNumber _, _) :: (.op _, _) :: rest | (.fdName _, _) :: (.op _, _) :: rest | (.op _, _) :: rest =>
            if al.bash then ending rest l else l
          | _ => l
        let (s, rest) ← simpleFrom al (ts.length + 1) ts ⟨[], [], [], l⟩
        match s.words, rest with
        | [w], (.op "(", _) :: more =>
          if s.assigns.isEmpty && s.redirects.isEmpty then do
            let more ← expectOp ")" more l
            match w with
            | [.plain name] =>
              if !al.bash && (!isName name || specialBuiltins.contains name) then .error (.plain "Syntax error: Bad function name" l)
              -- the body of a function of the `bash` dialect is a compound command
              else if al.bash && !startsCompound (skipNewlines more) then .error (unexpected (skipNewlines more) l)
              else do
                let (body, more) ← command al fuel (skipNewlines more) l
                return (.function name body l, more)
            | _ => .error (.plain "Syntax error: Bad function name" l)
          else .error (unexpected rest l)
        | _, _ =>
          if s.isEmpty then .error (unexpected ts l) else return (.simple s, rest)
    | [] => .error (unexpected ts l)

/-- Reads the parts of an `if` command up to its `fi`: the condition, the list after
`then`, and the list after `else`, where an `elif` is a new `if` command. -/
def ifParts (al : Grammar) : Nat → List (Token × Nat) → Nat →
    Except SyntaxError (List AndOr × List AndOr × Option (List AndOr) × List (Token × Nat))
  | 0, ts, _ => .ok ([], [], none, ts)
  | fuel + 1, ts, l => do
    let (cond, rest) ← compoundList al fuel ts l false
    let rest ← expectWord "then" rest l
    let (yes, rest) ← compoundList al fuel rest l false
    if startsWith "elif" rest then
      let (c, y, n, rest) ← ifParts al fuel (rest.drop 1) l
      return (cond, yes, some [⟨⟨false, [.ifThen c y n []], none⟩, [], false⟩], rest)
    else if startsWith "else" rest then
      let (no, rest) ← compoundList al fuel (rest.drop 1) l false
      return (cond, yes, some no, rest)
    else return (cond, yes, none, rest)

/-- Reads the arms of a `case` command and its `esac`. -/
def caseArms (al : Grammar) : Nat → List (Token × Nat) → Nat → Except SyntaxError (List CaseArm × List (Token × Nat))
  | 0, ts, _ => .ok ([], ts)
  | fuel + 1, ts, l =>
    let ts := skipNewlines ts
    if startsWith "esac" ts then .ok ([], ts.drop 1)
    else do
      let ts := match ts with
        | (.op "(", _) :: rest => rest
        | _ => ts
      let (patterns, rest) ← casePatterns (ts.length + 1) ts l
      let (body, rest) ← compoundList al fuel rest l true
      let rest := skipNewlines rest
      if startsWith "esac" rest then return ([⟨patterns, body, .stop⟩], rest.drop 1)
      else
        let ending : Option ArmEnd := match rest with
          | (.op ";;", _) :: _ => some .stop
          | (.op ";&", _) :: _ => some .fallThrough
          | (.op ";;&", _) :: _ => some .testNext
          | _ => none
        match ending with
        | some e =>
          let (arms, more) ← caseArms al fuel (rest.drop 1) l
          return (⟨patterns, body, e⟩ :: arms, more)
        | none => .error (expecting "\";;\"" rest l)

end

/-- Reads the and-or lists of one line, up to its end; a token that cannot follow an
and-or list is a syntax error, which stops the whole line before any of it runs. When
`closesEarly`, such a token, or one that ends a list where a list starts, ends the
commands instead, and what follows it is not read. -/
def lineLists (al : Grammar) (closesEarly : Bool) : Nat → List (Token × Nat) → Nat →
    Except SyntaxError (List AndOr × List (Token × Nat))
  | 0, ts, _ => .ok ([], ts)
  | fuel + 1, ts, l =>
    match ts with
    | [] => .ok ([], [])
    | (.newline, _) :: rest => .ok ([], rest)
    | _ =>
      if closesEarly && endsList ts then .ok ([], []) else do
      -- each token is read at most eight calls deep below the and-or list it belongs to
      let (a, rest) ← andOr al (8 * ts.length + 8 * aliasSize al.aliases + 8) ts l
      match rest with
      | (.op ";", _) :: more =>
        let (as, more) ← lineLists al closesEarly fuel more l
        return (a :: as, more)
      | (.op "&", _) :: more =>
        let (as, more) ← lineLists al closesEarly fuel more l
        return ({ a with background := true } :: as, more)
      | [] => return ([a], [])
      | (.newline, _) :: more => return ([a], more)
      | _ => if closesEarly then return ([a], []) else .error (unexpected rest l)

/-- Whether a reading error is found only at the end of the script: the end itself, or
something that is never closed. -/
def SyntaxError.atEnd (e : SyntaxError) : Bool :=
  ["end of file unexpected", "Unterminated quoted string", "EOF in backquote", "Missing"].any
    fun m => (e.message.splitOn m).length > 1

/-- A script being read: the tokens not read yet, the error that stopped the reading of
its tokens, if any, and its lines, each with its line end. -/
structure Source where
  tokens : List (Token × Nat)
  error : Option SyntaxError
  lines : List String
  /-- The line after the last line end. -/
  lastLine : Nat
  /-- Whether its lines are written as they are read under `set -v`: those of a file are;
  those of a text the shell was given (to `eval`, as a trap, after `-c` or in a command
  substitution) are not, because the shell has the whole text at once. -/
  echoed : Bool
  /-- Whether its commands end at the first token that cannot continue them, what follows
  being passed over, as the commands between grave accents do. -/
  closesEarly : Bool
  /-- The dialect it is read in. -/
  dialect : Dialect
  /-- The number of its first line. -/
  first : Nat
  /-- What the `bash` dialect names it by in a syntax error, besides the shell's name: the
  text of `eval` or `-c`, or a file read by `source`. -/
  origin : Option String := none
  /-- Whether a syntax error in it ends only its reading, and not the shell, as in a text
  given to `eval` or a file read by `source` in the `bash` dialect. -/
  recoverable : Bool := false

/-- The lines of a text, each with its line end; a last line without one is kept. -/
def linesOf (text : String) : List String :=
  match (text.splitOn "\n").reverse with
  | "" :: rest => rest.reverse.map (· ++ "\n")
  | last :: rest => rest.reverse.map (· ++ "\n") ++ [last]
  | [] => []

/-- A script ready to be read, whose lines are numbered from `first`. A reading error stops
the script at the start of the line it is on; one found at the end of the script is on its
last line, after its last line end. -/
def Source.read (dialect : Dialect) (first : Nat) (echoed : Bool) (script : String) : Source :=
  let (ts, lexError) := Shell.tokensAt dialect first script
  -- tokens after the last line end belong to a command the error cut short
  let ts := match lexError with
    | some _ => (ts.reverse.dropWhile (fun (t, _) => !t.isNewline)).reverse
    | none => ts
  let lines := linesOf script
  let lastLine := first + (script.toList.filter (· = '\n')).length
  { tokens := ts, error := lexError.map (fun e => if e.atEnd then { e with line := lastLine } else e),
    lines := lines, lastLine := lastLine, echoed := echoed, closesEarly := false, dialect := dialect, first := first }

/-- The script of a file, read line by line from line one. -/
def Source.ofText (dialect : Dialect) (script : String) : Source := Source.read dialect 1 true script

/-- A text the shell was given whole, whose lines are numbered from `first`. -/
def Source.ofString (dialect : Dialect) (first : Nat) (script : String) : Source := Source.read dialect first false script

/-- The commands between grave accents, numbered from line one. -/
def Source.ofGrave (dialect : Dialect) (script : String) : Source :=
  { Source.read dialect 1 false script with closesEarly := true }

/-- The line where the `bash` dialect finds the end of a script: the script ends in a line
end, which it adds when the last line has none, and the end is on the line after it. -/
def Source.endLine (src : Source) : Nat :=
  if src.lines.getLast?.all (·.endsWith "\n") then src.lastLine else src.lastLine + 1

/-- The script after a line, to be read from the line after it; its lines and their
numbers stay those of the whole script. -/
def Source.after (src : Source) (line : Nat) : Source :=
  let rest := String.join (src.lines.drop (line + 1 - src.first))
  { Source.read src.dialect (line + 1) src.echoed rest with
    lines := src.lines, first := src.first, closesEarly := src.closesEarly, origin := src.origin,
    recoverable := src.recoverable }

/-- The text of a line of a script, without its line end. -/
def Source.lineText (src : Source) (line : Nat) : String :=
  let l := src.lines.getD (line - src.first) ""
  if l.endsWith "\n" then String.ofList (l.toList.dropLast) else l

/-- The line that the next command starts on, or the number of lines after the last. -/
def Source.nextLine (src : Source) : Nat :=
  match src.tokens with
  | (_, l) :: _ => l
  | [] => src.lines.length + 1

/-- What a script holds next. -/
inductive Next where
  /-- Nothing: the script is read. -/
  | finished
  /-- A complete command: the and-or lists of a line, and the script after them. -/
  | command (lists : List AndOr) (rest : Source)
  /-- A syntax error. -/
  | failed (e : SyntaxError)

/-- Reads the next complete command of a script, with words that name the aliases given
replaced by their texts where a command starts. -/
def Source.next (src : Source) (aliases : Aliases) : Next :=
  let al : Grammar := ⟨aliases, src.dialect == .bash⟩
  match skipNewlines src.tokens with
  | [] =>
    match src.error with
    | some e => .failed e
    | none => .finished
  | ts =>
    match lineLists al src.closesEarly (ts.length + 1) ts (lineOf ts 1) with
    | .error e =>
      match src.error with
      -- a command cut short by a wrong list of an array is lost with it
      | some stop@⟨_, _, some (.inList _)⟩ => if e.atEnd then .failed stop else .failed e
      | _ => .failed (if e.atEnd then { e with line := src.lastLine } else e)
    | .ok (as, rest) => .command as { src with tokens := rest }

end HelpMan.Shell
