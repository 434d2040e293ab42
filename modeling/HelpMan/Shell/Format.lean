import HelpMan.Shell.Syntax
import HelpMan.Shell.Lex

/-!
# Commands written back

The `bash` dialect shows a function as text (`type`, `declare -f`): the commands of its body
written back in a fixed layout, whatever the layout of the script was. Each command of a list
stands on a line of its own, ended by `;` when another follows; the body of a compound
command is indented four places more than the command; `then`, `do` and the patterns of a
`case` arm stand where the layout puts them. Words are written as the script wrote them, as
far as their parts tell: quoted text in the quotes it was written in, expansions in the
brackets they were written with.

The writers carry the text so far, because whether a `;` ends a command depends on it: none
follows a command that ends in `&` or a line end.
-/

namespace HelpMan.Shell

/-- The reserved words of the `bash` dialect: those of the POSIX dialect and the words that
start its own compound commands. -/
def bashReservedWords : List String :=
  reservedWords ++ ["[[", "]]", "function", "select", "time", "coproc"]

/-- The places of an indentation. -/
def indentation (n : Nat) : String := String.ofList (List.replicate n ' ')

/-- The descriptor written before a redirection operator: none when it is the operator's
own. -/
def fdPrefix (fd default : Nat) : String := if fd == default then "" else toString fd

/-- A redirection written back. A duplication names both descriptors; a here-document is
shown by its operator only. -/
def Redirect.written : Redirect → String
  | .named n r => "\x7b" ++ n ++ "\x7d" ++ r.written
  | .toFile fd w append force =>
    fdPrefix fd 1 ++ (if append then ">> " else if force then ">| " else "> ") ++ w.written
  | .fromFile fd w => fdPrefix fd 0 ++ "< " ++ w.written
  | .readWrite fd w => fdPrefix fd 1 ++ "<> " ++ w.written
  | .duplicate fd w => toString fd ++ (if fd == 0 then "<&" else ">&") ++ w.written
  | .here fd _ => fdPrefix fd 0 ++ "<<"
  | .hereString fd w => fdPrefix fd 0 ++ "<<< " ++ w.written
  | .bothToFile w append => (if append then "&>> " else "&> ") ++ w.written

/-- Redirections written back after a command, each after a blank. -/
def redirectsWritten (rs : List Redirect) : String :=
  String.join (rs.map fun r => " " ++ r.written)

/-- A conditional expression written back. -/
def Cond.written : Cond → String
  | .word w => w.written
  | .unary op w => op ++ " " ++ w.written
  | .binary op l r => l.written ++ " " ++ op ++ " " ++ r.written
  | .not c => "! " ++ c.written
  | .and a b => a.written ++ " && " ++ b.written
  | .or a b => a.written ++ " || " ++ b.written

/-- A simple command written back: its assignments, its words, then its redirections. -/
def Simple.written (s : Simple) : String :=
  " ".intercalate (s.assigns.map (fun (n, w) => n ++ "=" ++ w.written) ++ s.words.map Word.written) ++
    redirectsWritten s.redirects

/-- Ends a command with `;`, unless the text ends in `&` or a line end. -/
def semicolonAfter (out : String) : String :=
  match out.toList.getLast? with
  | some '&' | some '\n' => out
  | _ => out ++ ";"

/-- How an arm of a `case` command ends, written back. -/
def ArmEnd.written : ArmEnd → String
  | .stop => ";;"
  | .fallThrough => ";&"
  | .testNext => ";;&"

mutual

/-- Writes a command after `out`, at the indentation `ind` of the line it starts on. -/
def writeCommand : Nat → String → Nat → Command → String
  | 0, out, _, _ => out
  | fuel + 1, out, ind, c =>
    match c with
    | .simple s => out ++ s.written
    | .group body rs =>
      let out := writeList fuel (out ++ "\x7b \n") (ind + 4) true body
      out ++ "\n" ++ indentation ind ++ "\x7d" ++ redirectsWritten rs
    | .subshell body rs => writeList fuel (out ++ "( ") ind false body ++ " )" ++ redirectsWritten rs
    | .ifThen cond yes no rs =>
      let out := semicolonAfter (writeList fuel (out ++ "if ") ind false cond) ++ " then\n"
      let out := writeList fuel out (ind + 4) true yes
      let out := match no with
        | some no => writeList fuel (semicolonAfter out ++ "\n" ++ indentation ind ++ "else\n") (ind + 4) true no
        | none => out
      semicolonAfter out ++ "\n" ++ indentation ind ++ "fi" ++ redirectsWritten rs
    | .loop negated cond body rs =>
      let out := writeList fuel (out ++ (if negated then "until " else "while ")) ind false cond
      let out := writeList fuel (semicolonAfter out ++ " do\n") (ind + 4) true body
      semicolonAfter out ++ "\n" ++ indentation ind ++ "done" ++ redirectsWritten rs
    | .forIn name words body rs =>
      let head := "for " ++ name ++ " in " ++ " ".intercalate (words.map Word.written) ++ ";"
      let out := writeList fuel (out ++ head ++ "\n" ++ indentation ind ++ "do\n") (ind + 4) true body
      semicolonAfter out ++ "\n" ++ indentation ind ++ "done" ++ redirectsWritten rs
    | .select name words body rs =>
      let head := "select " ++ name ++ " in " ++ " ".intercalate (words.map Word.written) ++ ";"
      let out := writeList fuel (out ++ head ++ "\n" ++ indentation ind ++ "do\n") (ind + 4) true body
      semicolonAfter out ++ "\n" ++ indentation ind ++ "done" ++ redirectsWritten rs
    | .caseOf subject arms rs =>
      let out := writeArms fuel (out ++ "case " ++ subject.written ++ " in ") (ind + 4) arms
      out ++ "\n" ++ indentation ind ++ "esac" ++ redirectsWritten rs
    | .coproc name body => writeCommand fuel (out ++ "coproc " ++ name ++ " ") ind body
    | .placed _ _ body => writeCommand fuel out ind body
    | .function name body _ =>
      let out := out ++ "function " ++ name ++ " () \n" ++ indentation ind ++ "\x7b \n"
      let (inner, rs) := match body.bare with
        | .group list rs => (list, rs)
        | other => ([⟨⟨false, [other], none⟩, [], false⟩], [])
      let out := writeList fuel out (ind + 4) true inner
      out ++ "\n" ++ indentation ind ++ "\x7d" ++ redirectsWritten rs
    | .cond e _ rs => out ++ "[[ " ++ e.written ++ " ]]" ++ redirectsWritten rs
    | .arith text _ rs => out ++ "((" ++ text ++ "))" ++ redirectsWritten rs
    | .forArith start test step _ body rs =>
      let head := "for ((" ++ start ++ "; " ++ test ++ "; " ++ step ++ "))"
      let out := writeList fuel (out ++ head ++ "\n" ++ indentation ind ++ "do\n") (ind + 4) true body
      semicolonAfter out ++ "\n" ++ indentation ind ++ "done" ++ redirectsWritten rs

/-- Writes the commands of a pipeline, joined by `|`. -/
def writePipe : Nat → String → Nat → Bool → List Command → String
  | 0, out, _, _, _ => out
  | _ + 1, out, _, _, [] => out
  | fuel + 1, out, ind, first, c :: cs =>
    writePipe fuel (writeCommand fuel (if first then out else out ++ " | ") ind c) ind false cs

/-- What a pipeline is written after: `time` (with `-p`) when it is timed, and `!` when it
is negated. -/
def Pipeline.lead (p : Pipeline) : String :=
  (match p.timed with
    | some true => "time -p "
    | some false => "time "
    | none => "") ++ (if p.negated then "! " else "")

/-- Writes the pipelines of an and-or list, joined by `&&` and `||`. -/
def writeJoined : Nat → String → Nat → List (Join × Pipeline) → String
  | 0, out, _, _ => out
  | _ + 1, out, _, [] => out
  | fuel + 1, out, ind, (j, p) :: rest =>
    let out := out ++ (if j == .andThen then " && " else " || ") ++ p.lead
    writeJoined fuel (writePipe fuel out ind true p.commands) ind rest

/-- Writes a list of and-or lists at the indentation `ind`: each on a line of its own after
a `;`, or on the same line after a `&`. The first is indented when `indented`. -/
def writeList : Nat → String → Nat → Bool → List AndOr → String
  | 0, out, _, _, _ => out
  | _ + 1, out, _, _, [] => out
  | fuel + 1, out, ind, indented, a :: rest =>
    let out := (if indented then out ++ indentation ind else out) ++ a.first.lead
    let out := writeJoined fuel (writePipe fuel out ind true a.first.commands) ind a.rest
    match rest with
    | [] => if a.background then out ++ " &" else out
    | _ =>
      if a.background then writeList fuel (out ++ " & ") ind false rest
      else writeList fuel (out ++ ";\n") ind true rest

/-- Writes the arms of a `case` command, the patterns at the indentation `ind` and the
bodies four places further in. -/
def writeArms : Nat → String → Nat → List CaseArm → String
  | 0, out, _, _ => out
  | _ + 1, out, _, [] => out
  | fuel + 1, out, ind, arm :: rest =>
    let out := out ++ "\n" ++ indentation ind ++ " | ".intercalate (arm.patterns.map Word.written) ++ ")\n"
    let out := writeList fuel out (ind + 4) true arm.body
    writeArms fuel (out ++ "\n" ++ indentation ind ++ arm.ending.written) ind rest

end

mutual

/-- The nodes of a command: enough steps for a writer to go through it. -/
def Command.nodes : Command → Nat
  | .simple _ => 1
  | .group body _ => listNodes body + 1
  | .subshell body _ => listNodes body + 1
  | .ifThen cond yes no _ => listNodes cond + listNodes yes + elseNodes no + 1
  | .loop _ cond body _ => listNodes cond + listNodes body + 1
  | .forIn _ _ body _ => listNodes body + 1
  | .select _ _ body _ => listNodes body + 1
  | .caseOf _ arms _ => armsNodes arms + 1
  | .function _ body _ => body.nodes + 1
  | .coproc _ body => body.nodes + 1
  | .placed _ _ body => body.nodes + 1
  | .cond _ _ _ => 1
  | .arith _ _ _ => 1
  | .forArith _ _ _ _ body _ => listNodes body + 1

/-- The nodes of an `else` part. -/
def elseNodes : Option (List AndOr) → Nat
  | some l => listNodes l + 1
  | none => 1

/-- The nodes of a list of and-or lists. -/
def listNodes : List AndOr → Nat
  | [] => 1
  | a :: rest => a.nodes + listNodes rest + 1

/-- The nodes of an and-or list. -/
def AndOr.nodes : AndOr → Nat
  | ⟨p, rest, _⟩ => p.nodes + joinedNodes rest + 1

/-- The nodes of the joined pipelines of an and-or list. -/
def joinedNodes : List (Join × Pipeline) → Nat
  | [] => 1
  | jp :: rest => joinNodes jp + joinedNodes rest + 1

/-- The nodes of a joined pipeline. -/
def joinNodes : Join × Pipeline → Nat
  | (_, p) => p.nodes + 1

/-- The nodes of a pipeline. -/
def Pipeline.nodes : Pipeline → Nat
  | ⟨_, cs, _⟩ => commandsNodes cs + 1

/-- The nodes of the commands of a pipeline. -/
def commandsNodes : List Command → Nat
  | [] => 1
  | c :: rest => c.nodes + commandsNodes rest + 1

/-- The nodes of the arms of a `case` command. -/
def armsNodes : List CaseArm → Nat
  | [] => 1
  | arm :: rest => arm.nodes + armsNodes rest + 1

/-- The nodes of an arm of a `case` command. -/
def CaseArm.nodes : CaseArm → Nat
  | ⟨_, body, _⟩ => listNodes body + 1

end

/-- An and-or list as the table of jobs keeps its command: written as a function body
writes it, without the `&` that put it in the background. -/
def andOrText (a : AndOr) : String :=
  writeList (2 * listNodes [a] + 2) "" 0 false [{ a with background := false }]

/-- A function as `declare -f` and `type` show it: the name (after `function` when it is a
reserved word), `()`, and the body in braces on lines of their own, indented by four. A body
that is no group is written inside the braces as a command of its own. -/
def functionText (name : String) (body : Command) : String :=
  let head := (if bashReservedWords.contains name then "function " else "") ++ name ++ " () \n\x7b \n"
  let (inner, rs) := match body.bare with
    | .group list rs => (list, rs)
    | other => ([⟨⟨false, [other], none⟩, [], false⟩], [])
  let out := writeList (2 * body.nodes + 2) head 4 true inner
  out ++ "\n" ++ "\x7d" ++ redirectsWritten rs

end HelpMan.Shell
