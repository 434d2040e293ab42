import HelpMan.Tools.Basic
import HelpMan.Tools.Usage
import HelpMan.Shell.Printf

/-!
# Programs that write their arguments or their environment

- `echo` writes its arguments with spaces between them and a line end; its options are
  the leading arguments made only of the letters `n`, `e` and `E` after a `-`. With `-e`
  it expands the escapes `\a \b \c \e \f \n \r \t \v \\`, `\0` and up to three octal
  digits, `\1` to `\7` with up to two more, and `\x` with one or two hexadecimal digits;
  `\c` ends all output.
- `printf` writes its format as `Shell.printfGnu` does, and ends with status 1 after a
  problem.
- `printenv` writes the environment, or the values of the variables named, with status 1
  when one of them is not set.
- `envListing` writes an environment, as `printenv` and `env` do.
-/

namespace HelpMan.Tools

/-! ## echo -/

/-- Expands the escapes of `echo -e`: the bytes, and whether `\c` ended the output. -/
def echoEscapes : Nat → List UInt8 → List UInt8 × Bool
  | 0, _ => ([], false)
  | _ + 1, [] => ([], false)
  | fuel + 1, b :: rest =>
    let more (out : List UInt8) (after : List UInt8) : List UInt8 × Bool :=
      let (tail, stop) := echoEscapes fuel after
      (out ++ tail, stop)
    if b ≠ 92 then more [b] rest
    else
      match rest with
      | [] => ([92], false)
      | c :: after =>
        if c = 99 then ([], true)
        else if c = 120 then
          let (v, n, after') := Shell.hexRun 2 after 0
          if n = 0 then more [92, c] after else more [UInt8.ofNat v] after'
        else if c = 48 then
          let (v, after') := Shell.octalRun 3 after 0
          more [UInt8.ofNat v] after'
        else if 49 ≤ c && c ≤ 55 then
          let (v, after') := Shell.octalRun 2 after (c.toNat - 48)
          more [UInt8.ofNat v] after'
        else
          match [(97, 7), (98, 8), (101, 27), (102, 12), (110, 10), (114, 13), (116, 9), (118, 11), (92, 92)].lookup c with
          | some v => more [v] after
          | none => more [92, c] after

/-- What `echo --help` writes, for a program invoked by a name. -/
def echoUsage (program : String) : String :=
  "Usage: " ++ program ++ " [SHORT-OPTION]... [STRING]...\n  or:  " ++ program ++ " LONG-OPTION\n" ++
  "Echo the STRING(s) to standard output.\n\n" ++
  "  -n             do not output the trailing newline\n" ++
  "  -e             enable interpretation of backslash escapes\n" ++
  "  -E             disable interpretation of backslash escapes (default)\n" ++
  "      --help     display this help and exit\n" ++
  "      --version  output version information and exit\n\n" ++
  "If -e is in effect, the following sequences are recognized:\n\n" ++
  "  \\\\      backslash\n  \\a      alert (BEL)\n  \\b      backspace\n" ++
  "  \\c      produce no further output\n  \\e      escape\n  \\f      form feed\n" ++
  "  \\n      new line\n  \\r      carriage return\n  \\t      horizontal tab\n" ++
  "  \\v      vertical tab\n" ++
  "  \\0NNN   byte with octal value NNN (1 to 3 digits)\n" ++
  "  \\xHH    byte with hexadecimal value HH (1 to 2 digits)\n\n" ++
  "NOTE: your shell may have its own version of echo, which usually supersedes\n" ++
  "the version described here.  Please refer to your shell's documentation\n" ++
  "for details about the options it supports.\n"

/-- Runs `echo`; its only argument `--help` asks for its usage, unless the environment
sets `POSIXLY_CORRECT`. -/
def echo (cx : Context) (args : List String) : Outcome :=
  if args == ["--help"] && (cx.getenv "POSIXLY_CORRECT").isNone then cx.done (bytes (echoUsage cx.program)) else
  if args == ["--version"] && (cx.getenv "POSIXLY_CORRECT").isNone then cx.done (bytes (versionLine "echo")) else
  let isOption (a : String) : Bool :=
    a.length > 1 && a.startsWith "-" && (a.toList.drop 1).all fun c => c = 'n' || c = 'e' || c = 'E'
  let letters := (args.takeWhile isOption).flatMap fun a => a.toList.drop 1
  let words := args.dropWhile isOption
  let newline := !letters.contains 'n'
  let escapes := (letters.reverse.find? fun c => c = 'e' || c = 'E') == some 'e'
  let text := bytes (" ".intercalate words)
  if escapes then
    let (out, stop) := echoEscapes (text.length + 1) text
    cx.done (if stop then out else out ++ (if newline then [10] else []))
  else cx.done (text ++ (if newline then [10] else []))

example : (echo ⟨Workspace.prepare [] [] [], [], some [], none, [], false, "echo", false, 0o022⟩ ["-e", "a\\x41\\0101\\e|"]).out = [97, 65, 65, 27, 124, 10] := by
  decide +kernel

/-! ## printf -/

/-- Runs `printf`. -/
def printf (cx : Context) (args : List String) : Outcome :=
  let args := match args with
    | "--" :: rest => rest
    | rest => rest
  match args with
  | [] => cx.badUsage "printf" "printf: missing operand\n" 1
  | format :: rest =>
    let r := Shell.printfGnu format rest
    let message (p : String) : Nat × List UInt8 := (2, bytes ("printf: " ++ p ++ "\n"))
    -- each problem with an argument is reported where it was found, the others at the end
    let (writes, taken) := (r.problems.zip r.offsets).foldl (fun (writes, taken) (p, off) =>
      (writes ++ [(1, (r.out.drop taken).take (off - taken)), message p], max taken off)) ([], 0)
    let late := r.problems.drop r.offsets.length ++ r.warnings
    ⟨pieces (writes ++ [(1, r.out.drop taken)] ++ late.map message), if r.failed || !r.problems.isEmpty then 1 else 0,
      cx.workspace, false, none⟩

/-! ## printenv -/

/-- The environment written as `NAME=VALUE` lines, or ended by zero bytes. -/
def envListing (env : List (String × String)) (null : Bool) : List UInt8 :=
  bytes (String.join (env.map fun (n, v) => n ++ "=" ++ v ++ (if null then "\x00" else "\n")))

/-- Runs `printenv`. -/
def printenv (cx : Context) (args : List String) : Outcome :=
  match Options.read "printenv" ⟨"0", [⟨"null", .nothing, '0'⟩]⟩ args with
  | .error e => cx.badUsage "printenv" e 2
  | .ok o =>
    let ending := if o.has '0' then "\x00" else "\n"
    if o.operands.isEmpty then cx.done (envListing cx.env (o.has '0'))
    else
      let found := o.operands.filterMap fun n => if n.contains '=' then none else cx.getenv n
      let status := if found.length == o.operands.length then 0 else 1
      Outcome.of (bytes (String.join (found.map (· ++ ending)))) [] status cx.workspace

end HelpMan.Tools
