import HelpMan.Tools.Basic

/-!
# What the programs write for `--help`

`Tools.usage` gives the opening of the help of each program of the system: its usage
lines, with the name it was invoked by, and the sentence that says what it does (for `tr`,
its options and the syntax of its arrays too). The closing lines that every program of the
package prints after its help, which give the addresses of the package's pages on the web,
are not given, so a help here is that many lines shorter than the system's.
`infoAsked` decides whether the arguments ask for it, or for the version: the first
`--help` or `--version` among the options, which are read up to `--` (and, for a program
that takes its options first, up to the first operand). `printf`, `true`, `false` and
`[` only take them as their one argument.
-/

namespace HelpMan.Tools

/-- What a program is asked to tell about itself instead of doing its work. -/
inductive Info where
  /-- Its help (`--help`). -/
  | help
  /-- Its version (`--version`). -/
  | version
  deriving DecidableEq, Repr

/-- The first of `--help` and `--version` among the options of a program's arguments;
with `inOrder` the options end at the first operand. -/
def infoAsked (inOrder : Bool) : List String → Option Info
  | [] => none
  | a :: rest =>
    if a == "--" then none
    else if a == "--help" then some .help
    else if a == "--version" then some .version
    else if inOrder && !(a.startsWith "-" && a.length > 1) then none
    else infoAsked inOrder rest

/-- The usage lines of a program, the name it was invoked by in place of `P`. -/
def usageLines (program : String) (forms : List String) : String :=
  String.join (forms.zipIdx.map fun (form, k) =>
    (if k == 0 then "Usage: " else "  or:  ") ++ program ++ (if form.isEmpty then "" else " " ++ form) ++ "\n")

/-- The opening of the help of a program of the system, for a program invoked by a name;
`none` for a program that has no such help. -/
def usage (name program : String) : Option String :=
  let u := usageLines program
  match name with
  | "cat" => some (u ["[OPTION]... [FILE]..."] ++ "Concatenate FILE(s) to standard output.\n\n" ++
    "With no FILE, or when FILE is -, read standard input.\n")
  | "head" => some (u ["[OPTION]... [FILE]..."] ++ "Print the first 10 lines of each FILE to standard output.\n" ++
    "With more than one FILE, precede each with a header giving the file name.\n\n" ++
    "With no FILE, or when FILE is -, read standard input.\n")
  | "tail" => some (u ["[OPTION]... [FILE]..."] ++ "Print the last 10 lines of each FILE to standard output.\n" ++
    "With more than one FILE, precede each with a header giving the file name.\n\n" ++
    "With no FILE, or when FILE is -, read standard input.\n")
  | "wc" => some (u ["[OPTION]... [FILE]...", "[OPTION]... --files0-from=F"] ++
    "Print newline, word, and byte counts for each FILE, and a total line if\n" ++
    "more than one FILE is specified.  A word is a non-zero-length sequence of\n" ++
    "printable characters delimited by white space.\n")
  | "tee" => some (u ["[OPTION]... [FILE]..."] ++ "Copy standard input to each FILE, and also to standard output.\n")
  | "od" => some (u ["[OPTION]... [FILE]...", "[-abcdfilosx]... [FILE] [[+]OFFSET[.][b]]",
      "--traditional [OPTION]... [FILE] [[+]OFFSET[.][b] [+][LABEL][.][b]]"] ++ "\n" ++
    "Write an unambiguous representation, octal bytes by default,\n" ++
    "of FILE to standard output.  With more than one FILE argument,\n" ++
    "concatenate them in the listed order to form the input.\n")
  | "ls" => some (u ["[OPTION]... [FILE]..."] ++
    "List information about the FILEs (the current directory by default).\n" ++
    "Sort entries alphabetically if none of -cftuvSUX nor --sort is specified.\n")
  | "mkdir" => some (u ["[OPTION]... DIRECTORY..."] ++ "Create the DIRECTORY(ies), if they do not already exist.\n")
  | "rmdir" => some (u ["[OPTION]... DIRECTORY..."] ++ "Remove the DIRECTORY(ies), if they are empty.\n")
  | "rm" => some (u ["[OPTION]... [FILE]..."] ++ "Remove (unlink) the FILE(s).\n")
  | "chmod" => some (u ["[OPTION]... MODE[,MODE]... FILE...", "[OPTION]... OCTAL-MODE FILE...",
      "[OPTION]... --reference=RFILE FILE..."] ++
    "Change the mode of each FILE to MODE.\nWith --reference, change the mode of each FILE to that of RFILE.\n")
  | "cp" => some (u ["[OPTION]... [-T] SOURCE DEST", "[OPTION]... SOURCE... DIRECTORY",
      "[OPTION]... -t DIRECTORY SOURCE..."] ++ "Copy SOURCE to DEST, or multiple SOURCE(s) to DIRECTORY.\n")
  | "mv" => some (u ["[OPTION]... [-T] SOURCE DEST", "[OPTION]... SOURCE... DIRECTORY",
      "[OPTION]... -t DIRECTORY SOURCE..."] ++ "Rename SOURCE to DEST, or move SOURCE(s) to DIRECTORY.\n")
  | "ln" => some (u ["[OPTION]... [-T] TARGET LINK_NAME", "[OPTION]... TARGET", "[OPTION]... TARGET... DIRECTORY",
      "[OPTION]... -t DIRECTORY TARGET..."] ++
    "In the 1st form, create a link to TARGET with the name LINK_NAME.\n" ++
    "In the 2nd form, create a link to TARGET in the current directory.\n" ++
    "In the 3rd and 4th forms, create links to each TARGET in DIRECTORY.\n" ++
    "Create hard links by default, symbolic links with --symbolic.\n" ++
    "By default, each destination (name of new link) should not already exist.\n" ++
    "When creating hard links, each TARGET must exist.  Symbolic links\n" ++
    "can hold arbitrary text; if later resolved, a relative link is\n" ++
    "interpreted in relation to its parent directory.\n")
  | "touch" => some (u ["[OPTION]... FILE..."] ++
    "Update the access and modification times of each FILE to the current time.\n")
  | "basename" => some (u ["NAME [SUFFIX]", "OPTION... NAME..."] ++
    "Print NAME with any leading directory components removed.\n" ++
    "If specified, also remove a trailing SUFFIX.\n")
  | "dirname" => some (u ["[OPTION] NAME..."] ++
    "Output each NAME with its last non-slash component and trailing slashes\n" ++
    "removed; if NAME contains no /'s, output '.' (meaning the current directory).\n")
  | "pwd" => some (u ["[OPTION]..."] ++ "Print the full filename of the current working directory.\n")
  | "seq" => some (u ["[OPTION]... LAST", "[OPTION]... FIRST LAST", "[OPTION]... FIRST INCREMENT LAST"] ++
    "Print numbers from FIRST to LAST, in steps of INCREMENT.\n")
  | "sleep" => some (u ["NUMBER[SUFFIX]...", "OPTION"] ++
    "Pause for NUMBER seconds.  SUFFIX may be 's' for seconds (the default),\n" ++
    "'m' for minutes, 'h' for hours or 'd' for days.  NUMBER need not be an\n" ++
    "integer.  Given two or more arguments, pause for the amount of time\n" ++
    "specified by the sum of their values.\n")
  | "printf" => some (u ["FORMAT [ARGUMENT]...", "OPTION"] ++
    "Print ARGUMENT(s) according to FORMAT, or execute according to OPTION:\n")
  | "printenv" => some (u ["[OPTION]... [VARIABLE]..."] ++
    "Print the values of the specified environment VARIABLE(s).\n" ++
    "If no VARIABLE is specified, print name and value pairs for them all.\n")
  | "env" => some (u ["[OPTION]... [-] [NAME=VALUE]... [COMMAND [ARG]...]"] ++
    "Set each NAME to VALUE in the environment and run COMMAND.\n")
  | "tr" => some (u ["[OPTION]... STRING1 [STRING2]"] ++
    "Translate, squeeze, and/or delete characters from standard input,\n" ++
    "writing to standard output.  STRING1 and STRING2 specify arrays of\n" ++
    "characters, ARRAY1 and ARRAY2, that control the action.\n\n" ++
    "  -c, -C, --complement    use the complement of ARRAY1\n" ++
    "  -d, --delete            delete characters in ARRAY1, do not translate\n" ++
    "  -s, --squeeze-repeats   replace each sequence of a repeated character\n" ++
    "                            that is listed in the last specified ARRAY,\n" ++
    "                            with a single occurrence of that character\n" ++
    "  -t, --truncate-set1     first truncate ARRAY1 to length of ARRAY2\n" ++
    "      --help        display this help and exit\n" ++
    "      --version     output version information and exit\n\n" ++
    "ARRAYs are specified as strings of characters.  Most represent themselves.\n" ++
    "Interpreted sequences are:\n\n" ++
    "  \\NNN            character with octal value NNN (1 to 3 octal digits)\n" ++
    "  \\\\              backslash\n" ++
    "  \\a              audible BEL\n" ++
    "  \\b              backspace\n" ++
    "  \\f              form feed\n" ++
    "  \\n              new line\n" ++
    "  \\r              return\n" ++
    "  \\t              horizontal tab\n" ++
    "  \\v              vertical tab\n" ++
    "  CHAR1-CHAR2     all characters from CHAR1 to CHAR2 in ascending order\n" ++
    "  [CHAR*]         in ARRAY2, copies of CHAR until length of ARRAY1\n" ++
    "  [CHAR*REPEAT]   REPEAT copies of CHAR, REPEAT octal if starting with 0\n" ++
    "  [:alnum:]       all letters and digits\n" ++
    "  [:alpha:]       all letters\n" ++
    "  [:blank:]       all horizontal whitespace\n" ++
    "  [:cntrl:]       all control characters\n" ++
    "  [:digit:]       all digits\n" ++
    "  [:graph:]       all printable characters, not including space\n" ++
    "  [:lower:]       all lower case letters\n" ++
    "  [:print:]       all printable characters, including space\n" ++
    "  [:punct:]       all punctuation characters\n" ++
    "  [:space:]       all horizontal or vertical whitespace\n" ++
    "  [:upper:]       all upper case letters\n" ++
    "  [:xdigit:]      all hexadecimal digits\n" ++
    "  [=CHAR=]        all characters which are equivalent to CHAR\n\n" ++
    "Translation occurs if -d is not given and both STRING1 and STRING2 appear.\n" ++
    "-t may be used only when translating.  ARRAY2 is extended to length of\n" ++
    "ARRAY1 by repeating its last character as necessary.  Excess characters\n" ++
    "of ARRAY2 are ignored.  Character classes expand in unspecified order;\n" ++
    "while translating, [:lower:] and [:upper:] may be used in pairs to\n" ++
    "specify case conversion.  Squeezing occurs after translation or deletion.\n")
  | "true" => some (u ["[ignored command line arguments]", "OPTION"] ++ "Exit with a status code indicating success.\n")
  | "false" => some (u ["[ignored command line arguments]", "OPTION"] ++ "Exit with a status code indicating failure.\n")
  | "[" => some ("Usage: test EXPRESSION\n  or:  test\n  or:  [ EXPRESSION ]\n  or:  [ ]\n  or:  [ OPTION\n" ++
    "Exit with the status determined by EXPRESSION.\n")
  | _ => none

/-- The line a program of the system writes first for `--version`: its name and the
release of the package it comes with. -/
def versionLine (name : String) : String := name ++ " (GNU coreutils) 9.1\n"

/-- The help or version that a program's arguments ask for, if they do. `printf`,
`true`, `false` and `[` take `--help` and `--version` only as their one argument. -/
def helpAsked (name program : String) (args : List String) : Option String :=
  let asked : Option Info := match name with
    | "printf" | "true" | "false" | "[" =>
      if args == ["--help"] then some .help else if args == ["--version"] then some .version else none
    | "echo" | "test" | "kill" => none
    | "env" => infoAsked true args
    | _ => infoAsked false args
  match asked with
  | some .help => usage name program
  | some .version => (usage name program).map fun _ => versionLine name
  | none => none

example : usage "pwd" "/bin/pwd" = some "Usage: /bin/pwd [OPTION]...\nPrint the full filename of the current working directory.\n" ∧
    helpAsked "cat" "cat" ["-n", "--version", "--help"] = some "cat (GNU coreutils) 9.1\n" := by
  decide +kernel

end HelpMan.Tools
