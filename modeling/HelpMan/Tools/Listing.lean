import HelpMan.Tools.Files
import HelpMan.Shell.Pattern
import HelpMan.Clock.Format

/-!
# Listing directories: `ls`

`ls` as the program of the system behaves when its output is not a terminal: the operands that are
not directories first, then each directory's names under a header when there are
several operands (or with `-R`), a blank line between the parts. A missing operand is
reported first, and the status is then 2.

- Which names of a directory are listed (`Listing.shows`): not those that start with `.`
  unless `-a` (all) or `-A` (all but `.` and `..`), nor those that a pattern of
  `-I`/`--ignore` matches, or one of `--hide` without `-a` and `-A`; `-B` ignores the
  names that end with `~`. A pattern's `*` and `?` do not match a leading `.`.
- Their order (`Listing.before`): by bytes, by size (`-S`, largest first), by extension
  (`-X`), as versions (`-v`, `versionOrder`), by width, or as they come (`-U`, `-f`);
  `-r` turns it around, and `--group-directories-first` puts directories first either
  way. Ties go by the bytes of the names.
- How a name is written (`Quoting.show`): as it is, in the C language's quotes (`-Q`),
  with backslashes (`-b`), or in the shell's quotes; with `-F` a mark after it (`/` after
  a directory, `*` after a program), with `-p` only the `/`.
- How the names are laid out (`Layout.show`): one a line, in columns down (`-C`) or
  across (`-x`) in lines of 80 columns (`-w`, or the environment's `COLUMNS`), with tabs
  every 8 columns (`-T`), or after one another with commas (`-m`).
-/

namespace HelpMan.Tools

/-! ## Layouts -/

/-- How `ls` lays out the names it lists. -/
inductive Layout where
  /-- One name a line, as when the output is not a terminal (`-1`). -/
  | lines
  /-- In columns, each filled from top to bottom before the next (`-C`). -/
  | columns
  /-- In columns, filled row after row (`-x`). -/
  | across
  /-- In lines of names with a comma after each but the last (`-m`). -/
  | commas
  /-- One name a line after its mode, links, owner, group, size and time (`-l`). -/
  | long
  deriving DecidableEq, Repr

/-- The narrowest a column is. -/
def minColumn : Nat := 3

/-- The columns a name takes: one for each character of its bytes read as UTF-8. -/
def nameWidth (name : String) : Nat := ((bytes name).filter fun b => b < 0x80 || 0xC0 ≤ b).length

/-- The blanks from one column to another: a tab wherever it gets to a multiple of
`tab` no later than the target, spaces otherwise. -/
def indent (tab : Nat) : Nat → Nat → Nat → String
  | 0, _, _ => ""
  | fuel + 1, fromCol, toCol =>
    if toCol ≤ fromCol then ""
    else if tab != 0 && toCol / tab > (fromCol + 1) / tab then "\t" ++ indent tab fuel (fromCol + tab - fromCol % tab) toCol
    else " " ++ indent tab fuel (fromCol + 1) toCol

/-- The column of the `k`-th of `n` names laid out in `c` columns, down the columns or
across the rows. -/
def columnOf (down : Bool) (n c k : Nat) : Nat := if down then k / ((n + c - 1) / c) else k % c

/-- The widths of `c` columns of names: each wide enough for its names and two blanks
after them, the last column without the blanks, and none narrower than `minColumn`. -/
def columnWidths (down : Bool) (widths : List Nat) (c : Nat) : List Nat :=
  let n := widths.length
  (List.range c).map fun j =>
    (widths.zipIdx.filter fun (_, k) => columnOf down n c k == j).foldl
      (fun m (w, _) => max m (w + if j + 1 == c then 0 else 2)) minColumn

/-- Whether `c` columns fit in a line of `lineLength` columns: they do when they are
shorter, or when every column is as narrow as can be. -/
def columnsFit (down : Bool) (widths : List Nat) (lineLength c : Nat) : Bool :=
  let total := (columnWidths down widths c).foldl (· + ·) 0
  total < lineLength || total == minColumn * c

/-- The number of columns for names in a line of `lineLength` columns: the most that fit,
or one. -/
def columnCount (down : Bool) (widths : List Nat) (lineLength : Nat) : Nat :=
  let most := min (lineLength / minColumn + (if lineLength % minColumn != 0 then 1 else 0)) widths.length
  (((List.range most).reverse.map (· + 1)).find? fun c => c == 1 || columnsFit down widths lineLength c).getD 1

/-- The names on lines with `sep` and a blank after each but the last, a line ending
before a name that would reach the end of a line of `lineLength` columns (never, when it
is zero). -/
def withSeparator (sep : String) (lineLength : Nat) (names : List String) : String :=
  let step (acc : String × Nat × Bool) (name : String) : String × Nat × Bool :=
    let (out, pos, first) := acc
    let len := if lineLength == 0 then 0 else nameWidth name
    if first then (out ++ name, pos + len, false)
    else if lineLength == 0 || pos + len + 2 < lineLength then (out ++ sep ++ " " ++ name, pos + 2 + len, false)
    else (out ++ sep ++ "\n" ++ name, len, false)
  if names.isEmpty then "" else (names.foldl step ("", 0, true)).1 ++ "\n"

/-- One row of names in columns of the given widths, with blanks from each name to the
start of the next column. -/
def rowText (tab : Nat) (row : List (String × Nat)) : String :=
  let step (acc : String × Nat) (cell : (String × Nat) × Nat) : String × Nat :=
    let (out, pos) := acc
    let ((name, width), k) := cell
    if k + 1 == row.length then (out ++ name, pos)
    else
      let toCol := pos + width
      (out ++ name ++ indent tab (toCol + 1) (pos + nameWidth name) toCol, toCol)
  (row.zipIdx.foldl step ("", 0)).1 ++ "\n"

/-- The names in columns in a line of `lineLength` columns, down the columns or across
the rows. -/
def inColumns (down : Bool) (tab lineLength : Nat) (names : List String) : String :=
  let widths := names.map nameWidth
  let n := names.length
  let c := columnCount down widths lineLength
  let cw := columnWidths down widths c
  let rows := (n + c - 1) / c
  let cell (k : Nat) : String × Nat := (names.getD k "", cw.getD (columnOf down n c k) 0)
  let rowCells (r : Nat) : List (String × Nat) :=
    if down then ((List.range c).map (r + rows * ·)).filter (· < n) |>.map cell
    else ((List.range c).map (r * c + ·)).filter (· < n) |>.map cell
  String.join ((List.range rows).map fun r => rowText tab (rowCells r))

/-- The names laid out in a line of `lineLength` columns (no limit when zero) with tabs
every `tab` columns. -/
def Layout.show (layout : Layout) (tab lineLength : Nat) (names : List String) : String :=
  if names.isEmpty then ""
  else
    match layout with
    | .lines | .long => String.join (names.map (· ++ "\n"))
    | .commas => withSeparator "," lineLength names
    | .columns => if lineLength == 0 then withSeparator " " 0 names else inColumns true tab lineLength names
    | .across => if lineLength == 0 then withSeparator " " 0 names else inColumns false tab lineLength names

example : Layout.show .columns 8 80 ["aa", "bb", "bin", "cc", "dd"] = "aa  bb\tbin  cc  dd\n" ∧
    Layout.show .commas 8 80 ["a", "b"] = "a, b\n" := by decide +kernel

/-! ## Versions -/

/-- The weight of a character where versions are compared, `none` standing for the end:
digits weigh nothing (their runs are compared as numbers), letters their code, `~` less
than the end, and every other character more than all letters. -/
def versionWeight : Option Char → Int
  | none => -1
  | some c => if c.isDigit then 0 else if c.isAlpha then c.toNat else if c = '~' then -2 else c.toNat + 256

/-- Whether a version goes on with a digit, or ends. -/
def stopsAtDigit : List Char → Bool
  | c :: _ => c.isDigit
  | [] => true

/-- Compares the parts of two versions up to their next digits, character by character:
the first difference, or what is left of both. -/
def compareWords : Nat → List Char → List Char → Except Int (List Char × List Char)
  | 0, a, b => .ok (a, b)
  | fuel + 1, a, b =>
    if stopsAtDigit a && stopsAtDigit b then .ok (a, b)
    else
      let wa := versionWeight a.head?
      let wb := versionWeight b.head?
      if wa != wb then .error (wa - wb) else compareWords fuel a.tail b.tail

/-- Compares two versions: words by `compareWords`, then runs of digits as numbers (a
longer run without leading zeros is larger, else the first digit that differs), in turn. -/
def compareVersions : Nat → List Char → List Char → Int
  | 0, _, _ => 0
  | fuel + 1, a, b =>
    if a.isEmpty && b.isEmpty then 0
    else
      match compareWords (a.length + b.length + 1) a b with
      | .error d => d
      | .ok (a, b) =>
        let a := a.dropWhile (· = '0')
        let b := b.dropWhile (· = '0')
        let da := a.takeWhile Char.isDigit
        let db := b.takeWhile Char.isDigit
        if da.length > db.length then 1
        else if da.length < db.length then -1
        else
          match (da.zip db).find? fun (x, y) => x != y with
          | some (x, y) => (x.toNat : Int) - y.toNat
          | none => compareVersions fuel (a.drop da.length) (b.drop db.length)

/-- The position after the parts `.x…` that follow a position: a dot, a letter or `~`,
then letters, digits and `~`. -/
def skipSuffixes (s : List Char) : Nat → Nat → Nat
  | 0, i => i
  | fuel + 1, i =>
    match s.drop i with
    | '.' :: c :: _ =>
      if c.isAlpha || c = '~' then
        let more := (s.drop (i + 2)).takeWhile fun d => d.isAlphanum || d = '~'
        skipSuffixes s fuel (i + 2 + more.length)
      else i
    | _ => i

/-- The length of a name without its suffix: the longest run of parts `.x…` at its end
that does not take its first character. -/
def stemLength (s : List Char) : Nat → Nat → Nat → Nat
  | 0, _, stem => stem
  | fuel + 1, i, stem =>
    if i ≥ s.length then stem
    else stemLength s fuel (skipSuffixes s (s.length + 1) (i + 1)) (i + 1)

/-- Compares two names as versions: `.` first, then `..`, then the other names that
start with `.`; then the names without their suffixes, and when those are equal the
whole names. -/
def versionOrder (a b : String) : Int :=
  let x := a.toList
  let y := b.toList
  if x.isEmpty || y.isEmpty then (if x.isEmpty then (if y.isEmpty then 0 else -1) else 1)
  else if x.head? == some '.' && y.head? != some '.' then -1
  else if y.head? == some '.' && x.head? != some '.' then 1
  else if x.head? == some '.' && (a == "." || b == "." || a == ".." || b == "..") then
    if a == b then 0
    else if a == "." then -1
    else if b == "." then 1
    else if a == ".." then -1
    else 1
  else
    let xs := stemLength x (x.length + 1) 0 0
    let ys := stemLength y (y.length + 1) 0 0
    let fuel := x.length + y.length + 1
    let first := compareVersions fuel (x.take xs) (y.take ys)
    if first != 0 || (xs == x.length && ys == y.length) then first else compareVersions fuel x y

example : versionOrder "f9" "f10" < 0 ∧ versionOrder "a.tar.gz" "a1.tar.gz" < 0 ∧
    versionOrder ".a" "b" < 0 := by decide +kernel

/-! ## Names -/

/-- How `ls` writes a name. -/
inductive Quoting where
  /-- As it is (`-N`). -/
  | literal
  /-- In the shell's quotes, always or when it needs them, with control characters as
  they are or escaped. -/
  | shell (always esc : Bool)
  /-- Between double quotes with the C language's escapes (`-Q`). -/
  | c
  /-- Between double quotes only when an escape is needed. -/
  | cMaybe
  /-- With the C language's escapes and no quotes, a blank escaped too (`-b`). -/
  | escape
  /-- Between the quotation marks of the messages, with escapes. -/
  | marks
  deriving DecidableEq, Repr

/-- The quoting style that a word names. -/
def Quoting.ofName? : String → Option Quoting
  | "literal" => some .literal
  | "shell" => some (.shell false false)
  | "shell-escape" => some (.shell false true)
  | "shell-always" => some (.shell true false)
  | "shell-escape-always" => some (.shell true true)
  | "c" => some .c
  | "c-maybe" => some .cMaybe
  | "escape" => some .escape
  | "locale" | "clocale" => some .marks
  | _ => none

/-- A character of a name with the C language's escapes: a backslash doubled, the
control characters by letter or in octal, and `quoteChar` after a backslash. -/
def escapeChar (quoteChar : Option Char) (blank : Bool) (c : Char) : String :=
  if some c == quoteChar || c == '\\' then "\\" ++ c.toString
  else if blank && c == ' ' then "\\ "
  else if isControl c then controlEscape c
  else c.toString

/-- A name as a quoting style writes it. -/
def Quoting.show (q : Quoting) (name : String) : String :=
  let escaped (quoteChar : Option Char) (blank : Bool) : String :=
    String.join (name.toList.map (escapeChar quoteChar blank))
  match q with
  | .literal => name
  | .shell always esc => if always then quoteShell esc name else quoteIfNeededWith esc name
  | .c => "\"" ++ escaped (some '"') false ++ "\""
  | .cMaybe =>
    let e := escaped (some '"') false
    if e == name then name else "\"" ++ e ++ "\""
  | .escape => escaped none true
  | .marks => quote name

example : Quoting.c.show "a\"b\n" = "\"a\\\"b\\n\"" ∧ Quoting.escape.show "a b" = "a\\ b" := by decide +kernel

/-- What mark `ls` writes after a name. -/
inductive Marks where
  | none
  /-- `/` after a directory (`-p`). -/
  | slash
  /-- The mark of the kind of file, but nothing after a program (`--file-type`). -/
  | fileType
  /-- The mark of the kind of file, and `*` after a program (`-F`). -/
  | classify
  deriving DecidableEq, Repr

/-- The marking that a word names. -/
def Marks.ofName? : String → Option Marks
  | "none" => some .none
  | "slash" => some .slash
  | "file-type" => some .fileType
  | "classify" => some .classify
  | _ => none

/-! ## Options -/

/-- How `ls` orders names. -/
inductive SortKey where
  | name
  /-- As the directory holds them (`-U`). -/
  | none
  /-- Largest first (`-S`). -/
  | size
  /-- By the part after the last `.` (`-X`). -/
  | extension
  /-- As versions (`-v`). -/
  | version
  /-- Narrowest first. -/
  | width
  /-- Changed last first (`-t`). -/
  | time
  deriving DecidableEq, Repr

/-- The options of `ls`; the long options without a letter stand for characters below
the blank. -/
def lsSpec : Spec :=
  ⟨"abcdfghiklmnopqrstuvw:xABCDFGHI:LNQRST:UXZ1",
   [⟨"all", .nothing, 'a'⟩, ⟨"almost-all", .nothing, 'A'⟩, ⟨"escape", .nothing, 'b'⟩,
    ⟨"ignore-backups", .nothing, 'B'⟩, ⟨"directory", .nothing, 'd'⟩, ⟨"dired", .nothing, 'D'⟩,
    ⟨"classify", .optional, '\x01'⟩, ⟨"file-type", .nothing, '\x02'⟩, ⟨"format", .required, '\x03'⟩,
    ⟨"group-directories-first", .nothing, '\x04'⟩, ⟨"hide", .required, '\x05'⟩, ⟨"ignore", .required, 'I'⟩,
    ⟨"indicator-style", .required, '\x06'⟩, ⟨"literal", .nothing, 'N'⟩, ⟨"quote-name", .nothing, 'Q'⟩,
    ⟨"quoting-style", .required, '\x07'⟩, ⟨"recursive", .nothing, 'R'⟩, ⟨"reverse", .nothing, 'r'⟩,
    ⟨"size", .nothing, 's'⟩, ⟨"sort", .required, '\x08'⟩, ⟨"tabsize", .required, 'T'⟩,
    ⟨"width", .required, 'w'⟩, ⟨"human-readable", .nothing, 'h'⟩, ⟨"inode", .nothing, 'i'⟩,
    ⟨"dereference", .nothing, 'L'⟩, ⟨"numeric-uid-gid", .nothing, 'n'⟩, ⟨"hide-control-chars", .nothing, 'q'⟩,
    ⟨"show-control-chars", .nothing, '\x09'⟩, ⟨"kibibytes", .nothing, 'k'⟩, ⟨"context", .nothing, 'Z'⟩,
    ⟨"no-group", .nothing, 'G'⟩, ⟨"dereference-command-line", .nothing, 'H'⟩,
    ⟨"dereference-command-line-symlink-to-dir", .nothing, '\x0a'⟩, ⟨"color", .optional, '\x0b'⟩,
    ⟨"time", .required, '\x0c'⟩, ⟨"full-time", .nothing, '\x0d'⟩, ⟨"author", .nothing, '\x0e'⟩,
    ⟨"block-size", .required, '\x0f'⟩, ⟨"si", .nothing, '\x10'⟩, ⟨"zero", .nothing, '\x11'⟩,
    ⟨"hyperlink", .optional, '\x12'⟩, ⟨"time-style", .required, '\x13'⟩]⟩

/-- The words an option with a choice takes, each with what it stands for. -/
def choicesOf : Char → List (String × String)
  | '\x03' => [("verbose", "long"), ("long", "long"), ("commas", "commas"), ("horizontal", "across"),
    ("across", "across"), ("vertical", "columns"), ("single-column", "lines")]
  | '\x06' => [("none", "none"), ("slash", "slash"), ("file-type", "file-type"), ("classify", "classify")]
  | '\x07' => [("literal", "literal"), ("shell", "shell"), ("shell-always", "shell-always"),
    ("shell-escape", "shell-escape"), ("shell-escape-always", "shell-escape-always"), ("c", "c"),
    ("c-maybe", "c-maybe"), ("escape", "escape"), ("locale", "locale"), ("clocale", "clocale")]
  | '\x08' => [("none", "none"), ("time", "time"), ("size", "size"), ("extension", "extension"),
    ("version", "version"), ("width", "width")]
  | '\x01' => [("always", "always"), ("yes", "always"), ("force", "always"), ("never", "never"), ("no", "never"),
    ("none", "never"), ("auto", "auto"), ("tty", "auto"), ("if-tty", "auto")]
  | _ => []

/-- The long name of an option with a choice. -/
def choiceOption : Char → String
  | '\x03' => "--format"
  | '\x06' => "--indicator-style"
  | '\x07' => "--quoting-style"
  | '\x08' => "--sort"
  | _ => "--classify"

/-- The word an option with a choice was given, as what it stands for (`argmatch`). -/
def readChoice (option : Char) (word : String) : Except String String :=
  argmatch "ls" (choiceOption option) (choicesOf option) word

/-- What the options of `ls` ask for. -/
structure Listing where
  /-- Which names that start with `.` are listed: none, all but `.` and `..`, or all. -/
  dots : Nat
  ignored : List (List Shell.Glob)
  hidden : List (List Shell.Glob)
  key : SortKey
  reverse : Bool
  dirsFirst : Bool
  quoting : Quoting
  marks : Marks
  layout : Layout
  tab : Nat
  lineLength : Nat
  directories : Bool
  recursive : Bool
  /-- Whether each name is written after the blocks it takes (`-s`). -/
  sizes : Bool
  /-- Whether each directory's listing starts with the blocks its entries take (`-l`,
  `-s`). -/
  totals : Bool
  /-- Whether a symbolic link named on the command line that leads to a directory is
  listed as that directory; otherwise it is listed as a link. -/
  followOperands : Bool
  /-- Whether the long lines show the owner (not with `-g`). -/
  owner : Bool
  /-- Whether the long lines show the group (not with `-o`). -/
  group : Bool
  /-- Whether owners and groups are shown by number (`-n`). -/
  numeric : Bool

/-- A pattern of `-I` or `--hide`, a backslash making the character after it plain. -/
def globOf (p : String) : List Shell.Glob :=
  let rec chars : List Char → List Shell.PatternChar
    | '\\' :: c :: rest => (c, true) :: chars rest
    | c :: rest => (c, false) :: chars rest
    | [] => []
  Shell.Glob.parse (chars p.toList)

/-- Whether a pattern matches a name, a leading `.` only matched by a `.` itself. -/
def globMatches (g : List Shell.Glob) (name : String) : Bool :=
  let dotFirst := match g with
    | .char '.' :: _ => true
    | _ => false
  (!name.startsWith "." || dotFirst) && Shell.Glob.matches g name.toList

/-- Whether a name of a directory is listed. -/
def Listing.shows (l : Listing) (name : String) : Bool :=
  let dotted := name.startsWith "."
  let dotsOk := !dotted || l.dots == 2 || (l.dots == 1 && name != "." && name != "..")
  dotsOk && !(l.dots == 0 && l.hidden.any (globMatches · name)) && !l.ignored.any (globMatches · name)

/-- A name to list: as written, where it leads, and what stands there. -/
abbrev Entry := String × Location × Kind

/-- The size `ls -S` orders by: the bytes of a file, a block for a directory. -/
def entrySize (cx : Context) (e : Entry) : Nat :=
  match e.2.2 with
  | .file => (cx.workspace.contentAt e.2.1).length
  | .dir => 4096
  | _ => 0

/-- The kilobyte blocks an entry takes: four for a directory, and for a file four for
each started four kilobytes of its bytes. -/
def entryBlocks (cx : Context) (e : Entry) : Nat :=
  match e.2.2 with
  | .file => ((cx.workspace.contentAt e.2.1).length + 4095) / 4096 * 4
  | .dir => 4
  | _ => 0

/-- Compares two entries by the key alone; ties are `0`. -/
def Listing.compareKey (l : Listing) (cx : Context) (a b : Entry) : Int :=
  match l.key with
  | .size => (entrySize cx b : Int) - entrySize cx a
  | .extension =>
    let ext (n : String) : String := match n.toList.reverse.findIdx? (· = '.') with
      | some k => String.ofList (n.toList.drop (n.length - 1 - k))
      | none => ""
    if ext a.1 < ext b.1 then -1 else if ext b.1 < ext a.1 then 1 else 0
  | .version => versionOrder a.1 b.1
  | .width => (nameWidth a.1 : Int) - nameWidth b.1
  | .time => cx.workspace.timeAt b.2.1 - cx.workspace.timeAt a.2.1
  | _ => 0

/-- Whether one entry comes before another. -/
def Listing.before (l : Listing) (cx : Context) (a b : Entry) : Bool :=
  let isDir (e : Entry) := e.2.2 == .dir
  if l.dirsFirst && isDir a != isDir b then isDir a
  else
    let (x, y) := if l.reverse then (b, a) else (a, b)
    let k := l.compareKey cx x y
    if k != 0 then k < 0 else !(y.1 < x.1)

/-- Entries in the order `ls` lists them. -/
def Listing.order (l : Listing) (cx : Context) (es : List Entry) : List Entry :=
  if l.key == .none then es else es.mergeSort (l.before cx)

/-- A name as `ls` writes it: quoted, then its mark; a symbolic link is marked `@`. -/
def Listing.label (l : Listing) (cx : Context) (e : Entry) : String :=
  let isLink := (cx.workspace.links.lookup e.2.1).isSome
  let mark := match e.2.2, l.marks with
    | _, .fileType | _, .classify => if isLink then "@" else
      match e.2.2, l.marks with
      | .dir, _ => "/"
      | .file, .classify => if cx.workspace.isExecutableAt e.2.1 then "*" else ""
      | _, _ => ""
    | .dir, .slash => if isLink then "" else "/"
    | _, _ => ""
  l.quoting.show e.1 ++ mark

/-- The entries of a directory that are listed, in order. -/
def Listing.entries (l : Listing) (cx : Context) (dir : Location) : List Entry :=
  let names := (cx.workspace.namesIn dir).map Text.utf8Bytes
  let names := if l.dots == 2 then "." :: ".." :: names else names
  let at_ (n : String) : Location :=
    if n == "." then dir else if n == ".." then dir.dropLast else dir ++ [Text.ofByteString n]
  let kindOf (loc : Location) : Kind :=
    if (cx.workspace.links.lookup loc).isSome then .file else (cx.workspace.kindAt loc).getD .file
  l.order cx ((names.filter l.shows).map fun n => (n, at_ n, kindOf (at_ n)))

/-- The type and permissions of an entry as a long line writes them: `d` for a directory,
`l` for a symbolic link, `c` for a device, `-` for a file, then the nine letters of its
mode. -/
def entryMode (cx : Context) (e : Entry) : String :=
  if (cx.workspace.links.lookup e.2.1).isSome then "lrwxrwxrwx"
  else
    match e.2.2 with
    | .dir => "d" ++ permString (cx.workspace.modeAt e.2.1)
    | .device => "crw-rw-rw-"
    | .file => "-" ++ permString (cx.workspace.modeAt e.2.1)

/-- The links to an entry: two for a directory and one more for each directory in it,
one for anything else. -/
def entryLinks (cx : Context) (e : Entry) : Nat :=
  let ws := cx.workspace
  if (ws.links.lookup e.2.1).isSome then 1
  else
    match e.2.2 with
    | .dir =>
      2 + ((ws.namesIn e.2.1).filter fun n =>
        (ws.links.lookup (e.2.1 ++ [n])).isNone && ws.baseKind (e.2.1 ++ [n]) == some .dir).length
    | _ => 1

/-- The size a long line writes for an entry: the bytes of a file, a block for a
directory, the length of the path a symbolic link leads to. -/
def entryLength (cx : Context) (e : Entry) : Nat :=
  match cx.workspace.links.lookup e.2.1 with
  | some target => (bytes target).length
  | none => entrySize cx e

/-- The time of the last change of an entry as a long line writes it: month, day and
time of day within half a year before now, month, day and year otherwise. -/
def entryTime (cx : Context) (e : Entry) : String :=
  let t := cx.workspace.timeAt e.2.1
  let now := cx.workspace.now
  let recent := t ≤ now && now - t < 15778476000000000
  Clock.formatMoment (if recent then "%b %e %H:%M" else "%b %e  %Y") (t / 1000000000)

/-- A text padded with blanks on the left to a width. -/
def alignRight (width : Nat) (s : String) : String := String.ofList (List.replicate (width - s.length) ' ') ++ s

/-- The long lines of entries: the mode, the links, the owner and the group (`root`, or
`0` by number), the size, the time and the name, with the path a symbolic link leads to;
the numbers are right-aligned and the names left-aligned to the widest of the entries. -/
def Listing.longLines (l : Listing) (cx : Context) (es : List Entry) : List String :=
  let who := if l.numeric then "0" else "root"
  let widest (f : Entry → String) : Nat := (es.map fun e => (f e).length).foldl max 0
  let linkWidth := widest fun e => toString (entryLinks cx e)
  let sizeWidth := widest fun e => toString (entryLength cx e)
  es.map fun e =>
    let target := match cx.workspace.links.lookup e.2.1 with
      | some t => " -> " ++ t
      | none => ""
    let name := if target.isEmpty then l.label cx e else l.quoting.show e.1
    entryMode cx e ++ " " ++ alignRight linkWidth (toString (entryLinks cx e)) ++ " " ++
      (if l.owner then who ++ " " else "") ++ (if l.group then who ++ " " else "") ++
      alignRight sizeWidth (toString (entryLength cx e)) ++ " " ++ entryTime cx e ++ " " ++ name ++ target

/-- The names of entries as `ls` writes them, in long lines with `-l`, after their blocks
with `-s`, right-aligned to the widest count. -/
def Listing.labels (l : Listing) (cx : Context) (es : List Entry) : List String :=
  let lines := if l.layout == .long then l.longLines cx es else es.map (l.label cx)
  if !l.sizes then lines
  else
    let width := (es.map fun e => (toString (entryBlocks cx e)).length).foldl max 0
    (es.zip lines).map fun (e, line) =>
      let n := toString (entryBlocks cx e)
      String.ofList (List.replicate (width - n.length) ' ') ++ n ++ " " ++ line

/-- The sections of a directory and, with `-R`, of the directories below it: each with
its path and its text. -/
def Listing.sections (l : Listing) (cx : Context) : Nat → String → Location → List (String × String)
  | 0, _, _ => []
  | fuel + 1, path, dir =>
    let es := l.entries cx dir
    let total := if l.totals then "total " ++ toString ((es.map (entryBlocks cx)).foldl (· + ·) 0) ++ "\n" else ""
    let text := total ++ l.layout.show l.tab l.lineLength (l.labels cx es)
    let below := if l.recursive then es.filter fun (n, _, k) => n != "." && n != ".." && k == .dir else []
    (path, text) :: below.flatMap fun (n, loc, _) => l.sections cx fuel (joinPath path n) loc

/-- Lists the operands once the options are read, with a warning to write first. -/
def Listing.run (l : Listing) (cx : Context) (operands : List String) (warning : String) : Outcome :=
  let paths := if operands.isEmpty then ["."] else operands
  let found : List (String × Found) := paths.map fun p =>
    match cx.workspace.linkAt? cx.cwd (Text.ofByteString p) with
    | some loc =>
      match cx.find p with
      | .present target .dir => if l.followOperands then (p, .present target .dir) else (p, .present loc .file)
      | _ => (p, .present loc .file)
    | none => (p, cx.find p)
  let missing := found.filter fun (_, f) => !(f matches .present ..)
  let err := String.join (missing.map fun (p, f) =>
    let why := match f with
      | .blocked fault => fault.reason
      | _ => "No such file or directory"
    "ls: cannot access " ++ quoteAlways p ++ ": " ++ why ++ "\n")
  let present : List Entry := found.filterMap fun (p, f) => match f with
    | .present loc k => some (p, loc, k)
    | _ => none
  let present := l.order cx present
  let (files, dirs) := if l.directories then (present, [])
    else (present.filter (·.2.2 != .dir), present.filter (·.2.2 == .dir))
  let fileText := l.layout.show l.tab l.lineLength (l.labels cx files)
  let sections := dirs.flatMap fun (p, loc, _) => l.sections cx 64 p loc
  let headed := paths.length > 1 || l.recursive
  let sectionTexts := sections.map fun (p, text) => (if headed then l.quoting.show p ++ ":\n" else "") ++ text
  let out := "\n".intercalate ((if fileText.isEmpty then [] else [fileText]) ++ sectionTexts)
  ⟨pieces [(2, bytes (warning ++ err)), (1, bytes out)], if missing.isEmpty then 0 else 2, cx.workspace, false, none⟩

/-- A width of `ls`: a count in decimal, octal or hexadecimal, a width too large to hold
meaning no limit (zero). -/
def widthOf? (s : String) : Option Nat :=
  match readCount 0 [] s with
  | .ok n => some (if n < Nat.pow 2 63 then n else 0)
  | .error .tooLarge => some 0
  | .error _ => none

/-- A tab size of `ls`: a count in decimal, octal or hexadecimal. -/
def tabOf? (s : String) : Option Nat := (readCount 0 [] s).toOption

/-- What the options given say, in order, each later one of a kind taking the place of
those before it. -/
structure Asked where
  dots : Nat := 0
  key : SortKey := .name
  layout : Layout := .lines
  quoting : Option Quoting := none
  marks : Marks := .none
  dirsFirst : Bool := false

/-- Takes one option into what was asked; the message when its word does not read. -/
def Asked.take (a : Asked) : Char × Option String → Except String Asked
  | ('a', _) => .ok { a with dots := 2 }
  | ('A', _) => .ok { a with dots := 1 }
  | ('f', _) => .ok { a with dots := 2, key := .none }
  | ('U', _) => .ok { a with key := .none }
  | ('S', _) => .ok { a with key := .size }
  | ('X', _) => .ok { a with key := .extension }
  | ('v', _) => .ok { a with key := .version }
  | ('t', _) => .ok { a with key := .time }
  | ('1', _) => .ok { a with layout := .lines }
  | ('C', _) => .ok { a with layout := .columns }
  | ('x', _) => .ok { a with layout := .across }
  | ('m', _) => .ok { a with layout := .commas }
  | ('l', _) | ('g', _) | ('o', _) | ('n', _) => .ok { a with layout := .long }
  | ('b', _) => .ok { a with quoting := some .escape }
  | ('N', _) => .ok { a with quoting := some .literal }
  | ('Q', _) => .ok { a with quoting := some .c }
  | ('F', _) => .ok { a with marks := .classify }
  | ('p', _) => .ok { a with marks := .slash }
  | ('\x02', _) => .ok { a with marks := .fileType }
  | ('\x04', _) => .ok { a with dirsFirst := true }
  | ('\x01', none) => .ok { a with marks := .classify }
  | (c, some w) =>
    if (choicesOf c).isEmpty then .ok a
    else do
      let v ← readChoice c w
      match c with
      | '\x01' => return { a with marks := if v == "always" then .classify else .none }
      | '\x03' => return { a with layout := match v with
        | "commas" => .commas
        | "across" => .across
        | "columns" => .columns
        | "long" => .long
        | _ => .lines }
      | '\x06' => return { a with marks := (Marks.ofName? v).getD .none }
      | '\x07' => return { a with quoting := Quoting.ofName? v }
      | _ => return { a with key := match v with
        | "none" => .none
        | "size" => .size
        | "extension" => .extension
        | "version" => .version
        | "width" => .width
        | "time" => .time
        | _ => .name }
  | _ => .ok a

/-- Runs `ls` once its options are read: the line length and the warning about the
environment are settled. -/
def lsWith (cx : Context) (o : Options) (a : Asked) (lineLength : Nat) (warning : String) : Outcome :=
  match o.last? 'T' with
  | some t =>
    match tabOf? t with
    | some tab => lsTabbed cx o a lineLength warning tab
    | none => cx.failWith (warning ++ "ls: invalid tab size: " ++ quote t ++ "\n") 2
  | none => lsTabbed cx o a lineLength warning 8
where
  /-- The listing once the tab size is settled too. -/
  lsTabbed (cx : Context) (o : Options) (a : Asked) (lineLength : Nat) (warning : String) (tab : Nat) : Outcome :=
    let envQuoting := (cx.getenv "QUOTING_STYLE").bind Quoting.ofName?
    let ignored := (o.all 'I').map globOf ++ (if o.has 'B' then [globOf "*~", globOf ".*~"] else [])
    let l : Listing := ⟨a.dots, ignored, (o.all '\x05').map globOf, a.key, o.has 'r', a.dirsFirst,
      (a.quoting.orElse fun _ => envQuoting).getD .literal, a.marks, a.layout, tab, lineLength, o.has 'd', o.has 'R',
      o.has 's', ['l', 'g', 'o', 'n', 's'].any o.has,
      o.has 'L' || o.has 'H' || !(o.has 'd' || a.marks == .classify || ['l', 'g', 'o', 'n'].any o.has),
      !o.has 'g', !o.has 'o', o.has 'n'⟩
    l.run cx o.operands warning

/-- Runs `ls`. -/
def ls (cx : Context) (args : List String) : Outcome :=
  match Options.read "ls" lsSpec args with
  | .error e => cx.badUsage "ls" e 2
  | .ok o =>
    match o.given.foldlM Asked.take {} with
    -- a word that names no choice ends every program with status 1
    | .error e => cx.failWith e 1
    | .ok a =>
      match o.last? 'w' with
      | some w =>
        match widthOf? w with
        | some n => lsWith cx o a n ""
        | none => cx.failWith ("ls: invalid line width: " ++ quote w ++ "\n") 2
      | none =>
        match (if a.layout == .lines then none else cx.getenv "COLUMNS") with
        | some c =>
          if c.isEmpty then lsWith cx o a 80 ""
          else match widthOf? c with
            | some n => lsWith cx o a n ""
            | none => lsWith cx o a 80 ("ls: ignoring invalid width in environment variable COLUMNS: " ++ quote c ++ "\n")
        | none => lsWith cx o a 80 ""

end HelpMan.Tools
