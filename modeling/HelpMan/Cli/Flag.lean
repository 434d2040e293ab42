import HelpMan.Text.Quoted

/-!
# Flags

A command takes flags: switches, which are on or off, and text flags, which take a
value. A flag has a long name (`--output`) and may have a one-letter short name (`-o`).

`Flag.parse` reads a command line against a set of flags, left to right:

* `--` ends the flags, and every argument after it is positional;
* an empty argument, `-`, and any argument not starting with `-` is positional, and
  flags may stand before and after positional arguments;
* `--name=value` sets a flag; `--name` turns a switch on, or takes the next argument as
  the value of a text flag;
* `-abc` is a group of short flags: a switch is turned on and the group goes on; a text
  flag takes the rest of the group as its value (`-ovalue`, or `-o=value`), or the next
  argument when the group ends with it; the rest of a group that starts with `test.` is
  passed over, as the flags of a test run (`-test.v`);
* a switch's value must be one of `1 t T TRUE true True` or `0 f F FALSE false False`.

The first flag that is unknown, lacks its value or has a bad value stops the reading
with a `FlagError`.
-/

namespace HelpMan.Cli

/-- The kind of value a flag takes. -/
inductive FlagKind where
  | switch
  | text
  deriving DecidableEq, Repr

/-- A flag of a command. -/
structure Flag where
  name : String
  short : Option Char
  kind : FlagKind
  usage : String
  deriving DecidableEq, Repr

/-- Why a command line does not read. -/
inductive FlagError where
  | unknownLong (name : String)
  /-- An unknown short flag, the group it stands in. -/
  | unknownShort (c : Char) (group : String)
  | missingLong (arg : String)
  | missingShort (c : Char) (group : String)
  | badSyntax (arg : String)
  /-- A switch given a value that is not a truth value; the flag as written in messages. -/
  | badSwitch (value : String) (flag : String)
  deriving DecidableEq, Repr

/-- The character that stands for the first byte of a character's encoding: the
character itself when it is ASCII. -/
def firstByteChar (c : Char) : Char :=
  match c.toString.toUTF8.toList with
  | b :: _ => Char.ofNat b.toNat
  | [] => c

/-- The message of a reading error. -/
def FlagError.message : FlagError → String
  | .unknownLong name => "unknown flag: --" ++ name
  | .unknownShort c group => "unknown shorthand flag: " ++ Text.quoteChar (firstByteChar c) ++ " in -" ++ group
  | .missingLong arg => "flag needs an argument: " ++ arg
  | .missingShort c group => "flag needs an argument: " ++ Text.quoteChar c ++ " in -" ++ group
  | .badSyntax arg => "bad flag syntax: " ++ arg
  | .badSwitch value flag =>
    "invalid argument " ++ Text.quote value ++ " for " ++ Text.quote flag ++ " flag: strconv.ParseBool: parsing " ++
      Text.quote value ++ ": invalid syntax"

/-- The truth value a text spells, if any. -/
def parseSwitch (s : String) : Option Bool :=
  if ["1", "t", "T", "TRUE", "true", "True"].contains s then some true
  else if ["0", "f", "F", "FALSE", "false", "False"].contains s then some false
  else none

/-- What a command line gives: the flags set, in order, with their values, and the
positional arguments. -/
structure Given where
  set : List (String × String)
  args : List String
  deriving Repr

namespace Given

/-- The last value given to a flag. -/
def value? (g : Given) (name : String) : Option String :=
  (g.set.reverse.find? (·.1 == name)).map Prod.snd

/-- Whether a flag was given. -/
def changed (g : Given) (name : String) : Bool := (g.value? name).isSome

/-- The text of a text flag, empty when not given. -/
def text (g : Given) (name : String) : String := (g.value? name).getD ""

/-- Whether a switch is on. -/
def on (g : Given) (name : String) : Bool := ((g.value? name).bind parseSwitch).getD false

end Given

namespace Flag

/-- The flag with a long name. -/
def byName (flags : List Flag) (name : String) : Option Flag := flags.find? (·.name == name)

/-- The flag with a short name. -/
def byShort (flags : List Flag) (c : Char) : Option Flag := flags.find? (·.short == some c)

/-- The flag as messages write it: `-o, --output` or `--config`. -/
def written (f : Flag) : String :=
  match f.short with
  | some c => "-" ++ c.toString ++ ", --" ++ f.name
  | none => "--" ++ f.name

/-- Sets a flag to a value, checking a switch's value. -/
def assign (f : Flag) (value : String) (g : Given) : Except FlagError Given :=
  if f.kind == .switch && (parseSwitch value).isNone then .error (.badSwitch value f.written)
  else .ok { g with set := g.set ++ [(f.name, value)] }

/-- Reads a group of short flags (the characters after `-`); `rest` are the arguments
after the group. Gives the arguments left and what was given. -/
def shortGroup (flags : List Flag) (rest : List String) : List Char → Given → Except FlagError (List String × Given)
  | [], g => .ok (rest, g)
  | c :: more, g =>
    let group := String.ofList (c :: more)
    if group.startsWith "test." then .ok (rest, g) else
    match byShort flags c with
    | none => .error (.unknownShort c group)
    | some f =>
      match more with
      | '=' :: v :: vs => do
        let g ← f.assign (String.ofList (v :: vs)) g
        .ok (rest, g)
      | _ =>
        if f.kind == .switch then do
          let g ← f.assign "true" g
          shortGroup flags rest more g
        else if !more.isEmpty then do
          let g ← f.assign (String.ofList more) g
          .ok (rest, g)
        else
          match rest with
          | v :: rest' => do
            let g ← f.assign v g
            .ok (rest', g)
          | [] => .error (.missingShort c group)

/-- Reads a long flag (the text after `--`); `rest` are the arguments after it. -/
def longFlag (flags : List Flag) (arg : String) (body : List Char) (rest : List String) (g : Given) :
    Except FlagError (List String × Given) :=
  match body with
  | '-' :: _ | '=' :: _ => .error (.badSyntax arg)
  | _ =>
    let name := String.ofList (body.takeWhile (· ≠ '='))
    let value := match body.dropWhile (· ≠ '=') with
      | '=' :: v => some (String.ofList v)
      | _ => none
    match byName flags name with
    | none => .error (.unknownLong name)
    | some f =>
      match value with
      | some v => do
        let g ← f.assign v g
        .ok (rest, g)
      | none =>
        if f.kind == .switch then do
          let g ← f.assign "true" g
          .ok (rest, g)
        else
          match rest with
          | v :: rest' => do
            let g ← f.assign v g
            .ok (rest', g)
          | [] => .error (.missingLong arg)

/-- Reads arguments against flags, with fuel for the number of steps. -/
def parseFrom (flags : List Flag) : Nat → List String → Given → Except FlagError Given
  | 0, _, g => .ok g
  | _ + 1, [], g => .ok g
  | fuel + 1, arg :: rest, g =>
    match arg.toList with
    | '-' :: '-' :: [] => .ok { g with args := g.args ++ rest }
    | '-' :: '-' :: body => do
      let (rest, g) ← longFlag flags arg body rest g
      parseFrom flags fuel rest g
    | '-' :: c :: more => do
      let (rest, g) ← shortGroup flags rest (c :: more) g
      parseFrom flags fuel rest g
    | _ => parseFrom flags fuel rest { g with args := g.args ++ [arg] }

/-- Reads a command line against flags. -/
def parse (flags : List Flag) (args : List String) : Except FlagError Given :=
  parseFrom flags (args.length + 1) args ⟨[], []⟩

/-! ## Looking past flags

Before the flags of a command are known, a command line is read for the names of
subcommands with a rougher rule: an argument `--name` without `=` takes the next argument
as its value unless `name` is a known switch, and so does a two-byte `-c` unless `c` is a
known short switch or `=`. -/

/-- Whether an argument is a flag that takes the next argument as its value. -/
def takesNext (flags : List Flag) (arg : String) : Bool :=
  match arg.toList with
  | '-' :: '-' :: body =>
    !body.contains '=' && !((byName flags (String.ofList body)).any (·.kind == .switch))
  | ['-', c] => c.toNat < 128 && c != '=' && !((byShort flags c).any (·.kind == .switch))
  | _ => false

/-- The arguments that are not flags or flag values, up to `--`. An argument after a
flag that takes a value is that value; a flag that would take a value from past the end
ends the scan. -/
def bareWords (flags : List Flag) : Nat → List String → List String
  | 0, _ => []
  | _ + 1, [] => []
  | fuel + 1, arg :: rest =>
    if arg == "--" then []
    else if arg.startsWith "-" && takesNext flags arg then
      match rest with
      | _ :: next :: more => bareWords flags fuel (next :: more)
      | _ => []
    else if arg != "" && !arg.startsWith "-" then arg :: bareWords flags fuel rest
    else bareWords flags fuel rest

/-- The arguments without the first bare word equal to `word`, skipping flag values. -/
def dropWord (flags : List Flag) (word : String) : Nat → List String → List String
  | 0, args => args
  | _ + 1, [] => []
  | fuel + 1, arg :: rest =>
    if arg == "--" then arg :: rest
    else if arg.startsWith "-" && takesNext flags arg then
      match rest with
      | v :: more => arg :: v :: dropWord flags word fuel more
      | [] => [arg]
    else if !arg.startsWith "-" && arg == word then rest
    else arg :: dropWord flags word fuel rest

end Flag

end HelpMan.Cli
