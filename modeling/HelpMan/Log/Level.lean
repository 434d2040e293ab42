import HelpMan.Text.Blank
import HelpMan.Text.Lower
import HelpMan.Text.Quoted

/-!
# Log levels

A log level is a rank: debug 0, info 1, warn 2 and error 3. A logger writes the lines of
its own rank and above. Any integer is a rank; the four named ones print as their names
and the others as `level(n)` (`Level.name`). A level is read from its name, trimmed and
in any case (`Level.parse?`).
-/

namespace HelpMan.Log

/-- A log level, by rank. -/
structure Level where
  rank : Int
  deriving DecidableEq, Repr

namespace Level

def debug : Level := ⟨0⟩
def info : Level := ⟨1⟩
def warn : Level := ⟨2⟩
def error : Level := ⟨3⟩

/-- The named levels with their names. -/
def named : List (String × Level) := [("debug", debug), ("info", info), ("warn", warn), ("error", error)]

/-- The level's name, or `level(n)` for a rank without one. -/
def name (l : Level) : String :=
  match named.find? (fun p => p.2 == l) with
  | some (n, _) => n
  | none => "level(" ++ toString l.rank ++ ")"

/-- The tag that starts a log line of this level. -/
def tag (l : Level) : String := (l.name).toUpper

/-- The level a name denotes, ignoring blanks at the ends and case. -/
def parse? (s : String) : Option Level :=
  let key := Text.lowerText s.trimBlank
  (named.find? (fun p => p.1 == key)).map Prod.snd

/-- Why a name denotes no level. -/
def unknownMessage (s : String) : String := "unknown log level " ++ Text.quote s

end Level

end HelpMan.Log
