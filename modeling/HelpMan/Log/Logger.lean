import HelpMan.Log.Level

/-!
# Loggers

A logger has a level, an output that either keeps or discards its lines, and the clock
texts that its lines carry. A line of a given level is written when the logger's rank is
at most that level's rank: `[LEVEL] hh:mm:ss message` and a line feed (`Logger.line`);
otherwise nothing is written. A discarding logger writes nothing at all
(`line_discard`).

A timed operation logs `starting <op>` at info level before it runs, and afterwards
`<op> completed in <elapsed>` at info level or `<op> failed after <elapsed>: <error>` at
error level (`Logger.started`, `Logger.finished`).
-/

namespace HelpMan.Log

/-- A logger. -/
structure Logger where
  level : Level
  /-- Whether the lines are kept; a logger with no output discards them. -/
  writes : Bool
  /-- The time of day printed on each line. -/
  clock : String
  /-- The text printed for the time an operation took. -/
  elapsed : String
  deriving DecidableEq, Repr

namespace Logger

/-- The logger that writes nothing. -/
def discard : Logger := ⟨Level.error, false, "", ""⟩

/-- The text a line of level `at` with message `msg` adds to the output. -/
def line (l : Logger) (lvl : Level) (msg : String) : String :=
  if l.writes && decide (l.level.rank ≤ lvl.rank) then
    "[" ++ lvl.tag ++ "] " ++ l.clock ++ " " ++ msg ++ "\n"
  else ""

theorem line_discard (lvl : Level) (msg : String) : discard.line lvl msg = "" := rfl

def debug (l : Logger) (msg : String) : String := l.line Level.debug msg
def info (l : Logger) (msg : String) : String := l.line Level.info msg
def warn (l : Logger) (msg : String) : String := l.line Level.warn msg
def error (l : Logger) (msg : String) : String := l.line Level.error msg

/-- The line before a timed operation runs. -/
def started (l : Logger) (op : String) : String := l.info ("starting " ++ op)

/-- The line after a timed operation ran, given the message of its failure if it failed. -/
def finished (l : Logger) (op : String) : Option String → String
  | none => l.info (op ++ " completed in " ++ l.elapsed)
  | some err => l.error (op ++ " failed after " ++ l.elapsed ++ ": " ++ err)

end Logger

end HelpMan.Log
