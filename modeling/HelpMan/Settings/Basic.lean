import HelpMan.Log.Level
import HelpMan.Page.Entry

/-!
# Settings

The settings of a run: the log level, the version and title printed in the page, the
environment variables documented in it, and extra references for its end. They come
from three layers, lowest first: the defaults (level `error`, version `0.0.1`), a settings
file, and the variables `GENMAN_LOG_LEVEL`, `GENMAN_VERSION` and `GENMAN_TITLE`. A layer
sets only what it gives: a non-empty text or a non-empty list (`Settings.overlay`).

Settings are valid (`Settings.check`) when the log level names a level, the version is
not blank, and every environment entry has a name that is not blank; the first of these
that fails is the reason.
-/

namespace HelpMan

open Page

/-- The settings of a run. -/
structure Settings where
  logLevel : String
  version : String
  title : String
  environment : List EnvVar
  also : List String
  deriving DecidableEq, Repr

namespace Settings

/-- Settings that set nothing. -/
def empty : Settings := ⟨"", "", "", [], []⟩

/-- The settings used when nothing else sets a value. -/
def defaults : Settings := { empty with logLevel := "error", version := "0.0.1" }

/-- `top` laid over `base`: what `top` gives (a non-empty text or list) wins. -/
def overlay (base top : Settings) : Settings where
  logLevel := if top.logLevel.isEmpty then base.logLevel else top.logLevel
  version := if top.version.isEmpty then base.version else top.version
  title := if top.title.isEmpty then base.title else top.title
  environment := if top.environment.isEmpty then base.environment else top.environment
  also := if top.also.isEmpty then base.also else top.also

@[simp] theorem overlay_empty (s : Settings) : s.overlay empty = s := by
  cases s; simp [overlay, empty]

/-- The settings that the environment variables give. -/
def ofEnvironment (get : String → String) : Settings :=
  { empty with logLevel := get "GENMAN_LOG_LEVEL", version := get "GENMAN_VERSION", title := get "GENMAN_TITLE" }

/-- Why settings are not valid. -/
inductive Invalid where
  | logLevel
  | emptyVersion
  /-- The environment entry at this position, from one, has no name. -/
  | unnamedEntry (position : Nat)
  deriving DecidableEq, Repr

/-- The message of a reason. -/
def Invalid.message : Invalid → String
  | .logLevel => "invalid log level"
  | .emptyVersion => "version must not be empty"
  | .unnamedEntry n => "environment entry " ++ toString n ++ " has no name"

/-- The position, from `k`, of the first entry without a name. -/
def firstUnnamed (k : Nat) : List EnvVar → Option Nat
  | [] => none
  | e :: es => if e.name.isBlankText then some k else firstUnnamed (k + 1) es

/-- Checks settings: the first reason they are not valid, if any. -/
def check (s : Settings) : Option Invalid :=
  if (Log.Level.parse? s.logLevel).isNone then some .logLevel
  else if s.version.isBlankText then some .emptyVersion
  else (firstUnnamed 1 s.environment).map .unnamedEntry

end Settings

end HelpMan
