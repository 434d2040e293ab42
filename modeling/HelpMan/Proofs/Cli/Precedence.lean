import HelpMan.Proofs.Cli.FailedRun

/-!
# Where a run's settings come from

The main command takes its settings from four layers: its flags, the variables
`GENMAN_LOG_LEVEL`, `GENMAN_VERSION` and `GENMAN_TITLE`, one settings file, and the defaults. It
reads exactly one file: the one `--config` names when that is not empty, else the one
`GENMAN_CONFIG` names when that is not empty (`Cli.namedFile`), else the first default path that
exists and reads; default paths where nothing stands or whose file does not read are passed over,
and none after the first that reads is looked at (`Settings.FirstDefault`). A named file that does
not read fails the run with a configuration error, before the utility is asked for its help. Each
of the log level, the version and the title is then taken from the first layer that sets it
(`Cli.layered`): the flag (`--log-level` when it is not empty, `--version` and `--title` whenever
they are given), the variable when it is not empty, the file's value when it is not empty, and
the default; the environment table and the extra references come from the file, and `--also`,
when it is given, even empty, replaces those references in the request the run generates from.

The main statement is `Cli.settings_precedence`. Like the program, it takes the decoding of a
settings file as given: decoding a file the run reads ends without a runtime fault
(`Settings.Decodes`).
-/

namespace HelpMan

namespace Settings

/-! ## The search over default paths -/

/-- Reading the settings file at a path ends without a runtime fault: the file reads and decodes,
or it is refused with a reported error. -/
def Decodes (ws : Workspace) (path : String) : Prop := ∀ m, readFile ws path ≠ .error (.fault m)

/-- The file a search over default paths takes: the first that exists and reads. A path where
nothing stands, or whose file does not read, is passed over, and no path gives no settings. -/
inductive FirstDefault (ws : Workspace) : List String → Settings → Prop
  | none : FirstDefault ws [] empty
  | found {p : String} {ps : List String} {f : Settings} :
      ws.exists? p = true → readFile ws p = .ok f → FirstDefault ws (p :: ps) f
  | missing {p : String} {ps : List String} {f : Settings} :
      ws.exists? p = false → FirstDefault ws ps f → FirstDefault ws (p :: ps) f
  | unreadable {p : String} {ps : List String} {f : Settings} {e : Failure} :
      ws.exists? p = true → readFile ws p = .error e → FirstDefault ws ps f → FirstDefault ws (p :: ps) f

section Search

variable {ws : Workspace} {p : String} {ps paths : List String} {f : Settings}

theorem firstReadable_missing (h : ws.exists? p = false) : firstReadable ws (p :: ps) = firstReadable ws ps := by
  simp [firstReadable, h]

theorem firstReadable_found (h : ws.exists? p = true) (hr : readFile ws p = .ok f) :
    firstReadable ws (p :: ps) = .ok f := by
  simp [firstReadable, h, hr]

theorem firstReadable_unreadable {e : Failure} (h : ws.exists? p = true) (hr : readFile ws p = .error e)
    (hd : Decodes ws p) : firstReadable ws (p :: ps) = firstReadable ws ps := by
  cases e with
  | fault m => exact absurd hr (hd m)
  | _ => simp [firstReadable, h, hr]

/-- The search over default paths takes the file `FirstDefault` says, when no file it reads faults. -/
theorem firstReadable_eq_ok_iff (hdec : ∀ q ∈ paths, Decodes ws q) :
    firstReadable ws paths = .ok f ↔ FirstDefault ws paths f := by
  induction paths with
  | nil =>
    constructor
    · intro h
      cases h
      exact .none
    · intro h
      cases h
      rfl
  | cons p ps ih =>
    have ih := ih fun q hq => hdec q (List.mem_cons_of_mem _ hq)
    cases hex : ws.exists? p with
    | false =>
      rw [firstReadable_missing hex]
      constructor
      · exact fun h => .missing hex (ih.1 h)
      · intro h
        cases h with
        | found he => simp_all
        | missing _ h => exact ih.2 h
        | unreadable he => simp_all
    | true =>
      cases hr : readFile ws p with
      | ok s =>
        rw [firstReadable_found hex hr]
        constructor
        · intro h
          cases h
          exact .found hex hr
        · intro h
          cases h with
          | found _ hf => rw [hr] at hf; exact hf
          | missing he => simp_all
          | unreadable _ he => simp_all
      | error e =>
        rw [firstReadable_unreadable hex hr (hdec p List.mem_cons_self)]
        constructor
        · exact fun h => .unreadable hex hr (ih.1 h)
        · intro h
          cases h with
          | found _ hf => simp_all
          | missing he => simp_all
          | unreadable _ _ h => exact ih.2 h

/-- A search over default paths always takes a file, or none. -/
theorem exists_firstDefault (ws : Workspace) (paths : List String) : ∃ f, FirstDefault ws paths f := by
  induction paths with
  | nil => exact ⟨empty, .none⟩
  | cons p ps ih =>
    obtain ⟨f, hf⟩ := ih
    cases hex : ws.exists? p with
    | false => exact ⟨f, .missing hex hf⟩
    | true =>
      cases hr : readFile ws p with
      | ok s => exact ⟨s, .found hex hr⟩
      | error e => exact ⟨f, .unreadable hex hr hf⟩

end Search

end Settings

namespace Cli

open Settings

/-! ## The layers -/

/-- The settings file a run names: `--config` when it is not empty, else `GENMAN_CONFIG` when that
is not empty. -/
def namedFile (given : Given) (env : Environment) : Option String :=
  if (given.text "config").isEmpty then
    if (env.get "GENMAN_CONFIG").isEmpty then none else some (env.get "GENMAN_CONFIG")
  else some (given.text "config")

/-- The paths a run may read its settings from: the file it names, or else the default paths. -/
def candidates (given : Given) (env : Environment) : List String :=
  match namedFile given env with
  | some p => [p]
  | none => defaultPaths env

/-- The settings file a run takes: the file it names, when that reads, or else the first default
path that exists and reads. -/
def Takes (given : Given) (w : World) (f : Settings) : Prop :=
  match namedFile given w.environment with
  | some p => readFile w.host.workspace p = .ok f
  | none => FirstDefault w.host.workspace (defaultPaths w.environment) f

/-- The first of the texts that is not empty, or the empty text. -/
def firstSet : List String → String
  | [] => ""
  | s :: rest => if s.isEmpty then firstSet rest else s

/-- The settings of a run that takes the file settings `f`: the log level, the version and the
title each from the first layer that sets it, and the environment table and the extra references
from the file. -/
def layered (given : Given) (env : Environment) (f : Settings) : Settings where
  logLevel := firstSet [given.text "log-level", env.get "GENMAN_LOG_LEVEL", f.logLevel, "error"]
  version := if given.changed "version" then given.text "version"
    else firstSet [env.get "GENMAN_VERSION", f.version, "0.0.1"]
  title := if given.changed "title" then given.text "title" else firstSet [env.get "GENMAN_TITLE", f.title]
  environment := f.environment
  also := f.also

/-- Settings as a run takes them: refused with a configuration error when they are not valid. -/
def validate (s : Settings) : Except Failure Settings :=
  match s.check with
  | some why => .error (.configuration "config" "invalid configuration"
      "Use one of debug, info, warn or error for the log level and give every environment entry a name"
      (some (.plain why.message)))
  | none => .ok s

-- `delta` rather than the equation lemma: deriving that lemma makes Lean evaluate `Settings.check`
theorem validate_of_check_none {s : Settings} (h : s.check = none) : validate s = .ok s := by
  delta validate
  rw [h]

theorem validate_of_check_some {s : Settings} {why : Settings.Invalid} (h : s.check = some why) :
    validate s = .error (.configuration "config" "invalid configuration"
      "Use one of debug, info, warn or error for the log level and give every environment entry a name"
      (some (.plain why.message))) := by
  delta validate
  rw [h]

/-- Settings that pass the check are taken as they are. -/
theorem eq_of_validate_ok {s cfg : Settings} (h : validate s = .ok cfg) : cfg = s := by
  cases hc : s.check with
  | none =>
    rw [validate_of_check_none hc] at h
    exact (Except.ok.inj h).symm
  | some why =>
    rw [validate_of_check_some hc] at h
    cases h

/-- The extra references of the request a run generates from: those `--also` gives when it is
given, else those of the settings file it takes; the variables and the defaults set none. -/
theorem also_requestFor {given : Given} {env : Environment} {f cfg : Settings}
    (h : validate (layered given env f) = .ok cfg) (utility : String) :
    (requestFor given utility cfg).also =
      if given.changed "also" then Page.splitRefs (given.text "also") else f.also := by
  rw [eq_of_validate_ok h]
  rfl

/-! ## The steps of `settingsFor` -/

/-- The settings a run loads: the defaults, the file, and the variables; or why the file could not
be had. -/
def loaded (given : Given) (w : World) : Except Failure Settings :=
  if (given.text "config").isEmpty then loadDefault w.host.workspace w.environment (defaultPaths w.environment)
  else load w.host.workspace w.environment (given.text "config")

/-- The flags laid over loaded settings: `--log-level` when it is not empty, `--version` and
`--title` when they are given. -/
def withFlags (given : Given) (s : Settings) : Settings :=
  let level := given.text "log-level"
  let s := if level.isEmpty then s else { s with logLevel := level }
  let s := if given.changed "version" then { s with version := given.text "version" } else s
  if given.changed "title" then { s with title := given.text "title" } else s

/-- The defaults, a file's settings and the variables, each laid over the one before. -/
def stack (env : Environment) (f : Settings) : Settings := (defaults.overlay f).overlay (ofEnvironment env.get)

/-- The loading step that `settingsFor` begins with. -/
theorem loaded_def (given : Given) (w : World) :
    (if (given.text "config").isEmpty then loadDefault w.host.workspace w.environment (defaultPaths w.environment)
      else load w.host.workspace w.environment (given.text "config")) = loaded given w := rfl

/-- Settings that load are checked with the flags laid over them. -/
theorem settingsFor_of_loaded_ok {given : Given} {w : World} {s : Settings} (h : loaded given w = .ok s) :
    settingsFor given w = validate (withFlags given s) := by
  unfold settingsFor
  dsimp only
  rw [loaded_def, h]
  simp only [bind, Except.bind, pure, Except.pure]
  split
  · rename_i why heq
    change (withFlags given s).check = some why at heq
    rw [validate_of_check_some heq]
    rfl
  · rename_i heq
    change (withFlags given s).check = none at heq
    rw [validate_of_check_none heq]
    rfl

/-- A file that cannot be had fails the run with a configuration error that carries why. -/
theorem settingsFor_of_loaded_error {given : Given} {w : World} {e : Failure} (h : loaded given w = .error e)
    (he : ∀ m, e ≠ .fault m) :
    settingsFor given w = .error (.configuration "config" "failed to load configuration"
          "Check that the file named by --config or GENMAN_CONFIG exists and is valid YAML" (some e)) := by
  unfold settingsFor
  dsimp only
  rw [loaded_def, h]
  cases e with
  | fault m => exact absurd rfl (he m)
  | _ => rfl

/-- The flags over the stacked layers give each value from the first layer that sets it. -/
theorem withFlags_stack (given : Given) (env : Environment) (f : Settings) :
    withFlags given (stack env f) = layered given env f := by
  simp only [withFlags, stack, layered, overlay, ofEnvironment, defaults, empty, firstSet]
  by_cases hl : (given.text "log-level").isEmpty <;> by_cases hv : given.changed "version" <;>
    by_cases ht : given.changed "title" <;> simp [hl, hv, ht]

section Loading

variable {given : Given} {w : World} {f : Settings} {p : String} {e : Failure}

theorem namedFile_eq_some_iff {env : Environment} :
    namedFile given env = some p ↔
      (given.text "config").isEmpty = false ∧ p = given.text "config" ∨
      (given.text "config").isEmpty = true ∧ (env.get "GENMAN_CONFIG").isEmpty = false ∧
        p = env.get "GENMAN_CONFIG" := by
  unfold namedFile
  cases hc : (given.text "config").isEmpty <;> cases hv : (env.get "GENMAN_CONFIG").isEmpty <;>
    simp [eq_comm]

theorem namedFile_eq_none_iff {env : Environment} :
    namedFile given env = none ↔
      (given.text "config").isEmpty = true ∧ (env.get "GENMAN_CONFIG").isEmpty = true := by
  unfold namedFile
  cases hc : (given.text "config").isEmpty <;> cases hv : (env.get "GENMAN_CONFIG").isEmpty <;> simp

/-- Loading a named file that reads stacks it between the defaults and the variables. -/
theorem loaded_of_named (hn : namedFile given w.environment = some p)
    (hr : readFile w.host.workspace p = .ok f) : loaded given w = .ok (stack w.environment f) := by
  rcases namedFile_eq_some_iff.mp hn with ⟨hc, rfl⟩ | ⟨hc, hv, rfl⟩
  · simp [loaded, load, hc, hr, stack, bind, Except.bind, pure, Except.pure]
  · simp [loaded, loadDefault, hc, hv, hr, stack, bind, Except.bind, pure, Except.pure]

/-- Loading a named file that does not read fails with why, seen from the loading step. -/
theorem loaded_of_named_error (hn : namedFile given w.environment = some p)
    (hr : readFile w.host.workspace p = .error e) (hd : Decodes w.host.workspace p) :
    ∃ context, loaded given w = .error (.wrap context e) := by
  have hwithin : ∀ context, e.within context = .wrap context e := by
    intro context
    cases e with
    | fault m => exact absurd hr (hd m)
    | _ => rfl
  rcases namedFile_eq_some_iff.mp hn with ⟨hc, rfl⟩ | ⟨hc, hv, rfl⟩
  · exact ⟨"failed to load config file", by
      simp [loaded, load, hc, hr, hwithin, bind, Except.bind, throw, throwThe, MonadExceptOf.throw]⟩
  · exact ⟨"failed to load config from GENMAN_CONFIG path", by
      simp [loaded, loadDefault, hc, hv, hr, hwithin, bind, Except.bind, throw, throwThe, MonadExceptOf.throw]⟩

/-- Loading with no file named searches the default paths. -/
theorem loaded_of_default (hn : namedFile given w.environment = none)
    (hdec : ∀ q ∈ defaultPaths w.environment, Decodes w.host.workspace q)
    (hf : FirstDefault w.host.workspace (defaultPaths w.environment) f) :
    loaded given w = .ok (stack w.environment f) := by
  obtain ⟨hc, hv⟩ := namedFile_eq_none_iff.mp hn
  rw [← firstReadable_eq_ok_iff hdec] at hf
  simp [loaded, loadDefault, hc, hv, hf, stack, bind, Except.bind, pure, Except.pure]

/-- A run that takes the file settings `f` loads them, stacked between the defaults and the
variables. -/
theorem loaded_of_takes (hdec : ∀ q ∈ candidates given w.environment, Decodes w.host.workspace q)
    (ht : Takes given w f) : loaded given w = .ok (stack w.environment f) := by
  unfold Takes at ht
  cases hn : namedFile given w.environment with
  | some p =>
    rw [hn] at ht
    exact loaded_of_named hn ht
  | none =>
    rw [hn] at ht
    exact loaded_of_default hn (by simpa [candidates, hn] using hdec) ht

/-- A run takes a settings file, unless the file it names does not read. -/
theorem takes_or_named_error (given : Given) (w : World) :
    (∃ f, Takes given w f) ∨
      ∃ p e, namedFile given w.environment = some p ∧ readFile w.host.workspace p = .error e := by
  cases hn : namedFile given w.environment with
  | some p =>
    cases hr : readFile w.host.workspace p with
    | ok f => exact .inl ⟨f, by simp [Takes, hn, hr]⟩
    | error e => exact .inr ⟨p, e, rfl, hr⟩
  | none =>
    obtain ⟨f, hf⟩ := exists_firstDefault w.host.workspace (defaultPaths w.environment)
    exact .inl ⟨f, by simp [Takes, hn, hf]⟩

end Loading

/-- A run with one utility that is not blank loads its settings, and fails with why they cannot
be had, or generates with them. -/
theorem runMain_of_utility (s : Setup) {given : Given} {utility : String} (w : World)
    (hargs : given.args = [utility]) (hu : utility.isBlankText = false) :
    runMain s given w = match settingsFor given w with
      | .error e => failed e w
      | .ok cfg => generate s given utility cfg w := by
  -- split on the settings first: both sides then take the same branch, however the match in the
  -- statement is compiled
  cases h : settingsFor given w <;> simp only [runMain, hargs, hu, h, Bool.false_eq_true, if_false]

/-- **The precedence of the settings.** When decoding the files a run may read ends without a
runtime fault: a run that takes the file settings `f` (the file it names, or else the first default
path that exists and reads) gets each value from the first layer that sets it, checked, and
generates from the extra references `--also` gives when it is given, else the file's; a named file
that does not read fails with a configuration error that carries why; one of the two always
happens; and a run with one utility that fails on its settings fails before the utility is asked for
its help, leaving the world as it was, and otherwise generates with the settings it got. -/
theorem settings_precedence {given : Given} {w : World}
    (hdec : ∀ p ∈ candidates given w.environment, Decodes w.host.workspace p) :
    (∀ f, Takes given w f → settingsFor given w = validate (layered given w.environment f)) ∧
    (∀ f cfg, Takes given w f → settingsFor given w = .ok cfg → ∀ utility,
      (requestFor given utility cfg).also =
        if given.changed "also" then Page.splitRefs (given.text "also") else f.also) ∧
    (∀ p e, namedFile given w.environment = some p → readFile w.host.workspace p = .error e →
      ∃ context, settingsFor given w = .error (.configuration "config" "failed to load configuration"
        "Check that the file named by --config or GENMAN_CONFIG exists and is valid YAML"
        (some (.wrap context e)))) ∧
    ((∃ f, Takes given w f) ∨
      ∃ p e, namedFile given w.environment = some p ∧ readFile w.host.workspace p = .error e) ∧
    ∀ (s : Setup) (utility : String), given.args = [utility] → utility.isBlankText = false →
      runMain s given w = match settingsFor given w with
        | .error e => failed e w
        | .ok cfg => generate s given utility cfg w := by
  have hlayers : ∀ f, Takes given w f → settingsFor given w = validate (layered given w.environment f) :=
    fun f ht => by rw [settingsFor_of_loaded_ok (loaded_of_takes hdec ht), withFlags_stack]
  refine ⟨hlayers, fun f cfg ht hok utility => ?_, fun p e hn hr => ?_, takes_or_named_error given w,
    fun s utility hargs hu => runMain_of_utility s w hargs hu⟩
  · exact also_requestFor ((hlayers f ht).symm.trans hok) utility
  · have hd : Decodes w.host.workspace p := hdec p (by simp [candidates, hn])
    obtain ⟨context, hload⟩ := loaded_of_named_error hn hr hd
    exact ⟨context, settingsFor_of_loaded_error hload fun m => by simp⟩

/-- A run that names `genman.yaml` with `--config`, whose file sets the log level and the version,
and whose environment sets the title. -/
theorem settings_precedence_named_file :
    let given : Given := ⟨[("config", "genman.yaml")], ["widget"]⟩
    let w : World := ⟨⟨Workspace.prepare [("genman.yaml", "log_level: debug\nversion: 2.0.0\n")] [] [],
      [("GENMAN_TITLE", "Widget Manual")], false, false⟩, []⟩
    (∀ p ∈ candidates given w.environment, Decodes w.host.workspace p) ∧
    (∀ f, Takes given w f → settingsFor given w = validate (layered given w.environment f)) ∧
    (∀ f cfg, Takes given w f → settingsFor given w = .ok cfg → ∀ utility,
      (requestFor given utility cfg).also =
        if given.changed "also" then Page.splitRefs (given.text "also") else f.also) ∧
    (∀ p e, namedFile given w.environment = some p → readFile w.host.workspace p = .error e →
      ∃ context, settingsFor given w = .error (.configuration "config" "failed to load configuration"
        "Check that the file named by --config or GENMAN_CONFIG exists and is valid YAML"
        (some (.wrap context e)))) ∧
    ((∃ f, Takes given w f) ∨
      ∃ p e, namedFile given w.environment = some p ∧ readFile w.host.workspace p = .error e) ∧
    ∀ (s : Setup) (utility : String), given.args = [utility] → utility.isBlankText = false →
      runMain s given w = match settingsFor given w with
        | .error e => failed e w
        | .ok cfg => generate s given utility cfg w := by
  intro given w
  have hdec : ∀ p ∈ candidates given w.environment, Decodes w.host.workspace p := by
    have hc : candidates given w.environment = ["genman.yaml"] := rfl
    have hok : (readFile w.host.workspace "genman.yaml").toBool = true := by decide +kernel
    intro p hp m hm
    rw [hc, List.mem_singleton] at hp
    rw [← hp, hm] at hok
    cases hok
  exact ⟨hdec, @settings_precedence given w hdec⟩

end Cli

end HelpMan
