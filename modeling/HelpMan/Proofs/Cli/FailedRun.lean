import HelpMan.Proofs.Page.AllOrNothing
import HelpMan.Cli.Run
import HelpMan.Proofs.Utility.Help

/-!
# What a failed run leaves behind

A run of the command line that fails writes no file and changes none, and prints nothing from
the generator on standard output (`FailedRun`, `execute_failure`): the world it leaves is the
one it started from, or the one the utility's help run left when the run got that far, and
standard output holds nothing but, when usage text goes there, the main command's usage.
The proof follows `execute` branch by branch; the only branch that reaches the generator is
`generate`, where every failure keeps the world the generation left
(`helpRun_generation_world`).

Together with what every generation keeps (`Page.Generator.Promise`) this makes the output of
the program all or nothing (`output_all_or_nothing`).
-/

namespace HelpMan.Cli

open Page

/-- What a failed run leaves: the world it started from, or the one the help run of a
utility left, and on standard output nothing, or the main command's usage when usage text
goes there. -/
def FailedRun (s : Setup) (w : World) (o : Outcome) : Prop :=
  (o.world = w ∨ ∃ utility sub, o.world = (s.run utility (Utility.helpArgs sub) w).2) ∧
    (o.stdout = "" ∨ s.usageToStdout = true ∧ o.stdout = Command.main.usage s.tree)

theorem failedRun_failed (s : Setup) (w : World) (e : Failure) : FailedRun s w (failed e w) :=
  ⟨.inl rfl, .inl rfl⟩

@[simp] theorem printed_failure (text : String) (w : World) : (printed text w).failure = none := rfl

theorem failedRun_usage (s : Setup) (w : World) (e : Option Failure) :
    FailedRun s w (s.console (Command.main.usage s.tree) e w) := by
  unfold Setup.console
  split
  · exact ⟨.inl rfl, .inr ⟨‹_›, rfl⟩⟩
  · exact ⟨.inl rfl, .inl rfl⟩

theorem failedRun_of_helpRun {s : Setup} {w : World} {o : Outcome} (utility sub : String) (hout : o.stdout = "")
    (hw : o.world = w ∨ o.world = (s.run utility (Utility.helpArgs sub) w).2) : FailedRun s w o :=
  ⟨hw.imp id fun h => ⟨utility, sub, h⟩, .inl hout⟩

/-- A generator whose help source runs the utility leaves the world the help run left, or the
world it started from when the request names no utility. -/
theorem helpRun_generation_world (run : Utility.Runner World) (logger : Log.Logger) (env : List EnvVar)
    (now : Clock.Reading) (req : Request) (sink : Sink) (w : World) :
    (Generator.generate ⟨some fun c sub w => Utility.askHelp run logger c sub w, env, logger, now⟩ req sink w).2 = w ∨
      (Generator.generate ⟨some fun c sub w => Utility.askHelp run logger c sub w, env, logger, now⟩ req sink w).2 =
        (run req.command (Utility.helpArgs req.subcommand) w).2 := by
  rw [Generator.generate_state]
  unfold Generator.afterHelp
  simp only
  split
  · exact .inl rfl
  · exact .inr (Utility.askHelp_state run logger _ _ w)

/-- A generation from the command line that fails leaves the world the help run left and
prints nothing. -/
theorem generate_failure (s : Setup) (given : Given) (utility : String) (cfg : Settings) (w : World)
    (h : (generate s given utility cfg w).failure.isSome = true) :
    FailedRun s w (generate s given utility cfg w) := by
  unfold generate at h ⊢
  simp only at h ⊢
  have hworld := helpRun_generation_world s.run (loggerFor given cfg s.now) cfg.environment s.now
    (requestFor given utility cfg) .accepts w
  generalize Generator.generate _ _ Sink.accepts w = res at h hworld ⊢
  obtain ⟨g, w'⟩ := res
  simp only at h hworld ⊢
  rcases hr : g.result with e | ⟨⟩
  · exact failedRun_of_helpRun utility _ rfl hworld
  · simp only [hr] at h ⊢
    generalize (if (given.text "output").isEmpty = true then filename utility (given.text "subcommand")
      else given.text "output") = path at h ⊢
    by_cases hstdout : path = "-"
    · simp [hstdout] at h
    · rw [if_neg hstdout] at h ⊢
      cases hwrite : w'.host.workspace.write path g.written with
      | error why => exact failedRun_of_helpRun utility _ rfl hworld
      | ok ws => simp [hwrite] at h

theorem runMain_failure (s : Setup) (given : Given) (w : World) (h : (runMain s given w).failure.isSome = true) :
    FailedRun s w (runMain s given w) := by
  revert h
  unfold runMain
  split
  · split
    · intro _
      exact failedRun_usage s w _
    · split
      · intro _
        exact failedRun_failed s w _
      · exact generate_failure s given _ _ w
  · intro _
    exact failedRun_usage s w _
  · intro _
    exact failedRun_failed s w _

@[simp] theorem console_failure (s : Setup) (text : String) (e : Option Failure) (w : World) :
    (s.console text e w).failure = e := by
  unfold Setup.console
  split <;> rfl

theorem answerCompletion_failure (s : Setup) (calledAs : String) (words : List String) (w : World)
    (h : (answerCompletion s calledAs words w).failure.isSome = true) :
    FailedRun s w (answerCompletion s calledAs words w) := by
  revert h
  unfold answerCompletion
  split
  · intro _
    exact failedRun_failed s w _
  · intro h
    simp at h

theorem execute_failure (s : Setup) (w : World) (h : (execute s w).failure.isSome = true) :
    FailedRun s w (execute s w) := by
  revert h
  unfold execute
  cases hreq : completionRequest s.args with
  | some req =>
    obtain ⟨calledAs, words⟩ := req
    exact answerCompletion_failure s calledAs words w
  | none =>
    simp only
    generalize find s.tree s.args = found
    obtain ⟨cmd, rest⟩ := found
    cases hflags : Flag.parse cmd.flags rest with
    | error e => exact fun _ => failedRun_failed s w _
    | ok given =>
      simp only
      by_cases hhelp : (given.on "help" || !cmd.runnable) = true
      · simp [hhelp]
      · rw [if_neg hhelp]
        cases cmd with
        | main => exact runMain_failure s given w
        | version =>
          cases given.args with
          | nil => simp
          | cons a _ => exact fun _ => failedRun_failed s w _
        | manual =>
          cases given.args with
          | nil => simp
          | cons a _ => exact fun _ => failedRun_failed s w _
        | help => simp
        | completion => simp

/-! ## All or nothing -/

/-- **All or nothing.** Every generation asks its help source at most
once and hands its destination the whole page or nothing, and a run of the command line that
fails writes no file and prints nothing from the generator. -/
theorem output_all_or_nothing :
    (∀ {σ : Type} (g : Generator σ) (req : Request) (sink : Sink) (st : σ), g.Promise req sink st) ∧
      ∀ (s : Setup) (w : World), (execute s w).failure.isSome = true → FailedRun s w (execute s w) :=
  ⟨fun _ _ _ _ => Generator.generate_promise, execute_failure⟩

/-- A help source that records its calls and fails: the generation asks it once and writes
nothing; and a command line naming two utilities fails and leaves the world as it was. -/
theorem output_all_or_nothing_failing_help :
    let g : Generator (List (String × String)) :=
      ⟨some fun c sub calls => (⟨.error (.plain "no help"), ""⟩, calls ++ [(c, sub)]), [], Log.Logger.discard,
        Clock.Reading.ofSeconds 0 "0s"⟩
    let r : Request := ⟨"widget", "", "", "", "", []⟩
    let s : Setup := ⟨["a", "b"], Clock.Reading.ofSeconds 0 "0s", false, ⟨true⟩, fun _ _ w => (.error (.plain "no help"), w)⟩
    let w : World := ⟨⟨Workspace.prepare [] [] [], [], false, false⟩, []⟩
    (g.generate r .accepts []).2 = [("widget", "")] ∧ (g.generate r .accepts []).1.written = "" ∧
      (execute s w).failure.isSome = true ∧ FailedRun s w (execute s w) := by
  intro g r s w
  have hpromise := output_all_or_nothing.1 g r .accepts []
  have hfailed : (execute s w).failure.isSome = true := by decide +kernel
  exact ⟨hpromise.asksOnce, hpromise.nothingOnFailure _ (hpromise.helpFailure _ _ (by decide) rfl rfl), hfailed,
    output_all_or_nothing.2 s w hfailed⟩

end HelpMan.Cli
