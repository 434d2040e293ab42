import HelpMan.Proofs.Page.Layout

/-!
# A generation writes the whole page or nothing

Once the request names a utility and the generator has a help source, a generation ends in
one of four ways (`Layout.generate_outputs`): the help source failing, a bad line in the
files list, the destination refusing the page, or the destination taking the whole page.
Only the last one writes anything, and it writes the page of the layout
(`Generator.generate_nothing_or_page`); each failure is reported as the step that met it gave
it (`Generator.generate_of_help_error`, `Generator.generate_of_parseFiles_error`,
`Generator.generate_of_refuses`).

The help source is asked at most once, for the request's utility and subcommand, and only
when the request names a utility and the generator has a source: the state a generation
leaves is the one that single call leaves (`Generator.generate_state`). Together these give
`Generator.Promise`, what every generation keeps (`Generator.generate_promise`).
-/

namespace HelpMan

@[simp] theorem Failure.message_wrap (context : String) (inner : Failure) :
    (Failure.wrap context inner).message = context ++ ": " ++ inner.message := by
  rw [Failure.message.eq_def]

@[simp] theorem Failure.message_plain (msg : String) : (Failure.plain msg).message = msg := by
  rw [Failure.message.eq_def]

namespace Page

open Layout

variable {σ : Type}

/-- The state a generation leaves: the one its help source leaves when asked, once, for the
request's utility and subcommand, and the state it started from when the request names no
utility or there is no source. -/
def Generator.afterHelp (g : Generator σ) (req : Request) (st : σ) : σ :=
  match g.source with
  | some src => if req.command = "" then st else (src req.command req.subcommand st).2
  | none => st

namespace Generator

variable {g : Generator σ} {req : Request} {sink : Sink} {st : σ}
  {src : String → String → σ → HelpAnswer × σ}

/-! ## The ways a generation ends -/

theorem generate_of_command_eq_empty (h : req.command = "") :
    g.generate req sink st = (⟨"", "", .error .noCommand⟩, st) := by
  simp [generate, h]

theorem generate_of_source_eq_none (hc : req.command ≠ "") (hs : g.source = none) :
    g.generate req sink st = (⟨"", "", .error (.plain "generator has no help source")⟩, st) := by
  simp [generate, hc, hs]

/-- A help source that fails stops the generation with its failure, unchanged. -/
theorem generate_of_help_error {e : Failure} (hc : req.command ≠ "") (hs : g.source = some src)
    (he : (src req.command req.subcommand st).1.result = .error e) :
    (g.generate req sink st).1.written = "" ∧ (g.generate req sink st).1.result = .error e := by
  have hend : ((g.generate req sink st).1.written, (g.generate req sink st).1.result) = _ := generate_outputs hc hs
  simp only [he, Prod.mk.injEq] at hend
  exact hend

theorem make_of_parseFiles_error {H : Help.Record} {now : Clock.Reading} {bad : BadEntry}
    (hf : parseFiles req.files = .error bad) : Params.make req H now = .error bad := by
  simp only [Params.make, hf]
  rfl

/-- A bad line in the files list stops the generation once the help is read. -/
theorem generate_of_parseFiles_error {h : String} {bad : BadEntry} (hc : req.command ≠ "")
    (hs : g.source = some src) (hh : (src req.command req.subcommand st).1.result = .ok h)
    (hf : parseFiles req.files = .error bad) :
    (g.generate req sink st).1.written = "" ∧ (g.generate req sink st).1.result = .error (.badFileEntry bad) := by
  have hpage : (pageOf g req h).2 = .error (.badFileEntry bad) := by
    simp only [pageOf, make_of_parseFiles_error hf]
  have hend : ((g.generate req sink st).1.written, (g.generate req sink st).1.result) = _ := generate_outputs hc hs
  simp only [hh, hpage, Prod.mk.injEq] at hend
  exact hend

/-- A destination that refuses the page gets nothing, and the failure names the write. -/
theorem generate_of_refuses {h : String} {fs : List FileEntry} {reason : String} (hc : req.command ≠ "")
    (hs : g.source = some src) (hh : (src req.command req.subcommand st).1.result = .ok h)
    (hf : parseFiles req.files = .ok fs) :
    (g.generate req (.refuses reason) st).1.written = "" ∧
      (g.generate req (.refuses reason) st).1.result = .error (.wrap "failed to write man page" (.plain reason)) := by
  have hend : ((g.generate req (.refuses reason) st).1.written, (g.generate req (.refuses reason) st).1.result) = _ :=
    generate_outputs hc hs
  simp only [hh, pageOf_eq hf, Prod.mk.injEq] at hend
  exact hend

/-- The help source is asked at most once, for the request's utility and subcommand, and only
when the request names a utility: the state a generation leaves is the one that call leaves. -/
theorem generate_state : (g.generate req sink st).2 = g.afterHelp req st := by
  unfold generate afterHelp
  by_cases hc : req.command = ""
  · cases g.source <;> simp [hc]
  · cases hs : g.source with
    | none => simp [hc]
    | some src =>
      simp only [hc, if_false]
      rcases src req.command req.subcommand st with ⟨answer, st'⟩
      simp only
      split
      · rfl
      · split
        · rfl
        · split <;> rfl

/-- Whatever its request, help source and destination, a generation either fails with nothing
written or succeeds, with the help and the files list read, and hands the whole page to a
destination that takes it. -/
theorem generate_nothing_or_page :
    ((g.generate req sink st).1.written = "" ∧ ∃ e, (g.generate req sink st).1.result = .error e) ∨
      (sink = .accepts ∧ ∃ src h fs, g.source = some src ∧ (src req.command req.subcommand st).1.result = .ok h ∧
        parseFiles req.files = .ok fs ∧ (g.generate req sink st).1.result = .ok () ∧
        (g.generate req sink st).1.written = Troff.render (page req (Help.parse h) g.environment g.now fs)) := by
  by_cases hc : req.command = ""
  · rw [generate_of_command_eq_empty hc]
    exact .inl ⟨rfl, _, rfl⟩
  cases hs : g.source with
  | none =>
    rw [generate_of_source_eq_none hc hs]
    exact .inl ⟨rfl, _, rfl⟩
  | some src =>
    cases he : (src req.command req.subcommand st).1.result with
    | error e =>
      obtain ⟨hw, hr⟩ : (g.generate req sink st).1.written = "" ∧ _ := generate_of_help_error hc hs he
      exact .inl ⟨hw, e, hr⟩
    | ok h =>
      cases hf : parseFiles req.files with
      | error bad =>
        obtain ⟨hw, hr⟩ : (g.generate req sink st).1.written = "" ∧ _ := generate_of_parseFiles_error hc hs he hf
        exact .inl ⟨hw, _, hr⟩
      | ok fs =>
        cases sink with
        | refuses reason =>
          obtain ⟨hw, hr⟩ : (g.generate req (.refuses reason) st).1.written = "" ∧ _ :=
            generate_of_refuses hc hs he hf
          exact .inl ⟨hw, _, hr⟩
        | accepts =>
          obtain ⟨hr, hw⟩ := generate_accepts hc hs he hf
          exact .inr ⟨rfl, src, h, fs, rfl, he, rfl, hr, hw⟩

end Generator

/-! ## What every generation keeps -/

/-- What a generation keeps whatever its request, help source and destination. -/
structure Generator.Promise (g : Generator σ) (req : Request) (sink : Sink) (st : σ) : Prop where
  /-- The help source is asked at most once, for the request's utility and subcommand, and only
  when the request names a utility. -/
  asksOnce : (g.generate req sink st).2 = g.afterHelp req st
  /-- A failed generation writes nothing. -/
  nothingOnFailure : ∀ e, (g.generate req sink st).1.result = .error e → (g.generate req sink st).1.written = ""
  /-- A generation succeeds only once the help and the files list are read, and then the
  destination has taken the whole page. -/
  wholePage : (g.generate req sink st).1.result = .ok () → sink = .accepts ∧
    ∃ src h fs, g.source = some src ∧ (src req.command req.subcommand st).1.result = .ok h ∧
      parseFiles req.files = .ok fs ∧
      (g.generate req sink st).1.written = Troff.render (page req (Help.parse h) g.environment g.now fs)
  noCommand : req.command = "" → (g.generate req sink st).1.result = .error .noCommand
  noSource : req.command ≠ "" → g.source = none →
    (g.generate req sink st).1.result = .error (.plain "generator has no help source")
  /-- The help source's failure is passed on unchanged. -/
  helpFailure : ∀ src e, req.command ≠ "" → g.source = some src →
    (src req.command req.subcommand st).1.result = .error e → (g.generate req sink st).1.result = .error e
  badFileEntry : ∀ src h bad, req.command ≠ "" → g.source = some src →
    (src req.command req.subcommand st).1.result = .ok h → parseFiles req.files = .error bad →
    (g.generate req sink st).1.result = .error (.badFileEntry bad)
  /-- A destination's refusal is reported as a failure to write the page. -/
  writeFailure : ∀ src h fs reason, req.command ≠ "" → g.source = some src →
    (src req.command req.subcommand st).1.result = .ok h → parseFiles req.files = .ok fs → sink = .refuses reason →
    ∃ e, (g.generate req sink st).1.result = .error e ∧ e = .wrap "failed to write man page" (.plain reason) ∧
      e.message = "failed to write man page: " ++ reason

namespace Generator

variable {g : Generator σ} {req : Request} {sink : Sink} {st : σ}

/-- **Every generation keeps its promise.** -/
theorem generate_promise : g.Promise req sink st where
  asksOnce := generate_state
  nothingOnFailure e he := by
    rcases (generate_nothing_or_page : _ ∨ (sink = .accepts ∧ _)) with ⟨hw, -⟩ | ⟨-, -, -, -, -, -, -, hr, -⟩
    · exact hw
    · rw [hr] at he
      cases he
  wholePage hr := by
    rcases (generate_nothing_or_page : _ ∨ (sink = .accepts ∧ _)) with ⟨-, e, he⟩ |
      ⟨hsink, src, h, fs, hs, hh, hf, -, hw⟩
    · rw [hr] at he
      cases he
    · exact ⟨hsink, src, h, fs, hs, hh, hf, hw⟩
  noCommand hc := by rw [generate_of_command_eq_empty hc]
  noSource hc hs := by rw [generate_of_source_eq_none hc hs]
  helpFailure _ _ hc hs he := (generate_of_help_error hc hs he).2
  badFileEntry _ _ _ hc hs hh hf := (generate_of_parseFiles_error hc hs hh hf).2
  writeFailure _ _ _ reason hc hs hh hf hsink := by
    subst hsink
    refine ⟨_, (generate_of_refuses hc hs hh hf).2, rfl, ?_⟩
    simp

end Generator

end Page

end HelpMan
