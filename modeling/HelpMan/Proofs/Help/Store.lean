import Mathlib.Data.List.Induction
import HelpMan.Help.Store
import HelpMan.Proofs.Help.Grammar

/-!
# The counters and texts of the reader's store

For each section the store keeps a counter and a text, and it writes a line feed before a
line only when the counter is not zero. The two stay in step. A section holds a list of
lines (`Store.Holds`) when its counter is their number and its text is them joined by line
feeds. The empty store holds no lines anywhere; reopening a section makes it hold none and
leaves every other section as it was; and a line added to a section that holds `ls` makes
it hold `ls ++ [line]` (`Store.Holds.appendLine`). So the first line of a section gets no
line feed before it, even when it is empty, every later line gets one, and empty lines
inside a section are kept.

Hence, after any sequence of calls (`Store.run`), every section holds exactly the lines
added to it since the last call that reopened it, or since the start (`since`), and it is
present iff some call reopened it (`run_holds`). The store that reading a help text builds
is the record of `parse` written out this way (`parse_eq_ofRecord`), so it answers for every
section as that record does (`textOf_parse`), and each section holds the lines of the body
of its last header (`store_lines_since_reopen`).
-/

namespace HelpMan.Help

open Text

/-! ## Lines joined one at a time -/

/-- A line joined to a list goes after a separator, unless the list is empty. -/
theorem intercalate_append_singleton (sep : String) (ls : List String) (line : String) :
    sep.intercalate (ls ++ [line]) = (if ls = [] then "" else sep.intercalate ls ++ sep) ++ line := by
  induction ls with
  | nil => simp
  | cons a ls ih =>
    cases ls with
    | nil => simp [String.intercalate_cons_cons]
    | cons b ls =>
      have hc : sep.intercalate (a :: b :: ls ++ [line]) = a ++ sep ++ sep.intercalate (b :: ls ++ [line]) :=
        String.intercalate_cons_cons
      rw [hc, ih]
      simp [String.intercalate_cons_cons, String.append_assoc]

/-! ## The lines a section holds -/

/-- The section `s` of the store holds the lines `ls`: its counter is their number, and its
text is them joined by line feeds. -/
structure Store.Holds (h : Store) (s : Section) (ls : List String) : Prop where
  lines_eq : h.lines s = ls.length
  text_eq : h.text s = "\n".intercalate ls

namespace Store

variable {h : Store} {s t : Section} {ls : List String}

theorem holds_empty (s : Section) : empty.Holds s [] := ⟨rfl, rfl⟩

theorem holds_reopen (h : Store) (s : Section) : (h.reopen s).Holds s [] := ⟨by simp, by simp⟩

/-- A line added to a section that holds `ls` makes it hold `ls ++ [line]`: the counter is
zero exactly when `ls` is empty, so the line feed goes where joining puts one. -/
theorem Holds.appendLine (hs : h.Holds s ls) (line : String) :
    (h.appendLine s line).Holds s (ls ++ [line]) := by
  constructor
  · simp [hs.lines_eq]
  · rw [text_appendLine, if_pos rfl, intercalate_append_singleton, hs.text_eq, hs.lines_eq]
    cases ls <;> simp

theorem Holds.appendLine_of_ne (ht : h.Holds t ls) (hts : t ≠ s) (line : String) :
    (h.appendLine s line).Holds t ls :=
  ⟨by simp [hts, ht.lines_eq], by simp [hts, ht.text_eq]⟩

theorem Holds.reopen_of_ne (ht : h.Holds t ls) (hts : t ≠ s) : (h.reopen s).Holds t ls :=
  ⟨by simp [hts, ht.lines_eq], by simp [hts, ht.text_eq]⟩

end Store

/-! ## Any sequence of calls -/

/-- A call the reader makes on the sections of its store. -/
inductive Call where
  /-- A header starts the section afresh. -/
  | reopen (s : Section)
  /-- A line joins the section. -/
  | addLine (s : Section) (line : String)
  deriving DecidableEq

/-- The line that a call adds to the section `s`, if it adds one. -/
def Call.lineFor (s : Section) : Call → Option String
  | .reopen _ => none
  | .addLine t line => if t = s then some line else none

/-- The lines added to the section `s` since the last call that reopened it, or since the
start if none did. -/
def since (s : Section) (calls : List Call) : List String :=
  ((calls.reverse.takeWhile (· != .reopen s)).reverse).filterMap (Call.lineFor s)

/-- Makes a call on the store. -/
def Store.call (h : Store) : Call → Store
  | .reopen s => h.reopen s
  | .addLine s line => h.appendLine s line

/-- The store after a sequence of calls made on the empty store. -/
def Store.run (calls : List Call) : Store := calls.foldl Store.call Store.empty

/-- A call that reopens `s` leaves it no lines; any other call adds to them the line it adds
to `s`, if any. -/
theorem since_concat (s : Section) (calls : List Call) (c : Call) :
    since s (calls ++ [c]) = if c = .reopen s then [] else since s calls ++ (c.lineFor s).toList := by
  by_cases hc : c = .reopen s
  · simp [since, hc]
  · simp only [since, List.reverse_append, List.reverse_cons, List.reverse_nil, List.nil_append, List.cons_append,
      bne_iff_ne, ne_eq, hc, not_false_eq_true, List.takeWhile_cons_of_pos, List.filterMap_append,
      List.filterMap_reverse, List.append_cancel_left_eq, if_false]
    cases hl : c.lineFor s <;> simp [hl]

namespace Store

variable {h : Store} {s : Section} {ls : List String}

/-- One call keeps each section holding the lines added since it was last reopened. -/
theorem Holds.call (hs : h.Holds s ls) (c : Call) :
    (h.call c).Holds s (if c = .reopen s then [] else ls ++ (c.lineFor s).toList) := by
  cases c with
  | reopen t =>
    by_cases ht : t = s
    · subst ht
      simpa [Store.call] using holds_reopen h t
    · simpa [Store.call, ht, Call.lineFor] using hs.reopen_of_ne (Ne.symm ht)
  | addLine t line =>
    by_cases ht : t = s
    · subst ht
      simpa [Store.call, Call.lineFor] using hs.appendLine line
    · simpa [Store.call, Call.lineFor, ht] using hs.appendLine_of_ne (Ne.symm ht) line

theorem present_call (h : Store) (c : Call) (s : Section) :
    (h.call c).present s = (decide (c = .reopen s) || h.present s) := by
  cases c with
  | reopen t => simp [Store.call, eq_comm]
  | addLine t line => simp [Store.call]

theorem run_concat (calls : List Call) (c : Call) : run (calls ++ [c]) = (run calls).call c := by
  simp [run, List.foldl_append]

/-- **After any sequence of calls** each section holds the lines added to it since the last
call that reopened it, or since the start, and it is present iff some call reopened it. -/
theorem run_holds (calls : List Call) (s : Section) :
    (run calls).Holds s (since s calls) ∧ ((run calls).present s = true ↔ Call.reopen s ∈ calls) := by
  induction calls using List.reverseRecOn with
  | nil => exact ⟨holds_empty s, by simp [run, empty]⟩
  | append_singleton calls c ih =>
    rw [run_concat, since_concat]
    refine ⟨ih.1.call c, ?_⟩
    rw [present_call, Bool.or_eq_true, decide_eq_true_iff, ih.2, List.mem_append, List.mem_singleton,
      eq_comm (a := Call.reopen s)]
    exact Or.comm

end Store

/-! ## The store that reading builds -/

namespace Store

/-- The store that keeps a record: a section is present iff the record has it, and holds
the record's lines. -/
def ofRecord (r : Record) : Store where
  commands := r.commands
  present := r.has
  lines s := ((r.body s).getD []).length
  text s := "\n".intercalate ((r.body s).getD [])

theorem holds_ofRecord (r : Record) (s : Section) : (ofRecord r).Holds s ((r.body s).getD []) :=
  ⟨rfl, rfl⟩

/-- A store is the one that keeps a record when it has the record's entries, and each section
is present as in the record and holds the record's lines. -/
theorem eq_ofRecord {h : Store} {r : Record} (hc : h.commands = r.commands)
    (hp : ∀ s, h.present s = r.has s) (hl : ∀ s, h.Holds s ((r.body s).getD [])) : h = ofRecord r :=
  Store.ext hc (funext hp) (funext fun s => (hl s).lines_eq) (funext fun s => (hl s).text_eq)

theorem ofRecord_empty : ofRecord Record.empty = empty :=
  (eq_ofRecord rfl (fun _ => rfl) fun s => holds_empty s).symm

theorem ofRecord_reopen (r : Record) (s : Section) : (ofRecord r).reopen s = ofRecord (r.reopen s) := by
  refine eq_ofRecord rfl (fun t => by simp [ofRecord]) fun t => ?_
  by_cases ht : t = s
  · subst ht
    simpa [Record.reopen] using holds_reopen (ofRecord r) t
  · simpa [Record.reopen, ht] using (holds_ofRecord r t).reopen_of_ne ht

/-- Adding a line keeps the record written out, in a section that is present. -/
theorem ofRecord_appendLine {r : Record} {s : Section} (hs : r.has s = true) (line : String) :
    (ofRecord r).appendLine s line = ofRecord (r.addLine s line) := by
  refine eq_ofRecord rfl (fun t => ?_) fun t => ?_
  · by_cases ht : t = s
    · subst ht
      simpa [ofRecord, Record.has, Record.addLine] using hs
    · simp [ofRecord, Record.has, Record.addLine, ht]
  · by_cases ht : t = s
    · subst ht
      simpa [Record.addLine] using (holds_ofRecord r t).appendLine line
    · simpa [Record.addLine, ht] using (holds_ofRecord r t).appendLine_of_ne ht line

theorem ofRecord_addCommand (r : Record) (c : Command) : (ofRecord r).addCommand c = ofRecord (r.addCommand c) :=
  rfl

/-- Reading a line from a well-formed state keeps the record written out. -/
theorem step_ofRecord {cur : Cursor} {r : Record} (hw : WellFormed cur r) (raw : List Char) :
    step (cur, ofRecord r) raw = ((Help.step (cur, r) raw).1, ofRecord (Help.step (cur, r) raw).2) := by
  rcases step_cases cur r raw with ⟨s, hh, he⟩ | ⟨hh, rfl, he⟩ | ⟨hh, rfl, he⟩ | ⟨hh, s, rfl, hs, he⟩ <;>
    rw [he] <;> simp only [trimLine] at hh
  · simp only [step, hh, ofRecord_reopen]
  · simp only [step, hh]
  · simp only [step, hh]
    cases hc : Command.ofLine? (trimBlank raw) <;> simp [addEntry, trimLine, hc, ofRecord_addCommand]
  · -- the reader's match names `commands` apart, so the section is split to reach its last arm
    rw [← ofRecord_appendLine (hw s rfl)]
    cases s with
    | commands => exact absurd rfl hs
    | _ => simp only [step, hh, trimLine]

theorem foldl_step_ofRecord (raws : List (List Char)) {cur : Cursor} {r : Record} (hw : WellFormed cur r) :
    raws.foldl step (cur, ofRecord r) =
      ((raws.foldl Help.step (cur, r)).1, ofRecord (raws.foldl Help.step (cur, r)).2) := by
  induction raws generalizing cur r with
  | nil => rfl
  | cons raw raws ih =>
    have hw' := @wellFormed_step (cur, r) hw raw
    rw [List.foldl_cons, List.foldl_cons, step_ofRecord hw raw]
    generalize Help.step (cur, r) raw = st at hw' ⊢
    exact ih hw'

/-- **The store that reading a help text builds** is the record of `parse` written out. -/
theorem parse_eq_ofRecord (text : String) : parse text = ofRecord (Help.parse text) := by
  rw [parse, ← ofRecord_empty, foldl_step_ofRecord _ (fun _ h => by cases h)]
  rfl

/-- The store answers for every section as the record of `parse` does. -/
theorem textOf_parse (text : String) (s : Section) :
    (parse text).textOf s = ((Help.parse text).text s, (Help.parse text).has s) := by
  rw [parse_eq_ofRecord]
  rfl

end Store

/-- The lines a section of a parsed help text holds: none under `commands`, and the body of
its last header under any other. -/
theorem getD_body_parse (text : String) (s : Section) :
    ((parse text).body s).getD [] =
      if s = .commands then [] else ((bodies s (lines text)).getLast?).getD [] := by
  rw [parse_eq_finish]
  by_cases hs : s = .commands
  · subst hs
    by_cases hb : bodies .commands (lines text) = [] <;> simp [finish, Record.empty, hb]
  · simp [body_finish_empty hs, hs]

/-- **The reader's counters and texts stay in step.** After any sequence of calls, each
section's counter is the number of lines added to it since it was last reopened, or since
the start, and its text is those lines joined by line feeds; the section is present iff it
was reopened. Reopening a section makes it present with no lines and touches no other
section. Reading a help text leaves each section holding the lines added after its last
header, which are the body of that header (none under `commands`, which takes no lines), and
present iff it has a header. -/
theorem store_lines_since_reopen :
    (∀ (calls : List Call) (s : Section),
      (Store.run calls).Holds s (since s calls) ∧
        ((Store.run calls).present s = true ↔ Call.reopen s ∈ calls)) ∧
    (∀ (h : Store) (s : Section),
      (h.reopen s).present s = true ∧ (h.reopen s).Holds s [] ∧
        ∀ t, t ≠ s → (h.reopen s).present t = h.present t ∧ (h.reopen s).lines t = h.lines t ∧
          (h.reopen s).text t = h.text t) ∧
    (∀ (text : String) (s : Section),
      (Store.parse text).Holds s (if s = .commands then [] else ((bodies s (lines text)).getLast?).getD []) ∧
        ((Store.parse text).present s = true ↔ ∃ l ∈ lines text, lowerText l = s.header)) := by
  refine ⟨Store.run_holds, fun h s => ⟨by simp, Store.holds_reopen h s, fun t ht => by simp [ht]⟩,
    fun text s => ?_⟩
  rw [Store.parse_eq_ofRecord, ← getD_body_parse]
  refine ⟨Store.holds_ofRecord _ s, ?_⟩
  rw [parse_eq_finish]
  exact (has_finish_empty s _).trans bodies_ne_nil_iff

/-- Reopening `summary` leaves the lines of `details` as they were. -/
theorem store_lines_since_reopen_details :
    Section.details ≠ .summary ∧
      ((Store.empty.appendLine .details "see below").reopen .summary).text .details = "see below" :=
  ⟨by decide, ((store_lines_since_reopen.2.1 _ .summary).2.2 .details (by decide)).2.2⟩

end HelpMan.Help
