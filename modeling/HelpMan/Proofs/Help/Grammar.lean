import HelpMan.Help.Parse

/-!
# The section grammar of a help text

The reader of `Parse.lean` is a machine over lines: a cursor, and a record that a header
reopens and that later lines extend. This module says what it computes without the machine.

The text is cut at line feeds and each line trimmed (`lines`). A line is a header for `s`
when its lower case is the header of `s`. The body of a header is the run of lines after it
up to the next header of any kind (`body`); lines before the first header belong to no body.
Then (`parse_eq_grammar`):

* a section is present iff some line is a header for it;
* the text of a section other than `commands` is the body of its last header, with blank
  lines at both ends left out and the rest joined by line feeds (`bodyText`), or empty;
* the `commands` section has no text, and its entries are read from every one of its
  bodies in order, so a repeated `commands:` header loses nothing;
* a number outside the five sections has no text and is absent.

The proof runs the machine from an arbitrary state: `finish` says what the rest of the
lines make of a state, one lemma per kind of step shows that reading a line keeps it
(`finish_step`), and induction over the lines gives the whole run (`foldl_step`).
-/

namespace HelpMan.Help

open Text

/-! ## The grammar -/

/-- A line of the text, trimmed of blank characters. -/
def trimLine (raw : List Char) : String := String.ofList (trimBlank raw)

/-- The lines of a help text: the pieces between line feeds, each trimmed. -/
def lines (text : String) : List String := (splitOn '\n' text.toList).map trimLine

/-- Whether a line is a header of some section. -/
def isHeader (line : String) : Bool := Section.all.any fun s => lowerText line == s.header

/-- The body of a header: the lines after it, up to the next header. -/
def body (rest : List String) : List String := rest.takeWhile fun l => !isHeader l

/-- The bodies of the headers of `s`, in the order of the text. -/
def bodies (s : Section) : List String → List (List String)
  | [] => []
  | l :: rest => if lowerText l = s.header then body rest :: bodies s rest else bodies s rest

/-- The blank lines at both ends of a body left out; its lines are trimmed, so these are the
empty ones. -/
def trimEmpty (b : List String) : List String :=
  ((b.dropWhile String.isEmpty).reverse.dropWhile String.isEmpty).reverse

/-- A body as a text: without the blank lines at its ends, joined by line feeds. -/
def bodyText (b : List String) : String := "\n".intercalate (trimEmpty b)

/-- The command entries of the lines of a body. -/
def commandsOf (b : List String) : List Command := b.filterMap fun l => Command.ofLine? l.toList

/-! ## Headers -/

theorem ofHeader?_eq_some_iff {line : String} {s : Section} :
    Section.ofHeader? line = some s ↔ lowerText line = s.header := by
  simp only [Section.ofHeader?]
  constructor
  · intro h
    have hs := List.find?_some h
    simpa using hs
  · intro h
    rw [h]
    cases s <;> simp [Section.all, Section.header]

theorem isHeader_eq_false_iff {line : String} : isHeader line = false ↔ Section.ofHeader? line = none := by
  rw [Option.eq_none_iff_forall_ne_some]
  simp only [ne_eq, ofHeader?_eq_some_iff, isHeader, List.any_eq_false, beq_iff_eq]
  exact ⟨fun h s => h s (by cases s <;> simp [Section.all]), fun h s _ => h s⟩

theorem isHeader_of_ofHeader? {line : String} {s : Section} (h : Section.ofHeader? line = some s) :
    isHeader line = true := by
  cases hl : isHeader line
  · rw [isHeader_eq_false_iff.mp hl] at h
    cases h
  · rfl

theorem ofIndex?_eq_none {n : Int} (h : n < 0 ∨ 5 ≤ n) : Section.ofIndex? n = none := by
  unfold Section.ofIndex?
  simp [Section.all, Section.index]
  omega

/-! ## Bodies after one more line -/

theorem body_cons_header {l : String} (h : isHeader l = true) (rest : List String) : body (l :: rest) = [] := by
  simp [body, h]

theorem body_cons_plain {l : String} (h : isHeader l = false) (rest : List String) :
    body (l :: rest) = l :: body rest := by
  simp [body, h]

theorem bodies_cons_header {l : String} {s₀ : Section} (h : Section.ofHeader? l = some s₀) (s : Section)
    (rest : List String) :
    bodies s (l :: rest) = if s₀ = s then body rest :: bodies s rest else bodies s rest := by
  have hl := ofHeader?_eq_some_iff.mp h
  by_cases hs : s₀ = s
  · subst hs
    simp [bodies, hl]
  · have hne : lowerText l ≠ s.header := fun e => hs (Option.some.inj (h.symm.trans (ofHeader?_eq_some_iff.mpr e)))
    simp [bodies, hne, hs]

theorem bodies_cons_plain {l : String} (h : Section.ofHeader? l = none) (s : Section) (rest : List String) :
    bodies s (l :: rest) = bodies s rest := by
  have hne : lowerText l ≠ s.header := fun e => by rw [ofHeader?_eq_some_iff.mpr e] at h; cases h
  simp [bodies, hne]

/-- A section has a body iff one of the lines is its header. -/
theorem bodies_ne_nil_iff {s : Section} {ls : List String} : bodies s ls ≠ [] ↔ ∃ l ∈ ls, lowerText l = s.header := by
  induction ls with
  | nil => simp [bodies]
  | cons l ls ih =>
    by_cases hl : lowerText l = s.header
    · simp [bodies, hl]
    · simp [bodies, hl, ih]

/-! ## Reading the rest of the lines from a state -/

/-- In a well-formed state the section at the cursor is present. -/
def WellFormed (cur : Cursor) (r : Record) : Prop := ∀ s, cur = some s → r.has s = true

/-- What reading the lines `ls` makes of the record `r` with the cursor at `cur`: the lines
before the first header extend the section at the cursor, every section with a header among
`ls` is the body of its last one, and the command entries of every body are added. -/
def finish (cur : Cursor) (r : Record) (ls : List String) : Record where
  commands := r.commands ++ (if cur = some .commands then commandsOf (body ls) else []) ++
    (bodies .commands ls).flatMap commandsOf
  body s :=
    if s = .commands then (if bodies s ls = [] then r.body s else some [])
    else match (bodies s ls).getLast? with
      | some b => some b
      | none => if cur = some s then some ((r.body s).getD [] ++ body ls) else r.body s

/-- The entry a line under `commands:` adds, as a change of the record. -/
def addEntry (r : Record) (line : String) : Record := ((Command.ofLine? line.toList).map r.addCommand).getD r

@[simp] theorem body_addEntry (r : Record) (line : String) : (addEntry r line).body = r.body := by
  unfold addEntry
  cases Command.ofLine? line.toList <;> rfl

@[simp] theorem commands_addEntry (r : Record) (line : String) :
    (addEntry r line).commands = r.commands ++ (Command.ofLine? line.toList).toList := by
  unfold addEntry
  cases Command.ofLine? line.toList <;> simp

theorem record_eq {r r' : Record} (hc : r.commands = r'.commands) (hb : ∀ s, r.body s = r'.body s) : r = r' := by
  obtain ⟨c, b⟩ := r
  obtain ⟨c', b'⟩ := r'
  simp only at hc hb
  subst hc
  rw [funext hb]

theorem finish_nil {cur : Cursor} {r : Record} (hw : WellFormed cur r) : finish cur r [] = r := by
  refine record_eq (by simp [finish, body, bodies, commandsOf]) fun s => ?_
  by_cases hs : s = .commands
  · simp [finish, bodies, hs]
  · simp only [finish, hs, if_false, bodies, List.getLast?_nil, body, List.takeWhile_nil, List.append_nil]
    split
    · rename_i hc
      obtain ⟨b, hb⟩ := Option.isSome_iff_exists.mp (hw s hc)
      simp [hb]
    · rfl

/-- A header reopens its section; the lines before the next header become its body. -/
theorem finish_reopen {cur : Cursor} {r : Record} {l : String} {s₀ : Section} (hw : WellFormed cur r)
    (h : Section.ofHeader? l = some s₀) (ls : List String) :
    finish (some s₀) (r.reopen s₀) ls = finish cur r (l :: ls) := by
  have hb := body_cons_header (isHeader_of_ofHeader? h) ls
  refine record_eq ?_ fun s => ?_
  · by_cases hs : s₀ = .commands <;> simp [finish, hb, bodies_cons_header h, commandsOf, hs]
  · by_cases hsc : s = .commands
    · subst hsc
      by_cases hs : s₀ = .commands
      · subst hs
        simp [finish, bodies_cons_header h, Record.reopen]
      · simp [finish, bodies_cons_header h, Record.reopen, hs, Ne.symm hs]
    · by_cases hs : s₀ = s
      · subst hs
        simp only [finish, hsc, if_false, bodies_cons_header h, if_true, List.getLast?_cons]
        cases (bodies s₀ ls).getLast? <;> simp [Record.reopen]
      · simp only [finish, hsc, if_false, bodies_cons_header h, hs, hb, List.append_nil]
        split
        · rfl
        · have hr : (r.reopen s₀).body s = r.body s := by simp [Record.reopen, Ne.symm hs]
          by_cases hc : cur = some s
          · obtain ⟨b, hb'⟩ := Option.isSome_iff_exists.mp (hw s hc)
            simp [hc, hr, hb', hs]
          · simp [hc, hr, hs]

/-- Before the first header a line is dropped. -/
theorem finish_preamble {r : Record} {l : String} (h : Section.ofHeader? l = none) (ls : List String) :
    finish none r ls = finish none r (l :: ls) := by
  refine record_eq ?_ fun s => ?_
  · simp [finish, bodies_cons_plain h]
  · simp [finish, bodies_cons_plain h]

/-- Under `commands:` a line adds its entry, if it gives one. -/
theorem finish_command {r : Record} {l : String} (h : Section.ofHeader? l = none) (ls : List String) :
    finish (some .commands) (addEntry r l) ls = finish (some .commands) r (l :: ls) := by
  have hb := body_cons_plain (isHeader_eq_false_iff.mpr h) ls
  refine record_eq ?_ fun s => ?_
  · cases hc : Command.ofLine? l.toList <;> simp [finish, hb, bodies_cons_plain h, commandsOf, hc]
  · by_cases hsc : s = .commands
    · simp [finish, bodies_cons_plain h, hsc]
    · simp [finish, bodies_cons_plain h, Ne.symm hsc]

/-- Under any other header a line joins the section. -/
theorem finish_addLine {r : Record} {l : String} {s₀ : Section} (h : Section.ofHeader? l = none)
    (hs₀ : s₀ ≠ .commands) (ls : List String) :
    finish (some s₀) (r.addLine s₀ l) ls = finish (some s₀) r (l :: ls) := by
  have hb := body_cons_plain (isHeader_eq_false_iff.mpr h) ls
  refine record_eq ?_ fun s => ?_
  · simp [finish, bodies_cons_plain h, hs₀]
  · by_cases hsc : s = .commands
    · subst hsc
      simp [finish, bodies_cons_plain h, Record.addLine, Ne.symm hs₀]
    · by_cases hs : s₀ = s
      · subst hs
        simp [finish, bodies_cons_plain h, hsc, hb, Record.addLine]
      · simp [finish, bodies_cons_plain h, hsc, hs, Record.addLine, Ne.symm hs]

/-! ## The run -/

section Step

variable {cur : Cursor} {r : Record} {raw : List Char}

theorem step_header {s : Section} (h : Section.ofHeader? (trimLine raw) = some s) :
    step (cur, r) raw = (some s, r.reopen s) := by
  simp only [trimLine] at h
  simp only [step, h]

theorem step_preamble (h : Section.ofHeader? (trimLine raw) = none) : step (none, r) raw = (none, r) := by
  simp only [trimLine] at h
  simp only [step, h]

theorem step_command (h : Section.ofHeader? (trimLine raw) = none) :
    step (some .commands, r) raw = (some .commands, addEntry r (trimLine raw)) := by
  simp only [trimLine] at h
  simp only [step, h, addEntry, trimLine, String.toList_ofList]
  cases Command.ofLine? (trimBlank raw) <;> rfl

theorem step_addLine {s : Section} (h : Section.ofHeader? (trimLine raw) = none) (hs : s ≠ .commands) :
    step (some s, r) raw = (some s, r.addLine s (trimLine raw)) := by
  simp only [trimLine] at h ⊢
  cases s <;> first | exact absurd rfl hs | simp only [step, h]

end Step

/-- What reading one line can do: a header reopens its section; any other line is dropped
before the first header, adds its entry under `commands:`, and joins any other section. -/
theorem step_cases (cur : Cursor) (r : Record) (raw : List Char) :
    (∃ s, Section.ofHeader? (trimLine raw) = some s ∧ step (cur, r) raw = (some s, r.reopen s)) ∨
    (Section.ofHeader? (trimLine raw) = none ∧ cur = none ∧ step (cur, r) raw = (none, r)) ∨
    (Section.ofHeader? (trimLine raw) = none ∧ cur = some .commands ∧
      step (cur, r) raw = (some .commands, addEntry r (trimLine raw))) ∨
    (Section.ofHeader? (trimLine raw) = none ∧ ∃ s, cur = some s ∧ s ≠ .commands ∧
      step (cur, r) raw = (some s, r.addLine s (trimLine raw))) := by
  cases hh : Section.ofHeader? (trimLine raw) with
  | some s => exact .inl ⟨s, rfl, step_header hh⟩
  | none =>
    match cur with
    | none => exact .inr (.inl ⟨rfl, rfl, step_preamble hh⟩)
    | some .commands => exact .inr (.inr (.inl ⟨rfl, rfl, step_command hh⟩))
    | some .summary => exact .inr (.inr (.inr ⟨rfl, _, rfl, by decide, step_addLine hh (by decide)⟩))
    | some .options => exact .inr (.inr (.inr ⟨rfl, _, rfl, by decide, step_addLine hh (by decide)⟩))
    | some .details => exact .inr (.inr (.inr ⟨rfl, _, rfl, by decide, step_addLine hh (by decide)⟩))
    | some .examples => exact .inr (.inr (.inr ⟨rfl, _, rfl, by decide, step_addLine hh (by decide)⟩))

/-- Reading a line keeps what the rest of the lines make of the state. -/
theorem finish_step {st : Cursor × Record} (hw : WellFormed st.1 st.2) (raw : List Char) (ls : List String) :
    finish (step st raw).1 (step st raw).2 ls = finish st.1 st.2 (trimLine raw :: ls) := by
  obtain ⟨cur, r⟩ := st
  rcases step_cases cur r raw with ⟨s, hh, he⟩ | ⟨hh, rfl, he⟩ | ⟨hh, rfl, he⟩ | ⟨hh, s, rfl, hs, he⟩
  · rw [he]; exact finish_reopen hw hh ls
  · rw [he]; exact finish_preamble hh ls
  · rw [he]; exact finish_command hh ls
  · rw [he]; exact finish_addLine hh hs ls

/-- Reading a line keeps the state well formed. -/
theorem wellFormed_step {st : Cursor × Record} (hw : WellFormed st.1 st.2) (raw : List Char) :
    WellFormed (step st raw).1 (step st raw).2 := by
  obtain ⟨cur, r⟩ := st
  rcases step_cases cur r raw with ⟨s, -, he⟩ | ⟨-, rfl, he⟩ | ⟨-, rfl, he⟩ | ⟨-, s, rfl, -, he⟩ <;>
    rw [he] <;> intro t ht
  · cases ht
    simp
  · cases ht
  · cases ht
    simpa [Record.has] using hw _ rfl
  · cases ht
    simp [Record.has, Record.addLine]

/-- A run from a well-formed state makes of it what `finish` says. -/
theorem foldl_step (raws : List (List Char)) {st : Cursor × Record} (hw : WellFormed st.1 st.2) :
    (raws.foldl step st).2 = finish st.1 st.2 (raws.map trimLine) := by
  induction raws generalizing st with
  | nil => exact (finish_nil hw).symm
  | cons raw raws ih =>
    rw [List.foldl_cons, ih (wellFormed_step hw raw), List.map_cons]
    exact finish_step hw raw _

/-- The record that a help text gives. -/
theorem parse_eq_finish (text : String) : parse text = finish none Record.empty (lines text) :=
  foldl_step _ (fun _ h => by cases h)

/-! ## Line feeds at the ends of a joined body -/

section Join

variable {c : Char}

/-- Dropping separators at the front of a joined text drops the empty pieces at the front. -/
theorem dropSet_intercalate {B : List (List Char)} (hB : ∀ x ∈ B, c ∉ x) :
    dropSet [c] ([c].intercalate B) = [c].intercalate (B.dropWhile List.isEmpty) := by
  induction B with
  | nil => rfl
  | cons x B ih =>
    cases x with
    | nil =>
      have ih := ih fun y hy => hB y (List.mem_cons_of_mem _ hy)
      cases B with
      | nil => rfl
      | cons y B => simpa [dropSet, List.dropWhile_cons] using ih
    | cons d x =>
      have hd : d ≠ c := fun e => hB _ List.mem_cons_self (e ▸ List.mem_cons_self)
      cases B with
      | nil => simp [dropSet, hd]
      | cons y B => simp [dropSet, hd]

theorem intercalate_concat {B : List (List Char)} (hB : B ≠ []) (x : List Char) :
    [c].intercalate (B ++ [x]) = [c].intercalate B ++ c :: x := by
  induction B with
  | nil => exact absurd rfl hB
  | cons y B ih =>
    cases B with
    | nil => simp
    | cons z B =>
      calc [c].intercalate (y :: z :: B ++ [x])
          = y ++ [c] ++ [c].intercalate (z :: B ++ [x]) := List.intercalate_cons_cons
        _ = [c].intercalate (y :: z :: B) ++ c :: x := by rw [ih (List.cons_ne_nil z B)]; simp

theorem reverse_intercalate (B : List (List Char)) :
    ([c].intercalate B).reverse = [c].intercalate (B.reverse.map List.reverse) := by
  induction B with
  | nil => rfl
  | cons x B ih =>
    cases B with
    | nil => simp
    | cons y B =>
      have hne : (y :: B).reverse.map List.reverse ≠ [] := by simp
      calc ([c].intercalate (x :: y :: B)).reverse
          = ([c].intercalate (y :: B)).reverse ++ c :: x.reverse := by simp
        _ = [c].intercalate ((y :: B).reverse.map List.reverse) ++ c :: x.reverse := by rw [ih]
        _ = [c].intercalate ((y :: B).reverse.map List.reverse ++ [x.reverse]) := (intercalate_concat hne _).symm
        _ = [c].intercalate ((x :: y :: B).reverse.map List.reverse) := by
          rw [List.reverse_cons (a := x), List.map_append, List.map_singleton]

/-- Trimming separators from both ends of a joined text trims the empty pieces at both ends. -/
theorem trimSet_intercalate {B : List (List Char)} (hB : ∀ x ∈ B, c ∉ x) :
    trimSet [c] ([c].intercalate B) =
      [c].intercalate ((B.dropWhile List.isEmpty).reverse.dropWhile List.isEmpty).reverse := by
  have h₁ : ∀ x ∈ (B.dropWhile List.isEmpty).reverse.map List.reverse, c ∉ x := by
    simp only [List.mem_map, List.mem_reverse]
    rintro _ ⟨x, hx, rfl⟩
    simpa using hB x ((List.dropWhile_sublist _).subset hx)
  have h₂ : ((B.dropWhile List.isEmpty).reverse.map List.reverse).dropWhile List.isEmpty =
      ((B.dropWhile List.isEmpty).reverse.dropWhile List.isEmpty).map List.reverse := by
    have hr : (List.isEmpty ∘ List.reverse : List Char → Bool) = List.isEmpty := by
      funext x
      simp
    rw [List.dropWhile_map, hr]
  rw [trimSet, dropSet_intercalate hB, reverse_intercalate, dropSet_intercalate h₁, h₂, reverse_intercalate]
  simp only [List.map_reverse, List.map_map, Function.comp_def, List.reverse_reverse, List.map_id_fun', id_eq]

/-- The text of a section whose lines hold no line feed is its body as a text. -/
theorem text_eq_bodyText {r : Record} {s : Section} {b : List String} (hs : r.body s = some b)
    (hb : ∀ l ∈ b, '\n' ∉ l.toList) : r.text s = bodyText b := by
  have he : (List.isEmpty ∘ String.toList : String → Bool) = String.isEmpty := by
    funext l
    rw [Function.comp_apply, Bool.eq_iff_iff, List.isEmpty_iff, String.isEmpty_iff, String.toList_eq_nil_iff]
  have hB : ∀ x ∈ b.map String.toList, '\n' ∉ x := by
    simp only [List.mem_map]
    rintro _ ⟨l, hl, rfl⟩
    exact hb l hl
  rw [Record.text, hs, Option.getD_some, String.toList_intercalate, show "\n".toList = ['\n'] from rfl,
    trimSet_intercalate hB, List.dropWhile_map, he, ← List.map_reverse, List.dropWhile_map, he,
    ← List.map_reverse, bodyText, trimEmpty, ← String.ofList_toList (s := "\n".intercalate _),
    String.toList_intercalate]
  rfl

end Join

/-! ## The parse -/

theorem mem_of_mem_trimBlank {c : Char} {cs : List Char} (h : c ∈ trimBlank cs) : c ∈ cs := by
  simp only [trimBlank, dropBlank, List.mem_reverse] at h
  exact (List.dropWhile_sublist _).subset (List.mem_reverse.mp ((List.dropWhile_sublist _).subset h))

theorem not_mem_lines {text l : String} (h : l ∈ lines text) : '\n' ∉ l.toList := by
  obtain ⟨raw, hraw, rfl⟩ := List.mem_map.mp h
  intro hc
  rw [trimLine, String.toList_ofList] at hc
  exact not_mem_of_mem_splitOn hraw (mem_of_mem_trimBlank hc)

theorem mem_of_mem_bodies {s : Section} {ls b : List String} {l : String} (hb : b ∈ bodies s ls) (hl : l ∈ b) :
    l ∈ ls := by
  induction ls with
  | nil => cases hb
  | cons x ls ih =>
    unfold bodies at hb
    split at hb
    · rcases List.mem_cons.mp hb with rfl | hb
      · exact List.mem_cons_of_mem _ ((List.takeWhile_sublist _).subset hl)
      · exact List.mem_cons_of_mem _ (ih hb)
    · exact List.mem_cons_of_mem _ (ih hb)

theorem body_finish_empty {s : Section} (hs : s ≠ .commands) (ls : List String) :
    (finish none Record.empty ls).body s = (bodies s ls).getLast? := by
  simp only [finish, hs, if_false]
  split <;> simp_all [Record.empty]

theorem has_finish_empty (s : Section) (ls : List String) :
    (finish none Record.empty ls).has s = true ↔ bodies s ls ≠ [] := by
  by_cases hs : s = .commands
  · subst hs
    by_cases hb : bodies .commands ls = [] <;> simp [finish, Record.has, Record.empty, hb]
  · simp [Record.has, body_finish_empty hs]

/-- **Reading a help text follows the section grammar.** -/
theorem parse_eq_grammar (t : String) :
    (∀ s, (parse t).has s = true ↔ ∃ l ∈ lines t, lowerText l = s.header) ∧
    (∀ s, s ≠ .commands → (parse t).text s = ((bodies s (lines t)).getLast?.map bodyText).getD "") ∧
    (parse t).text .commands = "" ∧
    (parse t).commands = (bodies .commands (lines t)).flatMap commandsOf ∧
    ∀ n : Int, n < 0 ∨ 5 ≤ n → (parse t).textAt n = ("", false) := by
  rw [parse_eq_finish]
  refine ⟨fun s => (has_finish_empty s _).trans bodies_ne_nil_iff, fun s hs => ?_, ?_, ?_, fun n hn => ?_⟩
  · cases hl : (bodies s (lines t)).getLast? with
    | none => simp [Record.text, body_finish_empty hs, hl, trimSet, dropSet]
    | some b =>
      have hb : b ∈ bodies s (lines t) := List.mem_of_getLast? hl
      exact text_eq_bodyText (by rw [body_finish_empty hs, hl])
        fun l hl' => not_mem_lines (mem_of_mem_bodies hb hl')
  · by_cases hb : bodies .commands (lines t) = [] <;>
      simp [Record.text, finish, Record.empty, hb, trimSet, dropSet]
  · simp [finish, Record.empty]
  · simp [Record.textAt, ofIndex?_eq_none hn]

end HelpMan.Help
