import HelpMan.Proofs.Help.Grammar

/-!
# Reading an options section

`parseOptions` reads the lines of an options section one at a time, holding the entries it has
finished and the one still open (`optionStep`). Read as text it loses and repeats nothing: take the
lines of the section trimmed, leave out the blank ones and those before the first line that starts
with a hyphen; then the entries, each written as its flags line followed by its description lines,
give back exactly these lines in order. Every entry's flags start with a hyphen and no description
line is empty or starts with one, so there is one entry per line that starts with a hyphen, the
last one included (`parseOptions_partition`).

The proof keeps one invariant of the reading state over the lines read so far (`Reads`): what one
step can do is said once (`optionStep_cases`), one lemma shows that each kind of step keeps the
invariant (`reads_optionStep`), and induction over the lines gives the whole run
(`reads_foldl_optionStep`).
-/

namespace HelpMan.Help

open Text

/-! ## Entries written out as lines -/

/-- Whether a line opens an option entry: it starts with a hyphen. -/
def opensEntry (line : String) : Bool := line.toList.head? == some '-'

/-- The lines an option entry is read from: its flags, then its description. -/
def OptionEntry.lines (o : OptionEntry) : List String := o.flags :: o.description

/-- An entry as reading makes it: its flags open an entry, and its description lines are not
empty and do not. -/
def OptionEntry.WellFormed (o : OptionEntry) : Prop :=
  opensEntry o.flags = true ∧ ∀ d ∈ o.description, d ≠ "" ∧ opensEntry d = false

/-- The entries of a reading state: the finished ones, then the open one. -/
def entries (st : List OptionEntry × Option OptionEntry) : List OptionEntry := st.1 ++ st.2.toList

/-- Written out, well-formed entries have one line that opens an entry each. -/
theorem countP_opensEntry_flatMap {es : List OptionEntry} (h : ∀ o ∈ es, o.WellFormed) :
    (es.flatMap OptionEntry.lines).countP opensEntry = es.length := by
  induction es with
  | nil => rfl
  | cons o es ih =>
    obtain ⟨hflags, hdesc⟩ := h o List.mem_cons_self
    have hd : o.description.countP opensEntry = 0 :=
      List.countP_eq_zero.mpr fun d hd' => by simp [(hdesc d hd').2]
    rw [List.flatMap_cons, List.countP_append, OptionEntry.lines, List.countP_cons, hflags, hd,
      ih fun o' ho' => h o' (List.mem_cons_of_mem _ ho')]
    simp only [if_true, List.length_cons]
    omega

/-! ## One line -/

/-- What reading one line can do: a blank line changes nothing; a line that starts with a hyphen
finishes the open entry and opens its own; any other line is dropped when no entry is open, and
otherwise joins the open entry's description. -/
theorem optionStep_cases (done : List OptionEntry) (cur : Option OptionEntry) (raw : List Char) :
    (trimLine raw = "" ∧ optionStep (done, cur) raw = (done, cur)) ∨
    (opensEntry (trimLine raw) = true ∧
      optionStep (done, cur) raw = (done ++ cur.toList, some ⟨trimLine raw, []⟩)) ∨
    (trimLine raw ≠ "" ∧ opensEntry (trimLine raw) = false ∧ cur = none ∧
      optionStep (done, cur) raw = (done, none)) ∨
    (trimLine raw ≠ "" ∧ opensEntry (trimLine raw) = false ∧ ∃ o, cur = some o ∧
      optionStep (done, cur) raw = (done, some { o with description := o.description ++ [trimLine raw] })) := by
  have hline : (trimLine raw).toList = trimBlank raw := String.toList_ofList
  unfold optionStep
  dsimp only
  split
  · rename_i hnil
    exact .inl ⟨String.toList_eq_nil_iff.mp (hline.trans hnil), rfl⟩
  · rename_i rest hdash
    refine .inr (.inl ⟨by simp [opensEntry, hline, hdash], ?_⟩)
    rw [trimLine, hdash]
  · rename_i hnil hdash
    have hne : trimLine raw ≠ "" := fun h => hnil (by rw [← hline, h]; rfl)
    have hopen : opensEntry (trimLine raw) = false := by
      cases ht : trimBlank raw with
      | nil => exact absurd ht hnil
      | cons c cs =>
        have hc : c ≠ '-' := by rintro rfl; exact hdash cs ht
        simp [opensEntry, hline, ht, hc]
    cases cur with
    | none => exact .inr (.inr (.inl ⟨hne, hopen, rfl, rfl⟩))
    | some o => exact .inr (.inr (.inr ⟨hne, hopen, o, rfl, rfl⟩))

/-! ## The invariant -/

/-- What the state holds after reading the non-blank trimmed lines `L`: its entries written out are
the lines of `L` from the first that opens an entry; an entry is open iff there is such a line;
and every entry is well formed. -/
structure Reads (st : List OptionEntry × Option OptionEntry) (L : List String) : Prop where
  lines_eq : (entries st).flatMap OptionEntry.lines = L.dropWhile fun l => !opensEntry l
  open_iff : st.2.isNone = (L.dropWhile fun l => !opensEntry l).isEmpty
  wellFormed : ∀ o ∈ entries st, o.WellFormed

theorem reads_nil : Reads ([], none) [] := ⟨rfl, rfl, fun _ h => by cases h⟩

section Step

variable {L : List String} {x : String}

theorem dropWhile_append_opens (hx : opensEntry x = true) :
    (L ++ [x]).dropWhile (fun l => !opensEntry l) = L.dropWhile (fun l => !opensEntry l) ++ [x] := by
  rw [List.dropWhile_append]
  split <;> simp_all

theorem dropWhile_append_plain_of_isEmpty (hx : opensEntry x = false)
    (h : (L.dropWhile fun l => !opensEntry l).isEmpty = true) :
    (L ++ [x]).dropWhile (fun l => !opensEntry l) = [] := by
  rw [List.dropWhile_append, if_pos h]
  simp [hx]

theorem dropWhile_append_plain_of_not_isEmpty
    (h : (L.dropWhile fun l => !opensEntry l).isEmpty = false) :
    (L ++ [x]).dropWhile (fun l => !opensEntry l) = L.dropWhile (fun l => !opensEntry l) ++ [x] := by
  rw [List.dropWhile_append, if_neg (by simp [h])]

end Step

/-- Reading a line keeps the invariant, with the line added to those read when it is not blank. -/
theorem reads_optionStep {st : List OptionEntry × Option OptionEntry} {L : List String} (h : Reads st L)
    (raw : List Char) : Reads (optionStep st raw) (L ++ [trimLine raw].filter (· ≠ "")) := by
  obtain ⟨done, cur⟩ := st
  obtain ⟨hlines, hopen, hwf⟩ := h
  rcases optionStep_cases done cur raw with ⟨hx, he⟩ | ⟨hx, he⟩ | ⟨hne, hx, rfl, he⟩ | ⟨hne, hx, o, rfl, he⟩
  · -- a blank line
    rw [he, List.filter_cons_of_neg (by simpa using hx), List.filter_nil, List.append_nil]
    exact ⟨hlines, hopen, hwf⟩
  · -- a line that opens an entry: the entries gain one, written as that line
    have hne : trimLine raw ≠ "" := by rintro h; simp [h, opensEntry] at hx
    rw [he, List.filter_cons_of_pos (by simpa using hne), List.filter_nil]
    refine ⟨?_, ?_, ?_⟩
    · simp only [entries, Option.toList_some, List.flatMap_append] at hlines ⊢
      rw [dropWhile_append_opens hx, ← hlines]
      simp [OptionEntry.lines]
    · simp [dropWhile_append_opens hx]
    · simp only [entries, Option.toList_some, List.mem_append, List.mem_singleton] at hwf ⊢
      rintro o (ho | rfl)
      · exact hwf o ho
      · exact ⟨hx, fun d hd => by cases hd⟩
  · -- a line before the first entry is dropped
    have hempty : (L.dropWhile fun l => !opensEntry l).isEmpty = true := by simpa using hopen.symm
    rw [he, List.filter_cons_of_pos (by simpa using hne), List.filter_nil]
    refine ⟨?_, ?_, hwf⟩
    · rw [dropWhile_append_plain_of_isEmpty hx hempty, hlines, List.isEmpty_iff.mp hempty]
    · simp [dropWhile_append_plain_of_isEmpty hx hempty]
  · -- a description line joins the open entry
    have hfull : (L.dropWhile fun l => !opensEntry l).isEmpty = false := by simpa using hopen.symm
    rw [he, List.filter_cons_of_pos (by simpa using hne), List.filter_nil]
    refine ⟨?_, ?_, ?_⟩
    · simp only [entries, Option.toList_some, List.flatMap_append] at hlines ⊢
      rw [dropWhile_append_plain_of_not_isEmpty hfull, ← hlines]
      simp [OptionEntry.lines]
    · simp [dropWhile_append_plain_of_not_isEmpty hfull]
    · simp only [entries, Option.toList_some, List.mem_append, List.mem_singleton] at hwf ⊢
      have ho := (hwf o (.inr rfl))
      rintro o' (ho' | rfl)
      · exact hwf o' (.inl ho')
      · refine ⟨ho.1, fun d hd => ?_⟩
        rcases List.mem_append.mp hd with hd | hd
        · exact ho.2 d hd
        · rw [List.mem_singleton.mp hd]
          exact ⟨hne, hx⟩

/-- Reading lines keeps the invariant, with the non-blank ones added to those read. -/
theorem reads_foldl_optionStep (raws : List (List Char)) {st : List OptionEntry × Option OptionEntry}
    {L : List String} (h : Reads st L) :
    Reads (raws.foldl optionStep st) (L ++ (raws.map trimLine).filter (· ≠ "")) := by
  induction raws generalizing st L with
  | nil => simpa using h
  | cons raw raws ih =>
    have hlines : L ++ [trimLine raw].filter (· ≠ "") ++ (raws.map trimLine).filter (· ≠ "") =
        L ++ ((raw :: raws).map trimLine).filter (· ≠ "") := by
      rw [List.map_cons, show trimLine raw :: raws.map trimLine = [trimLine raw] ++ raws.map trimLine from rfl,
        List.filter_append, List.append_assoc]
    rw [List.foldl_cons, ← hlines]
    exact ih (reads_optionStep h raw)

/-- The entries of an options section are those of the state its lines leave. -/
theorem parseOptions_eq_entries (text : String) :
    parseOptions text = entries ((splitOn '\n' text.toList).foldl optionStep ([], none)) := rfl

/-- **Reading an options section partitions its lines.** Written out as their flags line followed
by their description lines, the entries of an options section are exactly its non-blank trimmed
lines from the first that starts with a hyphen; every entry's flags start with a hyphen, no
description line is empty or starts with one, and there is one entry per line that starts with a
hyphen. -/
theorem parseOptions_partition (text : String) :
    (parseOptions text).flatMap OptionEntry.lines =
      ((lines text).filter (· ≠ "")).dropWhile (fun l => !opensEntry l) ∧
    (∀ o ∈ parseOptions text, opensEntry o.flags = true) ∧
    (∀ o ∈ parseOptions text, ∀ d ∈ o.description, d ≠ "" ∧ opensEntry d = false) ∧
    (parseOptions text).length =
      (((lines text).filter (· ≠ "")).dropWhile (fun l => !opensEntry l)).countP opensEntry := by
  have hrun := reads_foldl_optionStep (splitOn '\n' text.toList) reads_nil
  rw [List.nil_append, ← lines] at hrun
  obtain ⟨hlines, -, hwf⟩ := hrun
  rw [parseOptions_eq_entries]
  refine ⟨hlines, fun o ho => (hwf o ho).1, fun o ho => (hwf o ho).2, ?_⟩
  rw [← hlines, countP_opensEntry_flatMap hwf]

example : parseOptions "global flags follow\n-h\n\n  help\n--quiet" = [⟨"-h", ["help"]⟩, ⟨"--quiet", []⟩] := by
  decide +kernel

end HelpMan.Help
