import Mathlib.Data.List.DropRight
import Mathlib.Data.List.TakeDrop
import HelpMan.Text.Blank
import HelpMan.Text.Lines

/-!
# Cutting and trimming texts

The laws of the text operations that several readers share. Trimming a list at both ends by a
test is the library's `dropWhile` followed by `rdropWhile`; it ignores one more dropped element at
either end (`trim_concat`) and is idempotent (`trim_trim`), so the trims of blank characters, of a
set of characters and of empty lines are too.

Cutting a text into pieces at a separator (`splitOn`) is the library's `List.splitOn`
(`splitOn_eq_splitOn`); a character at either end of the text changes only the first or the last
piece, or adds an empty one (`splitOn_cons_of_ne`, `splitOn_concat_sep`, `splitOn_concat_of_ne`).
Cutting at the first separator (`cut`) fails exactly when there is none, and otherwise gives
the text before it and the text after it (`cut_eq_none_iff`, `cut_eq_some_iff`).
-/

namespace HelpMan.Text

/-! ## Trimming -/

section Trim

variable {α : Type} {p : α → Bool}

/-- Trimming both ends of a list ignores one more element at the back that the trim drops. -/
theorem trim_concat {x : α} (hx : p x = true) (l : List α) :
    ((l ++ [x]).dropWhile p).rdropWhile p = (l.dropWhile p).rdropWhile p := by
  rw [List.dropWhile_append]
  split
  · rename_i h
    rw [List.isEmpty_iff.mp h, List.dropWhile_cons_of_pos hx]
    rfl
  · exact List.rdropWhile_concat_pos p _ x hx

/-- Trimming both ends of a list twice trims it once. -/
theorem trim_trim (l : List α) :
    (((l.dropWhile p).rdropWhile p).dropWhile p).rdropWhile p = (l.dropWhile p).rdropWhile p := by
  -- what is left after trimming at the back starts where the list trimmed at the front starts,
  -- with an element the trim keeps
  have hfront : ((l.dropWhile p).rdropWhile p).dropWhile p = (l.dropWhile p).rdropWhile p := by
    obtain ⟨s, hs⟩ := List.rdropWhile_prefix p (l.dropWhile p)
    cases hr : (l.dropWhile p).rdropWhile p with
    | nil => rfl
    | cons a r =>
      have ha : p a = false := by
        have hnot := List.head?_dropWhile_not p l
        rw [← hs, hr, List.cons_append] at hnot
        exact hnot
      rw [List.dropWhile_cons_of_neg (by simp [ha])]
  rw [hfront, List.rdropWhile_idempotent]

/-- A list is what its trim leaves between the runs that the trim drops at either end; with a
map applied, the trim is taken of the images. -/
theorem exists_trim_split {β : Type} {p : β → Bool} (f : α → β) (xs : List α) :
    ∃ pre mid post, xs = pre ++ mid ++ post ∧ (∀ x ∈ pre, p (f x) = true) ∧
      (∀ x ∈ post, p (f x) = true) ∧ mid.map f = ((xs.map f).dropWhile p).rdropWhile p := by
  set d := xs.dropWhile (p ∘ f)
  refine ⟨xs.takeWhile (p ∘ f), (d.reverse.dropWhile (p ∘ f)).reverse,
    (d.reverse.takeWhile (p ∘ f)).reverse, ?_, fun x hx => ?_, fun x hx => ?_, ?_⟩
  · rw [List.append_assoc, ← List.reverse_append, List.takeWhile_append_dropWhile, List.reverse_reverse,
      List.takeWhile_append_dropWhile]
  · simpa using List.mem_takeWhile_imp hx
  · simpa using List.mem_takeWhile_imp (List.mem_reverse.mp hx)
  · rw [List.dropWhile_map, List.rdropWhile, List.map_reverse, ← List.dropWhile_map, List.map_reverse]

end Trim

theorem trimBlank_concat {c : Char} (hc : isBlank c = true) (cs : List Char) :
    trimBlank (cs ++ [c]) = trimBlank cs :=
  trim_concat hc cs

theorem trimBlank_cons {c : Char} (hc : isBlank c = true) (cs : List Char) :
    trimBlank (c :: cs) = trimBlank cs := by
  simp [trimBlank, dropBlank, hc]

theorem trimBlank_trimBlank (cs : List Char) : trimBlank (trimBlank cs) = trimBlank cs :=
  trim_trim cs

theorem trimSet_concat {set : List Char} {c : Char} (hc : c ∈ set) (cs : List Char) :
    trimSet set (cs ++ [c]) = trimSet set cs :=
  trim_concat (p := fun d => decide (d ∈ set)) (by simpa using hc) cs

/-! ## Pieces between separators -/

section Split

variable {sep c : Char}

/-- A character other than the separator at the front of a text joins the first piece. -/
theorem splitOn_cons_of_ne (h : c ≠ sep) (cs : List Char) :
    ∃ l ls, splitOn sep cs = l :: ls ∧ splitOn sep (c :: cs) = (c :: l) :: ls := by
  obtain ⟨l, ls, hs⟩ := List.exists_cons_of_ne_nil (splitOn_ne_nil sep cs)
  exact ⟨l, ls, hs, by simp [splitOn, h, hs]⟩

/-- Cutting into pieces is the library's `List.splitOn`. -/
theorem splitOn_eq_splitOn (sep : Char) (cs : List Char) : splitOn sep cs = cs.splitOn sep := by
  induction cs with
  | nil => rfl
  | cons c cs ih =>
    rw [List.splitOn_cons_eq_if_modifyHead, ← ih]
    by_cases h : c = sep
    · simp [splitOn, h]
    · obtain ⟨l, ls, hs, hcons⟩ := splitOn_cons_of_ne h cs
      simp [hcons, hs, h]

/-- Pieces without the separator, joined by it, are cut back into the same pieces. -/
theorem splitOn_intercalate {ps : List (List Char)} (hs : ∀ p ∈ ps, sep ∉ p) (hne : ps ≠ []) :
    splitOn sep ([sep].intercalate ps) = ps := by
  rw [splitOn_eq_splitOn, List.splitOn_intercalate sep hs hne]

/-- A separator at the end of a text adds an empty last piece. -/
theorem splitOn_concat_sep (cs : List Char) : splitOn sep (cs ++ [sep]) = splitOn sep cs ++ [[]] := by
  rw [splitOn_eq_splitOn, splitOn_eq_splitOn, List.splitOn_append_cons_self, List.splitOn_nil]

/-- Any other character at the end of a text joins the last piece. -/
theorem splitOn_concat_of_ne (h : c ≠ sep) (cs : List Char) :
    ∃ P x, splitOn sep cs = P ++ [x] ∧ splitOn sep (cs ++ [c]) = P ++ [x ++ [c]] := by
  induction cs with
  | nil => exact ⟨[], [], rfl, by simp [splitOn, h]⟩
  | cons d cs ih =>
    obtain ⟨P, x, hs, hs'⟩ := ih
    by_cases hd : d = sep
    · exact ⟨[] :: P, x, by simp [splitOn, hd, hs], by simp [splitOn, hd, hs']⟩
    · obtain ⟨l, ls, hl, hcons⟩ := splitOn_cons_of_ne hd cs
      obtain ⟨l', ls', hl', hcons'⟩ := splitOn_cons_of_ne hd (cs ++ [c])
      rw [List.cons_append, hcons', hcons]
      rw [hs] at hl
      rw [hs'] at hl'
      -- the first piece gets `d` in front; it is the last piece only if it is the only one
      cases P with
      | nil =>
        obtain ⟨rfl, rfl⟩ := List.cons.inj hl.symm
        obtain ⟨rfl, rfl⟩ := List.cons.inj hl'.symm
        exact ⟨[], _, rfl, rfl⟩
      | cons q P =>
        obtain ⟨rfl, rfl⟩ := List.cons.inj hl.symm
        obtain ⟨rfl, rfl⟩ := List.cons.inj hl'.symm
        exact ⟨(d :: _) :: P, _, rfl, rfl⟩

end Split

/-! ## Cutting at the first separator -/

section Cut

variable {sep : Char} {cs : List Char}

theorem cut_eq_none_iff : cut sep cs = none ↔ sep ∉ cs := by
  have hd : cs.dropWhile (fun c => decide (c ≠ sep)) = [] ↔ sep ∉ cs := by
    rw [List.dropWhile_eq_nil_iff]
    constructor
    · intro h hs
      simpa using h sep hs
    · intro hs c hc
      simpa using fun e : c = sep => hs (e ▸ hc)
  rw [← hd, cut, List.span_eq_takeWhile_dropWhile]
  rcases cs.dropWhile (fun c => decide (c ≠ sep)) with _ | ⟨d, D⟩ <;> simp

theorem cut_eq_some_iff {before after : List Char} :
    cut sep cs = some (before, after) ↔ sep ∉ before ∧ cs = before ++ sep :: after := by
  rw [cut, List.span_eq_takeWhile_dropWhile]
  constructor
  · intro h
    rcases hD : cs.dropWhile (fun c => decide (c ≠ sep)) with _ | ⟨d, D⟩
    · rw [hD] at h
      simp at h
    · simp only [hD, Option.some.injEq, Prod.mk.injEq] at h
      obtain ⟨rfl, rfl⟩ := h
      -- the first character that the cut stops at is the separator
      have hd : d = sep := by
        have hnot := List.head?_dropWhile_not (fun c => decide (c ≠ sep)) cs
        rw [hD] at hnot
        simpa using hnot
      refine ⟨fun hs => ?_, ?_⟩
      · simpa using List.mem_takeWhile_imp hs
      · have hsplit := List.takeWhile_append_dropWhile (p := fun c => decide (c ≠ sep)) (l := cs)
        rw [hD, hd] at hsplit
        exact hsplit.symm
  · rintro ⟨hb, rfl⟩
    have hpos : ∀ c ∈ before, decide (c ≠ sep) = true := fun c hc => by
      simpa using fun e : c = sep => hb (e ▸ hc)
    rw [List.takeWhile_append_of_pos hpos, List.dropWhile_append_of_pos hpos]
    simp

end Cut

end HelpMan.Text
