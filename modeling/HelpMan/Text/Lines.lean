/-!
# Lines and pieces of a text

A text is cut at every occurrence of a separator character (`splitOn`); the pieces
joined back with the separator give the text again (`intercalate_splitOn`), and no
piece holds the separator (`not_mem_of_mem_splitOn`). `cut` splits at the first
occurrence only, and `isInfix` tests whether one text occurs inside another.
-/

namespace HelpMan.Text

/-- The pieces of a text between occurrences of `sep`; an empty text is one empty piece. -/
def splitOn (sep : Char) : List Char → List (List Char)
  | [] => [[]]
  | c :: cs =>
    if c = sep then [] :: splitOn sep cs
    else
      match splitOn sep cs with
      | [] => [[c]]
      | l :: ls => (c :: l) :: ls

theorem splitOn_ne_nil (sep : Char) (cs : List Char) : splitOn sep cs ≠ [] := by
  cases cs with
  | nil => simp [splitOn]
  | cons c cs =>
    simp only [splitOn]
    split
    · simp
    · split <;> simp

/-- Joining the pieces with the separator gives the text back. -/
theorem intercalate_splitOn (sep : Char) (cs : List Char) :
    [sep].intercalate (splitOn sep cs) = cs := by
  induction cs with
  | nil => rfl
  | cons c cs ih =>
    simp only [splitOn]
    split
    · rename_i h
      subst h
      have hne := splitOn_ne_nil c cs
      obtain ⟨l, ls, hl⟩ : ∃ l ls, splitOn c cs = l :: ls := by
        cases hs : splitOn c cs with
        | nil => exact absurd hs hne
        | cons l ls => exact ⟨l, ls, rfl⟩
      rw [hl] at ih ⊢
      simp [List.intercalate_cons_cons, ih]
    · split
      · rename_i h
        exact absurd h (splitOn_ne_nil sep cs)
      · rename_i l ls h
        rw [h] at ih
        cases ls with
        | nil => simp_all
        | cons l2 ls => simp_all [List.intercalate_cons_cons]

/-- No piece holds the separator. -/
theorem not_mem_of_mem_splitOn {sep : Char} {cs l : List Char} (h : l ∈ splitOn sep cs) :
    sep ∉ l := by
  induction cs generalizing l with
  | nil => simp_all [splitOn]
  | cons c cs ih =>
    simp only [splitOn] at h
    split at h
    · rcases List.mem_cons.1 h with h | h
      · simp [h]
      · exact ih h
    · rename_i hc
      split at h
      · simp only [List.mem_singleton] at h
        subst h
        simp only [List.mem_singleton]
        exact fun e => hc e.symm
      · rename_i l0 ls hs
        rcases List.mem_cons.1 h with h | h
        · subst h
          have := ih (l := l0) (by rw [hs]; exact List.mem_cons_self)
          simp only [List.mem_cons, not_or]
          exact ⟨fun e => hc e.symm, this⟩
        · exact ih (by rw [hs]; exact List.mem_cons_of_mem _ h)

/-- The text before the first `sep` and the text after it, if `sep` occurs. -/
def cut (sep : Char) (cs : List Char) : Option (List Char × List Char) :=
  match cs.span (· ≠ sep) with
  | (_, []) => none
  | (before, _ :: after) => some (before, after)

/-- Whether `needle` occurs as a contiguous piece of `hay`. -/
def isInfix (needle hay : List Char) : Bool :=
  match hay with
  | [] => needle.isEmpty
  | c :: cs => needle.isPrefixOf (c :: cs) || isInfix needle cs

end HelpMan.Text
