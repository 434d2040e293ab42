import HelpMan.Proofs.Help.Grammar
import HelpMan.Proofs.Text.Lines

/-!
# Command entries

Under `commands:` a trimmed line gives a command entry when it has a blank and does not mention
`alias for`: the name is the line up to its first blank, and the description is the rest with its
leading hyphens, spaces and tabs and then its blanks at both ends removed (`ofLine?_eq_some_iff`).

Every entry of a help text therefore has a name without blanks, which is not empty since the
line is trimmed, and a description that is its own trim (`parse_commands_wellFormed`). The
description need not be a description, though: the hyphen strip knows only spaces and tabs, so a
rest made of hyphens and blanks leaves it empty (`foo -`), and a blank such as a vertical tab or a
no-break space before the hyphens leaves them in (`foo \v-bar` gives `-bar`). A description is
non-empty and free of a leading hyphen only if the rest has a character that is neither a hyphen
nor a blank, and on lines whose only blanks are spaces and tabs this is also enough.
-/

namespace HelpMan.Help

open Text

/-! ## Trimmed lines -/

/-- A trimmed text starts where the text trimmed at the front starts: trimming at the back
keeps a start of it, and its first character, which is not blank. -/
theorem head?_trimBlank (cs : List Char) : (trimBlank cs).head? = (dropBlank cs).head? := by
  change ((dropBlank cs).rdropWhile isBlank).head? = _
  rcases hd : dropBlank cs with _ | ⟨x, xs⟩
  · rfl
  · have hx : isBlank x = false := by
      have hnot := List.head?_dropWhile_not isBlank cs
      rw [show cs.dropWhile isBlank = dropBlank cs from rfl, hd] at hnot
      simpa using hnot
    obtain ⟨t, ht⟩ := List.rdropWhile_prefix isBlank (x :: xs)
    rcases hr : (x :: xs).rdropWhile isBlank with _ | ⟨y, ys⟩
    · have hall := List.rdropWhile_eq_nil_iff.mp hr x List.mem_cons_self
      simp [hx] at hall
    · rw [hr, List.cons_append] at ht
      obtain ⟨rfl, -⟩ := List.cons.inj ht
      rfl

/-- The first character of a trimmed text is not blank. -/
theorem head_trimBlank {cs : List Char} {c : Char} (h : (trimBlank cs).head? = some c) : isBlank c = false := by
  rw [head?_trimBlank] at h
  have hnot := List.head?_dropWhile_not isBlank cs
  rw [show cs.dropWhile isBlank = dropBlank cs from rfl, h] at hnot
  simpa using hnot

/-- What a trim leaves is a piece of the text. -/
theorem trimBlank_isInfix (cs : List Char) : trimBlank cs <:+: cs := by
  have hback : trimBlank cs <+: dropBlank cs := by
    rw [show trimBlank cs = (List.dropWhile isBlank (dropBlank cs).reverse).reverse from rfl,
      ← List.reverse_suffix, List.reverse_reverse]
    exact List.dropWhile_suffix isBlank
  exact hback.isInfix.trans (List.dropWhile_suffix isBlank).isInfix

/-- The model's search for a piece is the library's `List.IsInfix`. -/
theorem isInfix_iff {needle hay : List Char} : isInfix needle hay = true ↔ needle <:+: hay := by
  induction hay with
  | nil => simp [isInfix]
  | cons c cs ih => rw [isInfix, Bool.or_eq_true, ih, List.isPrefixOf_iff_prefix, List.infix_cons_iff]

/-! ## One line -/

/-- A line cut at its first blank: the name before it, and the rest from it on. -/
theorem span_not_blank {name rest : List Char} (hname : ∀ ch ∈ name, isBlank ch = false)
    (hrest : ∀ x ∈ rest.head?, isBlank x = true) :
    (name ++ rest).span (fun c => !isBlank c) = (name, rest) := by
  have hpos : ∀ ch ∈ name, (!isBlank ch) = true := by simpa using hname
  rw [List.span_eq_takeWhile_dropWhile, List.takeWhile_append_of_pos hpos, List.dropWhile_append_of_pos hpos]
  cases rest with
  | nil => simp
  | cons x xs => simp [hrest x rfl]

/-- The entry a line gives: the line has a blank and does not mention `alias for`, the name is
the line up to its first blank, and the description is the rest without its leading hyphens,
spaces and tabs, trimmed. -/
theorem ofLine?_eq_some_iff {line : List Char} {cmd : Command} :
    Command.ofLine? line = some cmd ↔ ∃ name sep rest, line = name ++ sep :: rest ∧
      (∀ ch ∈ name, isBlank ch = false) ∧ isBlank sep = true ∧ ¬ "alias for".toList <:+: line ∧
      cmd = ⟨String.ofList name, String.ofList (trimBlank (dropSet ['-', ' ', '\t'] (sep :: rest)))⟩ := by
  constructor
  · intro h
    have hsplit := (List.takeWhile_append_dropWhile (p := fun c => !isBlank c) (l := line)).symm
    unfold Command.ofLine? at h
    rw [List.span_eq_takeWhile_dropWhile] at h
    rcases hd : line.dropWhile (fun c => !isBlank c) with _ | ⟨sep, rest⟩
    · rw [hd] at h
      cases h
    · rw [hd] at h hsplit
      have hsep : isBlank sep = true := by
        have hnot := List.head?_dropWhile_not (fun c => !isBlank c) line
        rw [hd] at hnot
        simpa using hnot
      simp only at h
      split at h
      · cases h
      · rename_i halias
        cases h
        refine ⟨_, sep, rest, hsplit, fun ch hch => by simpa using List.mem_takeWhile_imp hch, hsep, ?_, rfl⟩
        rwa [← isInfix_iff]
  · rintro ⟨name, sep, rest, rfl, hname, hsep, halias, rfl⟩
    unfold Command.ofLine?
    rw [span_not_blank hname (by simpa using hsep)]
    simp only
    rw [if_neg (by rwa [isInfix_iff])]

/-- A line whose first character is not blank names its command entry, if it gives one. -/
theorem name_ne_empty_of_ofLine? {line : List Char} {cmd : Command} (hl : ∀ c ∈ line.head?, isBlank c = false)
    (h : Command.ofLine? line = some cmd) : cmd.name ≠ "" := by
  obtain ⟨name, sep, rest, rfl, -, hsep, -, rfl⟩ := ofLine?_eq_some_iff.mp h
  cases name with
  | nil =>
    have := hl sep rfl
    simp_all
  | cons c cs => simp

/-! ## The entries of a help text -/

/-- Every command entry of a help text comes from one of its trimmed lines. -/
theorem exists_line_of_mem_commands {h : String} {cmd : Command} (hc : cmd ∈ (parse h).commands) :
    ∃ l ∈ lines h, Command.ofLine? l.toList = some cmd := by
  rw [parse_eq_finish] at hc
  simp only [finish, Record.empty, List.nil_append, reduceCtorEq, if_false, List.mem_flatMap] at hc
  obtain ⟨b, hb, hcb⟩ := hc
  obtain ⟨l, hl, hcl⟩ := List.mem_filterMap.mp hcb
  exact ⟨l, mem_of_mem_bodies hb hl, hcl⟩

/-- A trimmed line does not start with a blank. -/
theorem head_of_mem_lines {h l : String} (hl : l ∈ lines h) : ∀ c ∈ l.toList.head?, isBlank c = false := by
  obtain ⟨raw, -, rfl⟩ := List.mem_map.mp hl
  intro c hc
  rw [trimLine, String.toList_ofList] at hc
  exact head_trimBlank hc

/-- Every command entry of a help text has a name. -/
theorem name_ne_empty_of_mem_commands {h : String} {cmd : Command} (hc : cmd ∈ (parse h).commands) :
    cmd.name ≠ "" := by
  obtain ⟨l, hl, hcl⟩ := exists_line_of_mem_commands hc
  exact name_ne_empty_of_ofLine? (head_of_mem_lines hl) hcl

section Description

variable {rest : List Char}

/-- A text that is not empty and does not start with a hyphen. -/
theorem ne_and_head_iff {cs : List Char} :
    String.ofList cs ≠ "" ∧ (String.ofList cs).toList.head? ≠ some '-' ↔ ∃ d, cs.head? = some d ∧ d ≠ '-' := by
  rw [String.toList_ofList]
  cases cs with
  | nil => simp
  | cons d ds => simp

/-- A description that starts with a character other than a hyphen starts with a character of the
rest that is neither a hyphen nor a blank. -/
theorem exists_of_description {d : Char} (h : (trimBlank (dropSet ['-', ' ', '\t'] rest)).head? = some d)
    (hd : d ≠ '-') : ∃ ch ∈ rest, ch ≠ '-' ∧ isBlank ch = false := by
  have hmem : d ∈ rest := by
    have hin : d ∈ trimBlank (dropSet ['-', ' ', '\t'] rest) := List.mem_of_mem_head? h
    exact (List.dropWhile_suffix _).subset ((trimBlank_isInfix _).subset hin)
  exact ⟨d, hmem, hd, head_trimBlank h⟩

/-- On a rest whose only blanks are spaces and tabs, a character that is neither a hyphen nor a
blank makes the description start with a character other than a hyphen. -/
theorem description_of_exists (hblank : ∀ ch ∈ rest, isBlank ch = true → ch = ' ' ∨ ch = '\t')
    (h : ∃ ch ∈ rest, ch ≠ '-' ∧ isBlank ch = false) :
    ∃ d, (trimBlank (dropSet ['-', ' ', '\t'] rest)).head? = some d ∧ d ≠ '-' := by
  obtain ⟨ch, hch, hne, hnb⟩ := h
  have hstop : ∃ d ds, rest.dropWhile (fun c => decide (c ∈ ['-', ' ', '\t'])) = d :: ds := by
    rcases hd : rest.dropWhile (fun c => decide (c ∈ ['-', ' ', '\t'])) with _ | ⟨d, ds⟩
    · have hin : ch ∈ ['-', ' ', '\t'] := by simpa using List.dropWhile_eq_nil_iff.mp hd ch hch
      simp only [List.mem_cons, List.not_mem_nil, or_false] at hin
      rcases hin with rfl | rfl | rfl
      · exact absurd rfl hne
      · exact absurd hnb (by decide)
      · exact absurd hnb (by decide)
    · exact ⟨d, ds, rfl⟩
  obtain ⟨d, ds, hd⟩ := hstop
  have hdS : d ∉ ['-', ' ', '\t'] := by
    have hnot := List.head?_dropWhile_not (fun c => decide (c ∈ ['-', ' ', '\t'])) rest
    rw [hd] at hnot
    simpa using hnot
  -- a blank where the strip stops would be a space or a tab, which the strip takes
  have hdb : isBlank d = false := by
    have hdmem : d ∈ rest := (List.dropWhile_suffix _).subset (by rw [hd]; exact List.mem_cons_self)
    cases hb : isBlank d
    · rfl
    · rcases hblank d hdmem hb with rfl | rfl <;> simp at hdS
  refine ⟨d, ?_, fun e => hdS (by simp [e])⟩
  rw [head?_trimBlank, show dropSet ['-', ' ', '\t'] rest = d :: ds from hd, dropBlank,
    List.dropWhile_cons_of_neg (by simp [hdb])]
  rfl

end Description

/-! ## Well-formed entries -/

/-- **Command entries are well formed up to their descriptions.** Every command entry of a help
text comes from a trimmed line that does not mention `alias for`, cut at its first blank: the
name is not empty and has no blank, and the description is its own trim. The description is not
empty and does not start with a hyphen only if the line has, after the blank, a character that is
neither a hyphen nor a blank; on a line whose only blanks are spaces and tabs that is also enough.
On other lines a blank before the hyphens keeps them in the description. -/
theorem parse_commands_wellFormed {t : String} {c : Command} (hc : c ∈ (parse t).commands) :
    c.name ≠ "" ∧ (∀ ch ∈ c.name.toList, isBlank ch = false) ∧ c.description.trimBlank = c.description ∧
    ∃ l ∈ lines t, ∃ sep rest, l.toList = c.name.toList ++ sep :: rest ∧ isBlank sep = true ∧
      ¬ "alias for".toList <:+: l.toList ∧
      (c.description ≠ "" ∧ c.description.toList.head? ≠ some '-' → ∃ ch ∈ rest, ch ≠ '-' ∧ isBlank ch = false) ∧
      ((∀ ch ∈ l.toList, isBlank ch = true → ch = ' ' ∨ ch = '\t') →
        (∃ ch ∈ rest, ch ≠ '-' ∧ isBlank ch = false) → c.description ≠ "" ∧ c.description.toList.head? ≠ some '-') := by
  obtain ⟨l, hl, hcl⟩ := exists_line_of_mem_commands hc
  have hname := name_ne_empty_of_ofLine? (head_of_mem_lines hl) hcl
  obtain ⟨name, sep, rest, hline, hnb, hsep, halias, rfl⟩ := ofLine?_eq_some_iff.mp hcl
  have hnm : (String.ofList name).toList = name := String.toList_ofList
  dsimp only at hname ⊢
  rw [hnm]
  refine ⟨hname, hnb, ?_, l, hl, sep, rest, hline, hsep, halias, fun hgood => ?_, fun hascii hex => ?_⟩
  · rw [String.trimBlank, String.toList_ofList, trimBlank_trimBlank]
  · obtain ⟨d, hd, hdne⟩ := ne_and_head_iff.mp hgood
    obtain ⟨ch, hch, hne, hb⟩ := exists_of_description hd hdne
    refine ⟨ch, ?_, hne, hb⟩
    rcases List.mem_cons.mp hch with rfl | h
    · rw [hsep] at hb
      cases hb
    · exact h
  · obtain ⟨ch, hch, hne, hb⟩ := hex
    refine ne_and_head_iff.mpr (description_of_exists (fun x hx => hascii x ?_) ⟨ch, List.mem_cons_of_mem _ hch, hne, hb⟩)
    rw [hline]
    exact List.mem_append_right _ hx

/-- The line `foo -` of a commands section gives the command `foo` with an empty description. -/
theorem parse_commands_wellFormed_dash :
    (⟨"foo", ""⟩ : Command) ∈ (parse "commands:\nfoo -").commands ∧ ("foo" : String) ≠ "" :=
  have h : (⟨"foo", ""⟩ : Command) ∈ (parse "commands:\nfoo -").commands := by decide +kernel
  ⟨h, (parse_commands_wellFormed h).1⟩

end HelpMan.Help
