import Mathlib.Data.List.Forall2
import HelpMan.Proofs.Help.Grammar
import HelpMan.Proofs.Text.Lines

/-!
# Padding around a help text

What a reader of a parsed help text sees is which sections are present, their texts and the
command entries (`Record.Agree`). None of it depends on how the text is padded
(`parse_ignores_padding`):

* two texts whose trimmed lines are the same once the blank lines at the very beginning and the
  very end are left out parse alike;
* so trimming blank characters from the whole text changes nothing, although it may cut into the
  first and the last line;
* and neither does writing every line feed as a carriage return and a line feed.

The reader is run over the padded lines: blank lines before the first header are dropped
(`foldl_step_preamble`), and each blank line after the last one leaves the record showing the
same (`agree_step_blank`), whatever the reader's state, so a run of them does too
(`agree_foldl_blank`).
-/

namespace HelpMan.Help

open Text

/-! ## Blank lines at the ends -/

theorem trimEmpty_concat (b : List String) : trimEmpty (b ++ [""]) = trimEmpty b :=
  trim_concat rfl b

theorem trimEmpty_cons (b : List String) : trimEmpty ("" :: b) = trimEmpty b := by
  simp [trimEmpty]

/-! ## What a parse shows -/

/-- Two records show the same: the same sections are present, with the same texts, and the
command entries are the same. -/
structure Record.Agree (r r' : Record) : Prop where
  has : ∀ s, r.has s = r'.has s
  text : ∀ s, r.text s = r'.text s
  commands : r.commands = r'.commands

namespace Record.Agree

variable {r r' r'' : Record}

theorem refl (r : Record) : r.Agree r := ⟨fun _ => rfl, fun _ => rfl, rfl⟩

theorem symm (h : r.Agree r') : r'.Agree r :=
  ⟨fun s => (h.has s).symm, fun s => (h.text s).symm, h.commands.symm⟩

theorem trans (h : r.Agree r') (h' : r'.Agree r'') : r.Agree r'' :=
  ⟨fun s => (h.has s).trans (h'.has s), fun s => (h.text s).trans (h'.text s),
    h.commands.trans h'.commands⟩

end Record.Agree

/-- An empty line at the end of a section adds only a line feed that the text trims. -/
theorem Record.text_addLine_empty {r : Record} {s : Section} (hs : r.has s = true) (t : Section) :
    (r.addLine s "").text t = r.text t := by
  by_cases ht : t = s
  · subst ht
    obtain ⟨b, hb⟩ := Option.isSome_iff_exists.mp hs
    simp only [Record.text, Record.addLine, if_true, hb, Option.getD_some]
    congr 1
    cases b with
    | nil => rfl
    | cons l b =>
      rw [String.intercalate_append_of_ne_nil (List.cons_ne_nil l b) (List.cons_ne_nil "" []),
        String.intercalate_singleton, String.append_empty, String.toList_append]
      exact trimSet_concat List.mem_cons_self _
  · simp [Record.text, Record.addLine, ht]

theorem Record.agree_addLine_empty {r : Record} {s : Section} (hs : r.has s = true) :
    (r.addLine s "").Agree r := by
  refine ⟨fun t => ?_, r.text_addLine_empty hs, rfl⟩
  by_cases ht : t = s
  · subst ht
    rw [hs]
    simp [Record.has, Record.addLine]
  · simp [Record.has, Record.addLine, ht]

/-! ## Blank lines -/

theorem ofHeader?_empty : Section.ofHeader? "" = none := by decide

section Blank

variable {raw : List Char}

theorem trimLine_of_blank (hb : trimBlank raw = []) : trimLine raw = "" := by
  rw [trimLine, hb]

/-- A blank line changes nothing that the record shows: it is no header, it is dropped before the
first header, it gives no command entry, and elsewhere it is an empty line that the text trims. -/
theorem agree_step_blank {st : Cursor × Record} (hw : WellFormed st.1 st.2) (hb : trimBlank raw = []) :
    (step st raw).2.Agree st.2 := by
  obtain ⟨cur, r⟩ := st
  have hl := trimLine_of_blank hb
  rcases step_cases cur r raw with ⟨s, hh, -⟩ | ⟨-, -, he⟩ | ⟨-, -, he⟩ | ⟨-, s, rfl, -, he⟩
  · rw [hl, ofHeader?_empty] at hh
    cases hh
  · rw [he]
    exact .refl r
  · have hentry : addEntry r "" = r := rfl
    rw [he, hl, hentry]
    exact .refl r
  · rw [he, hl]
    exact r.agree_addLine_empty (hw s rfl)

/-- Before the first header a blank line is dropped. -/
theorem step_preamble_blank (hb : trimBlank raw = []) (r : Record) : step (none, r) raw = (none, r) :=
  step_preamble (by rw [trimLine_of_blank hb, ofHeader?_empty])

end Blank

section Runs

variable {ls : List (List Char)}

theorem wellFormed_foldl (ls : List (List Char)) {st : Cursor × Record} (hw : WellFormed st.1 st.2) :
    WellFormed (ls.foldl step st).1 (ls.foldl step st).2 := by
  induction ls generalizing st with
  | nil => exact hw
  | cons l ls ih => exact ih (wellFormed_step hw l)

/-- A run of blank lines changes nothing that the record shows. -/
theorem agree_foldl_blank (hb : ∀ l ∈ ls, trimBlank l = []) {st : Cursor × Record}
    (hw : WellFormed st.1 st.2) : (ls.foldl step st).2.Agree st.2 := by
  induction ls generalizing st with
  | nil => exact .refl _
  | cons l ls ih =>
    rw [List.foldl_cons]
    exact (ih (fun x hx => hb x (List.mem_cons_of_mem _ hx)) (wellFormed_step hw l)).trans
      (agree_step_blank hw (hb l List.mem_cons_self))

/-- Blank lines before the first header are dropped. -/
theorem foldl_step_preamble (hb : ∀ l ∈ ls, trimBlank l = []) (r : Record) :
    ls.foldl step (none, r) = (none, r) := by
  induction ls with
  | nil => rfl
  | cons l ls ih =>
    rw [List.foldl_cons, step_preamble_blank (hb l List.mem_cons_self),
      ih fun x hx => hb x (List.mem_cons_of_mem _ hx)]

/-- Blank lines around the lines of a text change nothing that its parse shows. -/
theorem agree_parseLines_pad {pre mid post : List (List Char)} (hpre : ∀ l ∈ pre, trimBlank l = [])
    (hpost : ∀ l ∈ post, trimBlank l = []) : (parseLines (pre ++ mid ++ post)).Agree (parseLines mid) := by
  rw [parseLines, List.foldl_append, List.foldl_append, foldl_step_preamble hpre]
  exact agree_foldl_blank hpost (wellFormed_foldl mid fun _ h => by cases h)

end Runs

/-- A text parses as the lines between its blank lines at the very beginning and the very end. -/
theorem exists_parse_agree_core (t : String) :
    ∃ mid, mid.map trimLine = trimEmpty (lines t) ∧ (parse t).Agree (parseLines mid) := by
  obtain ⟨pre, mid, post, hsplit, hpre, hpost, hmid⟩ :=
    exists_trim_split (p := String.isEmpty) trimLine (splitOn '\n' t.toList)
  have hblank : ∀ l, (trimLine l).isEmpty = true → trimBlank l = [] := by
    intro l hl
    simpa [trimLine] using hl
  refine ⟨mid, hmid, ?_⟩
  rw [parse, hsplit]
  exact agree_parseLines_pad (fun l hl => hblank l (hpre l hl)) (fun l hl => hblank l (hpost l hl))

/-- Texts whose trimmed lines agree up to blank lines at both ends parse alike. -/
theorem parse_agree_of_trimEmpty {t t' : String} (h : trimEmpty (lines t) = trimEmpty (lines t')) :
    (parse t).Agree (parse t') := by
  obtain ⟨mid, hmid, hagree⟩ := exists_parse_agree_core t
  obtain ⟨mid', hmid', hagree'⟩ := exists_parse_agree_core t'
  -- the reader sees a line only through its trim, so the two middles read alike
  have hsame : parseLines mid = parseLines mid' := by
    rw [parseLines, parseLines, foldl_step mid (fun _ h => by cases h),
      foldl_step mid' (fun _ h => by cases h), hmid, hmid', h]
  rw [hsame] at hagree
  exact hagree.trans hagree'.symm

/-! ## Lines of a padded text -/

/-- The trimmed lines of a text given as characters. -/
def linesOf (cs : List Char) : List String := (splitOn '\n' cs).map trimLine

theorem lines_eq_linesOf (t : String) : lines t = linesOf t.toList := rfl

section Edges

variable {c : Char}

/-- A blank character at the front of a text at most adds a blank line at the front. -/
theorem trimEmpty_linesOf_cons (hc : isBlank c = true) (cs : List Char) :
    trimEmpty (linesOf (c :: cs)) = trimEmpty (linesOf cs) := by
  by_cases hn : c = '\n'
  · subst hn
    simp only [linesOf, splitOn, if_true, List.map_cons]
    exact trimEmpty_cons _
  · obtain ⟨l, ls, hs, hcons⟩ := splitOn_cons_of_ne hn cs
    simp only [linesOf, hcons, hs, List.map_cons, trimLine, trimBlank_cons hc]

/-- A blank character at the back of a text at most adds a blank line at the back. -/
theorem trimEmpty_linesOf_concat (hc : isBlank c = true) (cs : List Char) :
    trimEmpty (linesOf (cs ++ [c])) = trimEmpty (linesOf cs) := by
  by_cases hn : c = '\n'
  · subst hn
    rw [linesOf, splitOn_concat_sep, List.map_append]
    exact trimEmpty_concat _
  · obtain ⟨P, x, hs, hs'⟩ := splitOn_concat_of_ne hn cs
    simp only [linesOf, hs, hs', List.map_append, List.map_cons, List.map_nil, trimLine,
      trimBlank_concat hc]

theorem trimEmpty_linesOf_dropBlank (cs : List Char) :
    trimEmpty (linesOf (dropBlank cs)) = trimEmpty (linesOf cs) := by
  induction cs with
  | nil => rfl
  | cons d cs ih =>
    by_cases hd : isBlank d = true
    · rw [dropBlank, List.dropWhile_cons_of_pos hd, ← dropBlank, ih, trimEmpty_linesOf_cons hd]
    · rw [dropBlank, List.dropWhile_cons_of_neg hd]

theorem trimEmpty_linesOf_dropBlank_reverse (ds : List Char) :
    trimEmpty (linesOf (dropBlank ds).reverse) = trimEmpty (linesOf ds.reverse) := by
  induction ds with
  | nil => rfl
  | cons d ds ih =>
    by_cases hd : isBlank d = true
    · rw [dropBlank, List.dropWhile_cons_of_pos hd, ← dropBlank, ih, List.reverse_cons,
        trimEmpty_linesOf_concat hd]
    · rw [dropBlank, List.dropWhile_cons_of_neg hd]

/-- Trimming a text of blank characters keeps its lines, up to blank lines at both ends. -/
theorem trimEmpty_lines_trimBlank (t : String) : trimEmpty (lines t.trimBlank) = trimEmpty (lines t) := by
  rw [lines_eq_linesOf, lines_eq_linesOf, String.trimBlank, String.toList_ofList, trimBlank,
    trimEmpty_linesOf_dropBlank_reverse, List.reverse_reverse, trimEmpty_linesOf_dropBlank]

end Edges

/-! ## Carriage returns -/

/-- The text with every line feed written as a carriage return and a line feed. -/
def withCRLF (t : String) : String :=
  String.ofList (t.toList.flatMap fun c => if c = '\n' then ['\r', '\n'] else [c])

/-- The pieces of a text with carriage returns before its line feeds are its pieces, each but the
last with a carriage return at its end. -/
theorem splitOn_withCRLF (cs : List Char) :
    List.Forall₂ (fun l' l => l' = l ∨ l' = l ++ ['\r'])
      (splitOn '\n' (cs.flatMap fun c => if c = '\n' then ['\r', '\n'] else [c])) (splitOn '\n' cs) := by
  induction cs with
  | nil => exact .cons (.inl rfl) .nil
  | cons c cs ih =>
    by_cases hc : c = '\n'
    · subst hc
      simp only [List.flatMap_cons, if_true, List.cons_append, List.nil_append]
      obtain ⟨l, ls, hs, hcons⟩ := splitOn_cons_of_ne (show '\r' ≠ '\n' by decide)
        ('\n' :: cs.flatMap fun c => if c = '\n' then ['\r', '\n'] else [c])
      simp only [splitOn, if_true] at hs
      obtain ⟨rfl, rfl⟩ := List.cons.inj hs.symm
      rw [hcons]
      simp only [splitOn, if_true]
      exact .cons (.inr rfl) ih
    · simp only [List.flatMap_cons, hc, if_false, List.cons_append, List.nil_append]
      obtain ⟨l, ls, hs, hcons⟩ := splitOn_cons_of_ne hc cs
      obtain ⟨l', ls', hs', hcons'⟩ := splitOn_cons_of_ne hc
        (cs.flatMap fun c => if c = '\n' then ['\r', '\n'] else [c])
      rw [hcons, hcons']
      rw [hs, hs'] at ih
      obtain ⟨hl, hls⟩ := List.forall₂_cons.mp ih
      refine .cons ?_ hls
      rcases hl with rfl | rfl
      · exact .inl rfl
      · exact .inr rfl

/-- A carriage return before each line feed leaves the trimmed lines as they are. -/
theorem lines_withCRLF (t : String) : lines (withCRLF t) = lines t := by
  have hpieces := (splitOn_withCRLF t.toList).imp fun l' l (h : l' = l ∨ l' = l ++ ['\r']) =>
    show trimLine l' = trimLine l by
      rcases h with rfl | rfl
      · rfl
      · rw [trimLine, trimLine, trimBlank_concat (by decide)]
  rw [lines, lines, withCRLF, String.toList_ofList, ← List.forall₂_eq_eq_eq]
  simpa [List.forall₂_map_left_iff, List.forall₂_map_right_iff] using hpieces

/-- **Padding never changes a parse.** Texts whose trimmed lines are the same once the blank lines
at the very beginning and the very end are left out show the same sections, texts and command
entries; in particular so do a text and the text trimmed of blank characters, and a text and the
text with every line feed written as a carriage return and a line feed. -/
theorem parse_ignores_padding :
    (∀ t t' : String, trimEmpty (lines t) = trimEmpty (lines t') → (parse t).Agree (parse t')) ∧
    (∀ t : String, (parse t.trimBlank).Agree (parse t)) ∧
    (∀ t : String, (parse (withCRLF t)).Agree (parse t)) :=
  ⟨fun _ _ h => parse_agree_of_trimEmpty h,
    fun t => parse_agree_of_trimEmpty (trimEmpty_lines_trimBlank t),
    fun t => parse_agree_of_trimEmpty (by rw [lines_withCRLF])⟩

/-- Blank lines and blank characters around a short help text leave its parse as it is. -/
theorem parse_ignores_padding_blank_edges :
    trimEmpty (lines " \n\t\nSummary:  \n lists widgets\n\n") = trimEmpty (lines "Summary:\nlists widgets") ∧
    (parse " \n\t\nSummary:  \n lists widgets\n\n").Agree (parse "Summary:\nlists widgets") :=
  ⟨by decide, parse_ignores_padding.1 _ _ (by decide)⟩

end HelpMan.Help
