import HelpMan.Page.Entry
import HelpMan.Proofs.Text.Lines

/-!
# Files lists

A page documents files given as a list with one entry per line, the path and the description
divided by the first tab (`parseFiles`). Writing entries as such a list (`encodeFiles`) and
reading it are inverse to each other, and reading fails at the first line without a tab
(`parseFiles_inverts_encoding`):

* entries whose paths hold no tab or line feed and whose descriptions hold no line feed are read
  back from their list, the empty list included;
* a list that reads is the list of what it reads;
* a list fails to read iff it is not empty and some line has no tab, and then the failure names
  the first such line, counted from one, with its text.

The reader goes line by line (`parseFileLines`); each direction is one induction over the lines.
-/

namespace HelpMan.Page

open Text

/-! ## Writing entries -/

/-- The line that gives an entry: its path, a tab and its description. -/
def FileEntry.line (f : FileEntry) : String := f.path ++ "\t" ++ f.description

/-- A files list of entries: their lines joined by line feeds. -/
def encodeFiles (fs : List FileEntry) : String := "\n".intercalate (fs.map FileEntry.line)

/-- An entry that a files list can carry: its path holds no tab or line feed, and its
description no line feed. -/
def FileEntry.Listable (f : FileEntry) : Prop :=
  '\t' ∉ f.path.toList ∧ '\n' ∉ f.path.toList ∧ '\n' ∉ f.description.toList

instance (f : FileEntry) : Decidable f.Listable := inferInstanceAs (Decidable (_ ∧ _ ∧ _))

theorem FileEntry.toList_line (f : FileEntry) : f.line.toList = f.path.toList ++ '\t' :: f.description.toList := by
  simp [FileEntry.line]

theorem toList_encodeFiles (fs : List FileEntry) :
    (encodeFiles fs).toList = ['\n'].intercalate (fs.map fun f => f.line.toList) := by
  simp [encodeFiles, Function.comp_def]

/-! ## Reading line by line -/

theorem Except.map_eq_error_iff {ε α β : Type} {g : α → β} {x : Except ε α} {e : ε} :
    x.map g = .error e ↔ x = .error e := by
  cases x <;> simp [Except.map]

/-- The lines of entries whose paths hold no tab read back as the entries. -/
theorem parseFileLines_lines {fs : List FileEntry} (hfs : ∀ f ∈ fs, '\t' ∉ f.path.toList) (n : Nat) :
    parseFileLines n (fs.map fun f => f.line.toList) = .ok fs := by
  induction fs generalizing n with
  | nil => rfl
  | cons f fs ih =>
    have hcut : cut '\t' f.line.toList = some (f.path.toList, f.description.toList) :=
      cut_eq_some_iff.mpr ⟨hfs f List.mem_cons_self, f.toList_line⟩
    rw [List.map_cons, parseFileLines, hcut, ih (fun g hg => hfs g (List.mem_cons_of_mem _ hg))]
    simp [Except.map]

/-- Lines that read are the lines of what they read. -/
theorem eq_lines_of_parseFileLines {n : Nat} {ls : List (List Char)} {fs : List FileEntry}
    (h : parseFileLines n ls = .ok fs) : ls = fs.map fun f => f.line.toList := by
  induction ls generalizing n fs with
  | nil =>
    cases h
    rfl
  | cons l ls ih =>
    rw [parseFileLines] at h
    cases hcut : cut '\t' l with
    | none =>
      rw [hcut] at h
      cases h
    | some pd =>
      obtain ⟨p, d⟩ := pd
      obtain ⟨-, rfl⟩ := cut_eq_some_iff.mp hcut
      rw [hcut] at h
      cases hrest : parseFileLines (n + 1) ls with
      | error e =>
        rw [hrest] at h
        cases h
      | ok fs' =>
        rw [hrest] at h
        cases h
        simp [ih hrest, FileEntry.toList_line]

/-- Reading fails exactly at a line without a tab that only lines with one precede; the failure
names that line, counted from `n`, with its text. -/
theorem parseFileLines_eq_error_iff {n : Nat} {ls : List (List Char)} {e : BadEntry} :
    parseFileLines n ls = .error e ↔ ∃ good bad rest, ls = good ++ bad :: rest ∧ (∀ g ∈ good, '\t' ∈ g) ∧
      '\t' ∉ bad ∧ e = ⟨n + good.length, String.ofList bad⟩ := by
  induction ls generalizing n with
  | nil => simp [parseFileLines]
  | cons l ls ih =>
    rw [parseFileLines]
    cases hcut : cut '\t' l with
    | none =>
      -- the first line fails; no line before it can be passed over
      have hl := cut_eq_none_iff.mp hcut
      constructor
      · intro h
        cases h
        exact ⟨[], l, ls, rfl, by simp, hl, rfl⟩
      · rintro ⟨good, bad, rest, hsplit, hgood, -, rfl⟩
        cases good with
        | nil =>
          obtain ⟨rfl, -⟩ := List.cons.inj hsplit
          rfl
        | cons g good =>
          obtain ⟨rfl, -⟩ := List.cons.inj hsplit
          exact absurd (hgood _ List.mem_cons_self) hl
    | some pd =>
      -- the first line reads, so the failure is the rest's, one line further on
      obtain ⟨p, d⟩ := pd
      obtain ⟨-, rfl⟩ := cut_eq_some_iff.mp hcut
      have htab : '\t' ∈ p ++ '\t' :: d := by simp
      simp only [Except.map_eq_error_iff, ih]
      constructor
      · rintro ⟨good, bad, rest, rfl, hgood, hbad, rfl⟩
        refine ⟨(p ++ '\t' :: d) :: good, bad, rest, rfl, ?_, hbad, ?_⟩
        · simpa [htab] using hgood
        · simp [Nat.add_assoc, Nat.add_comm 1]
      · rintro ⟨good, bad, rest, hsplit, hgood, hbad, rfl⟩
        cases good with
        | nil =>
          obtain ⟨rfl, -⟩ := List.cons.inj hsplit
          exact absurd htab hbad
        | cons g good =>
          obtain ⟨-, rfl⟩ := List.cons.inj hsplit
          refine ⟨good, bad, rest, rfl, fun x hx => hgood x (List.mem_cons_of_mem _ hx), hbad, ?_⟩
          simp [Nat.add_assoc, Nat.add_comm 1]

/-- Reading fails iff some line has no tab. -/
theorem exists_parseFileLines_error_iff {n : Nat} {ls : List (List Char)} :
    (∃ e, parseFileLines n ls = .error e) ↔ ∃ l ∈ ls, '\t' ∉ l := by
  constructor
  · rintro ⟨e, he⟩
    obtain ⟨good, bad, rest, rfl, -, hbad, -⟩ := parseFileLines_eq_error_iff.mp he
    exact ⟨bad, by simp, hbad⟩
  · rintro ⟨l, hl, hno⟩
    -- the lines with a tab before the first without one are passed over
    have hfirst : ∃ bad rest, ls.dropWhile (fun x => decide ('\t' ∈ x)) = bad :: rest := by
      cases hd : ls.dropWhile (fun x => decide ('\t' ∈ x)) with
      | nil =>
        have := List.dropWhile_eq_nil_iff.mp hd l hl
        simp [hno] at this
      | cons bad rest => exact ⟨bad, rest, rfl⟩
    obtain ⟨bad, rest, hd⟩ := hfirst
    have hbad : '\t' ∉ bad := by
      have hnot := List.head?_dropWhile_not (fun x => decide ('\t' ∈ x)) ls
      rw [hd] at hnot
      simpa using hnot
    refine ⟨_, parseFileLines_eq_error_iff.mpr ⟨ls.takeWhile (fun x => decide ('\t' ∈ x)), bad, rest,
      ?_, fun g hg => by simpa using List.mem_takeWhile_imp hg, hbad, rfl⟩⟩
    rw [← hd, List.takeWhile_append_dropWhile]

/-! ## The files list -/

/-- Listable entries read back from their files list. -/
theorem parseFiles_encodeFiles {fs : List FileEntry} (hfs : ∀ f ∈ fs, f.Listable) :
    parseFiles (encodeFiles fs) = .ok fs := by
  cases fs with
  | nil => rfl
  | cons f fs =>
    -- the list of some entries is not empty, and its pieces are the lines of the entries
    have hne : encodeFiles (f :: fs) ≠ "" := by
      intro h
      have := congrArg String.toList h
      rw [toList_encodeFiles, List.map_cons, f.toList_line] at this
      cases fs <;> simp at this
    have hpieces : splitOn '\n' (encodeFiles (f :: fs)).toList = (f :: fs).map fun g => g.line.toList := by
      rw [toList_encodeFiles]
      refine splitOn_intercalate (fun x hx => ?_) (by simp)
      obtain ⟨g, hg, rfl⟩ := List.mem_map.mp hx
      obtain ⟨-, hp, hd⟩ := hfs g hg
      simp [FileEntry.toList_line, hp, hd]
    rw [parseFiles, if_neg hne, hpieces]
    exact parseFileLines_lines (fun g hg => (hfs g hg).1) 1

/-- A list that reads is its pieces joined again. -/
theorem encodeFiles_of_parseFiles {l : String} {fs : List FileEntry} (h : parseFiles l = .ok fs) :
    encodeFiles fs = l := by
  unfold parseFiles at h
  split at h
  · rename_i hl
    cases h
    exact hl.symm
  · rw [← String.toList_inj, toList_encodeFiles, ← eq_lines_of_parseFileLines h, intercalate_splitOn]

theorem exists_parseFiles_error_iff (l : String) :
    (∃ e, parseFiles l = .error e) ↔ l ≠ "" ∧ ∃ line ∈ splitOn '\n' l.toList, '\t' ∉ line := by
  unfold parseFiles
  split
  · rename_i hl
    simp [hl]
  · rename_i hl
    rw [exists_parseFileLines_error_iff]
    simp [hl]

theorem parseFiles_eq_error_iff (l : String) (e : BadEntry) :
    parseFiles l = .error e ↔ l ≠ "" ∧
      ∃ good bad rest, splitOn '\n' l.toList = good ++ bad :: rest ∧ (∀ g ∈ good, '\t' ∈ g) ∧
        '\t' ∉ bad ∧ e = ⟨good.length + 1, String.ofList bad⟩ := by
  unfold parseFiles
  split
  · rename_i hl
    simp [hl]
  · rename_i hl
    rw [parseFileLines_eq_error_iff]
    simp [hl, Nat.add_comm 1]

/-- **Files lists and their entries are inverse.** Listable entries read back from their files
list; a list that reads is the files list of what it reads; reading fails iff the list is not empty
and some line has no tab, and then it names the first such line, counted from one, with its text. -/
theorem parseFiles_inverts_encoding :
    (∀ fs : List FileEntry, (∀ f ∈ fs, f.Listable) → parseFiles (encodeFiles fs) = .ok fs) ∧
    (∀ (l : String) (fs : List FileEntry), parseFiles l = .ok fs → encodeFiles fs = l) ∧
    (∀ l : String, (∃ e, parseFiles l = .error e) ↔ l ≠ "" ∧ ∃ line ∈ splitOn '\n' l.toList, '\t' ∉ line) ∧
    (∀ (l : String) (e : BadEntry), parseFiles l = .error e ↔ l ≠ "" ∧
      ∃ good bad rest, splitOn '\n' l.toList = good ++ bad :: rest ∧ (∀ g ∈ good, '\t' ∈ g) ∧
        '\t' ∉ bad ∧ e = ⟨good.length + 1, String.ofList bad⟩) :=
  ⟨fun _ hfs => parseFiles_encodeFiles hfs, fun _ _ h => encodeFiles_of_parseFiles h, exists_parseFiles_error_iff,
    parseFiles_eq_error_iff⟩

/-- A listable entry with a tab in its description and an entry with empty fields read back
from their files list. -/
theorem parseFiles_inverts_encoding_two_entries :
    (∀ f ∈ [⟨"/etc/widget.conf", "settings\tand defaults"⟩, ⟨"", ""⟩], FileEntry.Listable f) ∧
    parseFiles (encodeFiles [⟨"/etc/widget.conf", "settings\tand defaults"⟩, ⟨"", ""⟩]) =
      .ok [⟨"/etc/widget.conf", "settings\tand defaults"⟩, ⟨"", ""⟩] :=
  ⟨by decide, parseFiles_inverts_encoding.1 _ (by decide)⟩

end HelpMan.Page
