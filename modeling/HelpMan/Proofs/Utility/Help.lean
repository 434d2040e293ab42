import HelpMan.Utility.Invoke
import HelpMan.Proofs.Text.Utf8

/-!
# Reading a utility's help

Asking a utility for its help (`askHelp`) runs it once with the help arguments and leaves the
state that run leaves (`askHelp_state`). What it answers has three outcomes, one lemma each: the
run's failure, a refusal of output that is not UTF-8 at the place the reader finds, or the text
read and trimmed (`askHelp_of_error`, `askHelp_of_invalid`, `askHelp_of_valid`).

With the reader's theory (`HelpMan.Proofs.Text.Utf8`) these give what the answer is for every
output (`askHelp_validates_utf8`): output is read exactly when the library calls it valid UTF-8,
as the text it encodes, and otherwise refused at the end of its longest valid start.
-/

namespace HelpMan.Utility

open Text

section Outcomes

variable {σ : Type} (run : Runner σ) (logger : Log.Logger) (command subcommand : String) (st : σ)

/-- Asking a utility for its help leaves the state its one run leaves. -/
theorem askHelp_state :
    (askHelp run logger command subcommand st).2 = (run command (helpArgs subcommand) st).2 := by
  unfold askHelp
  -- every branch hands back the state the run left
  rcases hrun : run command (helpArgs subcommand) st with ⟨out, st'⟩
  simp only
  split
  · simp [hrun]
  · split <;> simp [hrun]

variable {run logger command subcommand st}

theorem askHelp_of_error {e : Failure} (h : (run command (helpArgs subcommand) st).1 = .error e) :
    (askHelp run logger command subcommand st).1.result = .error e := by
  unfold askHelp
  rcases hrun : run command (helpArgs subcommand) st with ⟨out, st'⟩
  rw [hrun] at h
  cases h
  simp only [hrun]

theorem askHelp_of_invalid {b : List UInt8} {x : Nat} (h : (run command (helpArgs subcommand) st).1 = .ok b)
    (hx : firstInvalid b = some x) :
    (askHelp run logger command subcommand st).1.result = .error (.undecodable (command :: helpArgs subcommand) x) := by
  unfold askHelp
  rcases hrun : run command (helpArgs subcommand) st with ⟨out, st'⟩
  rw [hrun] at h
  cases h
  simp only [hrun, hx]

theorem askHelp_of_valid {b : List UInt8} (h : (run command (helpArgs subcommand) st).1 = .ok b)
    (hv : firstInvalid b = none) :
    (askHelp run logger command subcommand st).1.result = .ok (String.ofList (trimBlank (decode b))) := by
  unfold askHelp
  rcases hrun : run command (helpArgs subcommand) st with ⟨out, st'⟩
  rw [hrun] at h
  cases h
  simp only [hrun, hv]

end Outcomes

/-! ## Output that is UTF-8 and output that is not -/

/-- **Help output is read exactly when it is UTF-8.** Asking for help runs the utility once,
with the help arguments, and leaves the state that run left; a failed run's failure comes back
unchanged. Output that encodes a text comes back as that text trimmed of blanks. Any other output
is refused at a place inside it where the longest valid start of the output ends: the output is
valid before it, no encoding starts at it (not even the replacement character's `EF BF BD`), and
no longer start is valid. Reading finds such a place on every output that is not valid, and on
no other. -/
theorem askHelp_validates_utf8 {σ : Type} (run : Runner σ) (logger : Log.Logger) (command subcommand : String)
    (st : σ) :
    (askHelp run logger command subcommand st).2 = (run command (helpArgs subcommand) st).2 ∧
    (∀ e, (run command (helpArgs subcommand) st).1 = .error e →
      (askHelp run logger command subcommand st).1.result = .error e) ∧
    (∀ b, (run command (helpArgs subcommand) st).1 = .ok b →
      (∀ s : String, s.toByteArray = b.toByteArray →
        (askHelp run logger command subcommand st).1.result = .ok s.trimBlank) ∧
      (¬ b.toByteArray.IsValidUTF8 → ∃ x,
        (askHelp run logger command subcommand st).1.result =
          .error (.undecodable (command :: helpArgs subcommand) x) ∧
        x < b.length ∧ (b.take x).toByteArray.IsValidUTF8 ∧
        (∀ c : Char, ¬ String.utf8EncodeChar c <+: b.drop x) ∧ ¬ [0xEF, 0xBF, 0xBD] <+: b.drop x ∧
        ∀ k, x < k → k ≤ b.length → ¬ (b.take k).toByteArray.IsValidUTF8)) ∧
    ∀ b : List UInt8, (firstInvalid b).getD b.length = b.length ↔ b.toByteArray.IsValidUTF8 := by
  refine ⟨askHelp_state run logger command subcommand st, fun e h => askHelp_of_error h, fun b h => ⟨?_, ?_⟩,
    firstInvalid_getD_eq_length_iff⟩
  · intro s hs
    obtain ⟨hnone, hdecode⟩ := decode_of_toByteArray hs
    rw [askHelp_of_valid h hnone, hdecode]
    rfl
  · intro hbad
    -- the reader finds a place, since it finds none only on valid output
    obtain ⟨x, hx⟩ : ∃ x, firstInvalid b = some x := by
      cases hx : firstInvalid b with
      | none => exact absurd (isUtf8_iff_isValidUTF8.mp (firstInvalid_eq_none_iff.mp hx)) hbad
      | some x => exact ⟨x, rfl⟩
    obtain ⟨hlt, hvalid, hno, hlonger⟩ := firstInvalid_eq_some hx
    refine ⟨x, askHelp_of_invalid h hx, hlt, isUtf8_iff_isValidUTF8.mp hvalid, hno, ?_,
      fun k hxk hk hk' => hlonger k hxk hk (isUtf8_iff_isValidUTF8.mpr hk')⟩
    rw [← utf8EncodeChar_replacement]
    exact hno replacement

/-- A help run whose output breaks off at a byte that no encoding starts with is refused. -/
theorem askHelp_validates_utf8_bad_byte :
    ¬ ([0x6F, 0x6B, 0xFF] : List UInt8).toByteArray.IsValidUTF8 ∧
    ∃ x, (askHelp (fun _ _ st => (.ok [0x6F, 0x6B, 0xFF], st)) Log.Logger.discard "widget" "" ()).1.result =
      .error (.undecodable ["widget", "help"] x) ∧ x < 3 := by
  have hspec := askHelp_validates_utf8 (fun _ _ st => (.ok [0x6F, 0x6B, 0xFF], st)) Log.Logger.discard "widget" "" ()
  have hbad : ¬ ([0x6F, 0x6B, 0xFF] : List UInt8).toByteArray.IsValidUTF8 := fun h => by
    have hlen := (hspec.2.2.2 [0x6F, 0x6B, 0xFF]).mpr h
    revert hlen
    decide
  obtain ⟨x, hx, hlt, -⟩ := (hspec.2.2.1 _ rfl).2 hbad
  exact ⟨hbad, x, hx, hlt⟩

end HelpMan.Utility
