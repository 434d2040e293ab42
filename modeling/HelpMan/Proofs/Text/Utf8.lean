import Mathlib.Tactic.SplitIfs
import HelpMan.Text.Utf8

/-!
# The UTF-8 reader

Bytes are UTF-8 when they are the encodings of characters one after another (`IsUtf8`, the
library's `ByteArray.IsValidUTF8` by `isUtf8_iff_isValidUTF8`), each encoding as the library
writes it (`String.utf8EncodeChar`). The reader of `HelpMan.Text` goes byte by byte; this module
shows that it reads exactly these encodings:

* from between encodings it takes the encoding of a character as that character and goes on after
  it (`readsAs_utf8EncodeChar`), so it finds nothing wrong on UTF-8 and reads it as the characters
  it encodes (`decode_encodings`);
* at every byte either the encoding of some character starts, or the reader refuses there
  (`startsChar_or_refused`);
* hence it finds nothing wrong exactly on UTF-8 (`firstInvalid_eq_none_iff`), and the place it
  reports otherwise is where the longest UTF-8 start of the bytes ends: before it the bytes are
  UTF-8, no encoding starts there, and no longer start is UTF-8 (`firstInvalid_eq_some`);
* so the bytes of a text are read as its characters (`decode_of_toByteArray`), and the whole length
  stands for "no place" exactly on valid bytes (`firstInvalid_getD_eq_length_iff`).

The first two are one case per width of an encoding; the bounds that the reader puts on the byte
after a lead byte (`secondRange`) are what keeps out overlong forms, surrogates and values above
`U+10FFFF`, so that the bytes it accepts are exactly the library's encodings.
-/

namespace HelpMan.Text

/-! ## One byte -/

theorem leadStep_eq (off : Nat) (b : UInt8) : leadStep off b =
    if b.toNat < 0x80 then .char (Char.ofNat b.toNat)
    else if b.toNat < 0xC2 then .refused
    else if b.toNat < 0xE0 then .more (.inside off 0x80 0xBF 1 (b.toNat % 32) 0)
    else if b.toNat < 0xF0 then .more (.inside off (secondRange b).1 (secondRange b).2 2 (b.toNat % 16) 0)
    else if b.toNat < 0xF5 then .more (.inside off (secondRange b).1 (secondRange b).2 3 (b.toNat % 8) 0)
    else .refused := by
  simp only [leadStep, UInt8.lt_iff_toNat_lt, UInt8.reduceToNat]

theorem step_between (off : Nat) (b : UInt8) : step .between off b = leadStep off b := rfl

theorem step_inside_eq (start off : Nat) (lo hi b : UInt8) (left acc seen : Nat) :
    step (.inside start lo hi left acc seen) off b =
      if lo.toNat ≤ b.toNat ∧ b.toNat ≤ hi.toNat then
        (if left ≤ 1 then .char (Char.ofNat (acc * 64 + b.toNat % 64))
        else .more (.inside start 0x80 0xBF (left - 1) (acc * 64 + b.toNat % 64) (seen + 1)))
      else .refused := by
  simp only [step, UInt8.le_iff_toNat_le, Bool.and_eq_true, decide_eq_true_eq]

theorem secondRange_fst (b : UInt8) :
    (secondRange b).1.toNat = if b.toNat = 0xE0 then 0xA0 else if b.toNat = 0xF0 then 0x90 else 0x80 := by
  simp only [secondRange, ← UInt8.toNat_inj, UInt8.reduceToNat]
  split_ifs <;> simp_all

theorem secondRange_snd (b : UInt8) :
    (secondRange b).2.toNat = if b.toNat = 0xED then 0x9F else if b.toNat = 0xF4 then 0x8F else 0xBF := by
  simp only [secondRange, ← UInt8.toNat_inj, UInt8.reduceToNat]
  split_ifs <;> simp_all

section Inside

variable {s off : Nat} {lo hi b : UInt8} {left acc seen : Nat} {rest : List UInt8}

theorem firstInvalidFrom_inside_refused (h : ¬ (lo.toNat ≤ b.toNat ∧ b.toNat ≤ hi.toNat)) :
    firstInvalidFrom (.inside s lo hi left acc seen) off (b :: rest) = some s := by
  simp only [firstInvalidFrom, step_inside_eq, if_neg h]
  rfl

theorem firstInvalidFrom_inside_more (h : lo.toNat ≤ b.toNat ∧ b.toNat ≤ hi.toNat) (hl : ¬ left ≤ 1) :
    firstInvalidFrom (.inside s lo hi left acc seen) off (b :: rest) =
      firstInvalidFrom (.inside s 0x80 0xBF (left - 1) (acc * 64 + b.toNat % 64) (seen + 1)) (off + 1) rest := by
  simp only [firstInvalidFrom, step_inside_eq, if_pos h, if_neg hl]

end Inside

/-! ## Whole encodings -/

/-- Reading `bs` from between encodings takes it as the one character `c` and goes on between
encodings after it, at any offset and whatever follows. -/
def ReadsAs (bs : List UInt8) (c : Char) : Prop :=
  ∀ off rest, firstInvalidFrom .between off (bs ++ rest) = firstInvalidFrom .between (off + bs.length) rest ∧
    decodeFrom .between (bs ++ rest) = c :: decodeFrom .between rest

section Read

variable {b0 b1 b2 b3 : UInt8}

theorem read_one (h : b0.toNat < 0x80) : ReadsAs [b0] (Char.ofNat b0.toNat) := fun off rest => by
  constructor <;> simp only [List.singleton_append, firstInvalidFrom, decodeFrom, step_between, leadStep_eq, if_pos h,
    List.length_singleton]

theorem read_two (h0 : 0xC2 ≤ b0.toNat ∧ b0.toNat < 0xE0) (h1 : 0x80 ≤ b1.toNat ∧ b1.toNat ≤ 0xBF) :
    ReadsAs [b0, b1] (Char.ofNat (b0.toNat % 32 * 64 + b1.toNat % 64)) := fun off rest => by
  constructor <;> simp only [List.cons_append, List.nil_append, firstInvalidFrom, decodeFrom, step_between,
    leadStep_eq, if_neg (show ¬ b0.toNat < 0x80 by omega), if_neg (show ¬ b0.toNat < 0xC2 by omega), if_pos h0.2,
    step_inside_eq, UInt8.reduceToNat, if_pos h1, if_pos (Nat.le_refl 1)]
  rfl

theorem read_three (h0 : 0xE0 ≤ b0.toNat ∧ b0.toNat < 0xF0)
    (h1 : (secondRange b0).1.toNat ≤ b1.toNat ∧ b1.toNat ≤ (secondRange b0).2.toNat)
    (h2 : 0x80 ≤ b2.toNat ∧ b2.toNat ≤ 0xBF) :
    ReadsAs [b0, b1, b2] (Char.ofNat ((b0.toNat % 16 * 64 + b1.toNat % 64) * 64 + b2.toNat % 64)) :=
  fun off rest => by
  constructor <;> simp only [List.cons_append, List.nil_append, firstInvalidFrom, decodeFrom, step_between,
    leadStep_eq, if_neg (show ¬ b0.toNat < 0x80 by omega), if_neg (show ¬ b0.toNat < 0xC2 by omega),
    if_neg (show ¬ b0.toNat < 0xE0 by omega), if_pos h0.2, step_inside_eq, UInt8.reduceToNat, if_pos h1, if_pos h2,
    if_neg (show ¬ 2 ≤ 1 by omega), if_pos (Nat.le_refl 1)]
  rfl

theorem read_four (h0 : 0xF0 ≤ b0.toNat ∧ b0.toNat < 0xF5)
    (h1 : (secondRange b0).1.toNat ≤ b1.toNat ∧ b1.toNat ≤ (secondRange b0).2.toNat)
    (h2 : 0x80 ≤ b2.toNat ∧ b2.toNat ≤ 0xBF) (h3 : 0x80 ≤ b3.toNat ∧ b3.toNat ≤ 0xBF) :
    ReadsAs [b0, b1, b2, b3]
      (Char.ofNat (((b0.toNat % 8 * 64 + b1.toNat % 64) * 64 + b2.toNat % 64) * 64 + b3.toNat % 64)) :=
  fun off rest => by
  constructor <;> simp only [List.cons_append, List.nil_append, firstInvalidFrom, decodeFrom, step_between,
    leadStep_eq, if_neg (show ¬ b0.toNat < 0x80 by omega), if_neg (show ¬ b0.toNat < 0xC2 by omega),
    if_neg (show ¬ b0.toNat < 0xE0 by omega), if_neg (show ¬ b0.toNat < 0xF0 by omega), if_pos h0.2,
    step_inside_eq, UInt8.reduceToNat, if_pos h1, if_pos h2, if_pos h3, if_neg (show ¬ 3 ≤ 1 by omega),
    if_neg (show ¬ 2 ≤ 1 by omega), if_pos (Nat.le_refl 1)]
  rfl

end Read

/-! ## The library's encodings -/

theorem charOfNat_toNat {n : Nat} (h : n.isValidChar) : (Char.ofNat n).toNat = n := by
  rw [Char.ofNat, dif_pos h]
  rfl

theorem ofNat_eq_of_toNat {n : Nat} {b : UInt8} (h : n = b.toNat) : UInt8.ofNat n = b := by
  rw [h, UInt8.ofNat_toNat]

section Encode

variable {c : Char}

theorem utf8EncodeChar_one (h : c.toNat ≤ 0x7F) : String.utf8EncodeChar c = [UInt8.ofNat c.toNat] := by
  simp only [String.utf8EncodeChar, Char.toNat_val, if_pos h]

theorem utf8EncodeChar_two (h1 : 0x7F < c.toNat) (h2 : c.toNat ≤ 0x7FF) :
    String.utf8EncodeChar c = [UInt8.ofNat (c.toNat / 64 % 32 + 0xC0), UInt8.ofNat (c.toNat % 64 + 0x80)] := by
  simp only [String.utf8EncodeChar, Char.toNat_val, if_neg (Nat.not_le.mpr h1), if_pos h2]

theorem utf8EncodeChar_three (h1 : 0x7FF < c.toNat) (h2 : c.toNat ≤ 0xFFFF) :
    String.utf8EncodeChar c = [UInt8.ofNat (c.toNat / 4096 % 16 + 0xE0), UInt8.ofNat (c.toNat / 64 % 64 + 0x80),
      UInt8.ofNat (c.toNat % 64 + 0x80)] := by
  simp only [String.utf8EncodeChar, Char.toNat_val, if_neg (show ¬ c.toNat ≤ 0x7F by omega),
    if_neg (Nat.not_le.mpr h1), if_pos h2]

theorem utf8EncodeChar_four (h : 0xFFFF < c.toNat) :
    String.utf8EncodeChar c = [UInt8.ofNat (c.toNat / 262144 % 8 + 0xF0), UInt8.ofNat (c.toNat / 4096 % 64 + 0x80),
      UInt8.ofNat (c.toNat / 64 % 64 + 0x80), UInt8.ofNat (c.toNat % 64 + 0x80)] := by
  simp only [String.utf8EncodeChar, Char.toNat_val, if_neg (show ¬ c.toNat ≤ 0x7F by omega),
    if_neg (show ¬ c.toNat ≤ 0x7FF by omega), if_neg (Nat.not_le.mpr h)]

/-- The replacement character is encoded as `EF BF BD`. -/
theorem utf8EncodeChar_replacement : String.utf8EncodeChar replacement = [0xEF, 0xBF, 0xBD] := rfl

theorem length_utf8EncodeChar_pos (c : Char) : 0 < (String.utf8EncodeChar c).length := by
  rw [String.length_utf8EncodeChar]
  exact c.utf8Size_pos

end Encode

/-! ## The reader at an encoding

From the encoding's side: the bytes the reader accepts for a character are that character's
encoding. -/

section Decode

variable {b0 b1 b2 b3 : UInt8}

theorem utf8EncodeChar_read_one (h : b0.toNat < 0x80) : String.utf8EncodeChar (Char.ofNat b0.toNat) = [b0] := by
  have hn : (Char.ofNat b0.toNat).toNat = b0.toNat := charOfNat_toNat (by simp [Nat.isValidChar]; omega)
  rw [utf8EncodeChar_one (by omega), hn, UInt8.ofNat_toNat]

theorem utf8EncodeChar_read_two (h0 : 0xC2 ≤ b0.toNat ∧ b0.toNat < 0xE0) (h1 : 0x80 ≤ b1.toNat ∧ b1.toNat ≤ 0xBF) :
    String.utf8EncodeChar (Char.ofNat (b0.toNat % 32 * 64 + b1.toNat % 64)) = [b0, b1] := by
  have hn : (Char.ofNat (b0.toNat % 32 * 64 + b1.toNat % 64)).toNat = b0.toNat % 32 * 64 + b1.toNat % 64 :=
    charOfNat_toNat (by simp [Nat.isValidChar]; omega)
  rw [utf8EncodeChar_two (by omega) (by omega), hn]
  simp only [List.cons.injEq, and_true]
  exact ⟨ofNat_eq_of_toNat (by omega), ofNat_eq_of_toNat (by omega)⟩

theorem utf8EncodeChar_read_three (h0 : 0xE0 ≤ b0.toNat ∧ b0.toNat < 0xF0)
    (h1 : (secondRange b0).1.toNat ≤ b1.toNat ∧ b1.toNat ≤ (secondRange b0).2.toNat)
    (h2 : 0x80 ≤ b2.toNat ∧ b2.toNat ≤ 0xBF) :
    String.utf8EncodeChar (Char.ofNat ((b0.toNat % 16 * 64 + b1.toNat % 64) * 64 + b2.toNat % 64)) = [b0, b1, b2] := by
  rw [secondRange_fst, secondRange_snd] at h1
  have hb1 : 0x80 ≤ b1.toNat ∧ b1.toNat ≤ 0xBF := by split_ifs at h1 <;> omega
  have hv : 0x800 ≤ (b0.toNat % 16 * 64 + b1.toNat % 64) * 64 + b2.toNat % 64 ∧
      (b0.toNat % 16 * 64 + b1.toNat % 64) * 64 + b2.toNat % 64 ≤ 0xFFFF ∧
      ((b0.toNat % 16 * 64 + b1.toNat % 64) * 64 + b2.toNat % 64 < 0xD800 ∨
        0xDFFF < (b0.toNat % 16 * 64 + b1.toNat % 64) * 64 + b2.toNat % 64) := by
    split_ifs at h1 <;> omega
  have hn := charOfNat_toNat (n := (b0.toNat % 16 * 64 + b1.toNat % 64) * 64 + b2.toNat % 64)
    (by simp only [Nat.isValidChar]; omega)
  rw [utf8EncodeChar_three (by omega) (by omega), hn]
  simp only [List.cons.injEq, and_true]
  exact ⟨ofNat_eq_of_toNat (by omega), ofNat_eq_of_toNat (by omega), ofNat_eq_of_toNat (by omega)⟩

theorem utf8EncodeChar_read_four (h0 : 0xF0 ≤ b0.toNat ∧ b0.toNat < 0xF5)
    (h1 : (secondRange b0).1.toNat ≤ b1.toNat ∧ b1.toNat ≤ (secondRange b0).2.toNat)
    (h2 : 0x80 ≤ b2.toNat ∧ b2.toNat ≤ 0xBF) (h3 : 0x80 ≤ b3.toNat ∧ b3.toNat ≤ 0xBF) :
    String.utf8EncodeChar (Char.ofNat (((b0.toNat % 8 * 64 + b1.toNat % 64) * 64 + b2.toNat % 64) * 64 +
      b3.toNat % 64)) = [b0, b1, b2, b3] := by
  rw [secondRange_fst, secondRange_snd] at h1
  have hb1 : 0x80 ≤ b1.toNat ∧ b1.toNat ≤ 0xBF := by split_ifs at h1 <;> omega
  have hv : 0x10000 ≤ ((b0.toNat % 8 * 64 + b1.toNat % 64) * 64 + b2.toNat % 64) * 64 + b3.toNat % 64 ∧
      ((b0.toNat % 8 * 64 + b1.toNat % 64) * 64 + b2.toNat % 64) * 64 + b3.toNat % 64 < 0x110000 := by
    split_ifs at h1 <;> omega
  have hn := charOfNat_toNat (n := ((b0.toNat % 8 * 64 + b1.toNat % 64) * 64 + b2.toNat % 64) * 64 + b3.toNat % 64)
    (by simp only [Nat.isValidChar]; omega)
  rw [utf8EncodeChar_four (by omega), hn]
  simp only [List.cons.injEq, and_true]
  exact ⟨ofNat_eq_of_toNat (by omega), ofNat_eq_of_toNat (by omega), ofNat_eq_of_toNat (by omega),
    ofNat_eq_of_toNat (by omega)⟩

end Decode

/-! From the reader's side: the encoding of a character is read as that character. -/

section Encoding

variable {c : Char}

theorem readsAs_utf8EncodeChar_one (h : c.toNat ≤ 0x7F) : ReadsAs (String.utf8EncodeChar c) c := by
  have hb := UInt8.toNat_ofNat_of_lt' (n := c.toNat) (by unfold UInt8.size; omega)
  have hr := @read_one (UInt8.ofNat c.toNat) (by omega)
  rwa [hb, Char.ofNat_toNat, ← utf8EncodeChar_one h] at hr

theorem readsAs_utf8EncodeChar_two (h1 : 0x7F < c.toNat) (h2 : c.toNat ≤ 0x7FF) :
    ReadsAs (String.utf8EncodeChar c) c := by
  have hb0 := UInt8.toNat_ofNat_of_lt' (n := c.toNat / 64 % 32 + 0xC0) (by unfold UInt8.size; omega)
  have hb1 := UInt8.toNat_ofNat_of_lt' (n := c.toNat % 64 + 0x80) (by unfold UInt8.size; omega)
  have hr := @read_two (UInt8.ofNat (c.toNat / 64 % 32 + 0xC0)) (UInt8.ofNat (c.toNat % 64 + 0x80))
    (by omega) (by omega)
  have hc : (c.toNat / 64 % 32 + 0xC0) % 32 * 64 + (c.toNat % 64 + 0x80) % 64 = c.toNat := by omega
  rwa [hb0, hb1, hc, Char.ofNat_toNat, ← utf8EncodeChar_two h1 h2] at hr

theorem readsAs_utf8EncodeChar_three (h1 : 0x7FF < c.toNat) (h2 : c.toNat ≤ 0xFFFF) :
    ReadsAs (String.utf8EncodeChar c) c := by
  have hv : c.toNat < 0xD800 ∨ (0xDFFF < c.toNat ∧ c.toNat < 0x110000) := c.valid
  have hb0 := UInt8.toNat_ofNat_of_lt' (n := c.toNat / 4096 % 16 + 0xE0) (by unfold UInt8.size; omega)
  have hb1 := UInt8.toNat_ofNat_of_lt' (n := c.toNat / 64 % 64 + 0x80) (by unfold UInt8.size; omega)
  have hb2 := UInt8.toNat_ofNat_of_lt' (n := c.toNat % 64 + 0x80) (by unfold UInt8.size; omega)
  have hsecond : (secondRange (UInt8.ofNat (c.toNat / 4096 % 16 + 0xE0))).1.toNat ≤
      (UInt8.ofNat (c.toNat / 64 % 64 + 0x80)).toNat ∧
      (UInt8.ofNat (c.toNat / 64 % 64 + 0x80)).toNat ≤
        (secondRange (UInt8.ofNat (c.toNat / 4096 % 16 + 0xE0))).2.toNat := by
    rw [secondRange_fst, secondRange_snd, hb0, hb1]
    split_ifs <;> omega
  have hr := @read_three _ _ (UInt8.ofNat (c.toNat % 64 + 0x80)) (by omega) hsecond (by omega)
  have hc : ((c.toNat / 4096 % 16 + 0xE0) % 16 * 64 + (c.toNat / 64 % 64 + 0x80) % 64) * 64 +
      (c.toNat % 64 + 0x80) % 64 = c.toNat := by omega
  rwa [hb0, hb1, hb2, hc, Char.ofNat_toNat, ← utf8EncodeChar_three h1 h2] at hr

theorem readsAs_utf8EncodeChar_four (h : 0xFFFF < c.toNat) : ReadsAs (String.utf8EncodeChar c) c := by
  have hv : c.toNat < 0xD800 ∨ (0xDFFF < c.toNat ∧ c.toNat < 0x110000) := c.valid
  have hb0 := UInt8.toNat_ofNat_of_lt' (n := c.toNat / 262144 % 8 + 0xF0) (by unfold UInt8.size; omega)
  have hb1 := UInt8.toNat_ofNat_of_lt' (n := c.toNat / 4096 % 64 + 0x80) (by unfold UInt8.size; omega)
  have hb2 := UInt8.toNat_ofNat_of_lt' (n := c.toNat / 64 % 64 + 0x80) (by unfold UInt8.size; omega)
  have hb3 := UInt8.toNat_ofNat_of_lt' (n := c.toNat % 64 + 0x80) (by unfold UInt8.size; omega)
  have hsecond : (secondRange (UInt8.ofNat (c.toNat / 262144 % 8 + 0xF0))).1.toNat ≤
      (UInt8.ofNat (c.toNat / 4096 % 64 + 0x80)).toNat ∧
      (UInt8.ofNat (c.toNat / 4096 % 64 + 0x80)).toNat ≤
        (secondRange (UInt8.ofNat (c.toNat / 262144 % 8 + 0xF0))).2.toNat := by
    rw [secondRange_fst, secondRange_snd, hb0, hb1]
    split_ifs <;> omega
  have hr := @read_four _ _ (UInt8.ofNat (c.toNat / 64 % 64 + 0x80)) (UInt8.ofNat (c.toNat % 64 + 0x80))
    (by omega) hsecond (by omega) (by omega)
  have hc : (((c.toNat / 262144 % 8 + 0xF0) % 8 * 64 + (c.toNat / 4096 % 64 + 0x80) % 64) * 64 +
      (c.toNat / 64 % 64 + 0x80) % 64) * 64 + (c.toNat % 64 + 0x80) % 64 = c.toNat := by omega
  rwa [hb0, hb1, hb2, hb3, hc, Char.ofNat_toNat, ← utf8EncodeChar_four h] at hr

/-- The reader takes the encoding of a character as that character, and goes on after it between
encodings. -/
theorem readsAs_utf8EncodeChar (c : Char) : ReadsAs (String.utf8EncodeChar c) c := by
  by_cases h1 : c.toNat ≤ 0x7F
  · exact readsAs_utf8EncodeChar_one h1
  by_cases h2 : c.toNat ≤ 0x7FF
  · exact readsAs_utf8EncodeChar_two (by omega) h2
  by_cases h3 : c.toNat ≤ 0xFFFF
  · exact readsAs_utf8EncodeChar_three (by omega) h3
  · exact readsAs_utf8EncodeChar_four (by omega)

end Encoding

/-! ## Where an encoding starts

At every byte either the encoding of a character starts, or the reader refuses there: one case
per kind of lead byte, then one per continuation byte that may be missing or out of range. -/

section Starts

variable {b0 : UInt8} {rest : List UInt8}

theorem startsChar_or_refused_two (h0 : 0xC2 ≤ b0.toNat ∧ b0.toNat < 0xE0) :
    (∃ c rest', b0 :: rest = String.utf8EncodeChar c ++ rest') ∨
      ∀ off, firstInvalidFrom .between off (b0 :: rest) = some off := by
  have hlead : ∀ off, firstInvalidFrom .between off (b0 :: rest) =
      firstInvalidFrom (.inside off 0x80 0xBF 1 (b0.toNat % 32) 0) (off + 1) rest := fun off => by
    simp only [firstInvalidFrom, step_between, leadStep_eq, if_neg (show ¬ b0.toNat < 0x80 by omega),
      if_neg (show ¬ b0.toNat < 0xC2 by omega), if_pos h0.2]
  rcases rest with _ | ⟨b1, rest⟩
  · exact .inr fun off => by rw [hlead]; rfl
  by_cases hb1 : 0x80 ≤ b1.toNat ∧ b1.toNat ≤ 0xBF
  · exact .inl ⟨_, rest, by rw [utf8EncodeChar_read_two h0 hb1]; rfl⟩
  · exact .inr fun off => by rw [hlead, firstInvalidFrom_inside_refused]; exact hb1

theorem startsChar_or_refused_three (h0 : 0xE0 ≤ b0.toNat ∧ b0.toNat < 0xF0) :
    (∃ c rest', b0 :: rest = String.utf8EncodeChar c ++ rest') ∨
      ∀ off, firstInvalidFrom .between off (b0 :: rest) = some off := by
  have hlead : ∀ off, firstInvalidFrom .between off (b0 :: rest) =
      firstInvalidFrom (.inside off (secondRange b0).1 (secondRange b0).2 2 (b0.toNat % 16) 0) (off + 1) rest :=
    fun off => by
      simp only [firstInvalidFrom, step_between, leadStep_eq, if_neg (show ¬ b0.toNat < 0x80 by omega),
        if_neg (show ¬ b0.toNat < 0xC2 by omega), if_neg (show ¬ b0.toNat < 0xE0 by omega), if_pos h0.2]
  rcases rest with _ | ⟨b1, rest⟩
  · exact .inr fun off => by rw [hlead]; rfl
  by_cases hb1 : (secondRange b0).1.toNat ≤ b1.toNat ∧ b1.toNat ≤ (secondRange b0).2.toNat
  · rcases rest with _ | ⟨b2, rest⟩
    · exact .inr fun off => by rw [hlead, firstInvalidFrom_inside_more hb1 (by omega)]; rfl
    by_cases hb2 : 0x80 ≤ b2.toNat ∧ b2.toNat ≤ 0xBF
    · exact .inl ⟨_, rest, by rw [utf8EncodeChar_read_three h0 hb1 hb2]; rfl⟩
    · exact .inr fun off => by
        rw [hlead, firstInvalidFrom_inside_more hb1 (by omega), firstInvalidFrom_inside_refused]
        exact hb2
  · exact .inr fun off => by rw [hlead, firstInvalidFrom_inside_refused hb1]

theorem startsChar_or_refused_four (h0 : 0xF0 ≤ b0.toNat ∧ b0.toNat < 0xF5) :
    (∃ c rest', b0 :: rest = String.utf8EncodeChar c ++ rest') ∨
      ∀ off, firstInvalidFrom .between off (b0 :: rest) = some off := by
  have hlead : ∀ off, firstInvalidFrom .between off (b0 :: rest) =
      firstInvalidFrom (.inside off (secondRange b0).1 (secondRange b0).2 3 (b0.toNat % 8) 0) (off + 1) rest :=
    fun off => by
      simp only [firstInvalidFrom, step_between, leadStep_eq, if_neg (show ¬ b0.toNat < 0x80 by omega),
        if_neg (show ¬ b0.toNat < 0xC2 by omega), if_neg (show ¬ b0.toNat < 0xE0 by omega),
        if_neg (show ¬ b0.toNat < 0xF0 by omega), if_pos h0.2]
  rcases rest with _ | ⟨b1, rest⟩
  · exact .inr fun off => by rw [hlead]; rfl
  by_cases hb1 : (secondRange b0).1.toNat ≤ b1.toNat ∧ b1.toNat ≤ (secondRange b0).2.toNat
  · rcases rest with _ | ⟨b2, rest⟩
    · exact .inr fun off => by rw [hlead, firstInvalidFrom_inside_more hb1 (by omega)]; rfl
    by_cases hb2 : 0x80 ≤ b2.toNat ∧ b2.toNat ≤ 0xBF
    · have hmore : ∀ off, firstInvalidFrom .between off (b0 :: b1 :: b2 :: rest) =
          firstInvalidFrom (.inside off 0x80 0xBF 1 (((b0.toNat % 8) * 64 + b1.toNat % 64) * 64 + b2.toNat % 64) 2)
            (off + 3) rest := fun off => by
        rw [hlead, firstInvalidFrom_inside_more hb1 (by omega), firstInvalidFrom_inside_more (by exact hb2) (by omega)]
      rcases rest with _ | ⟨b3, rest⟩
      · exact .inr fun off => by rw [hmore]; rfl
      by_cases hb3 : 0x80 ≤ b3.toNat ∧ b3.toNat ≤ 0xBF
      · exact .inl ⟨_, rest, by rw [utf8EncodeChar_read_four h0 hb1 hb2 hb3]; rfl⟩
      · exact .inr fun off => by rw [hmore, firstInvalidFrom_inside_refused]; exact hb3
    · exact .inr fun off => by
        rw [hlead, firstInvalidFrom_inside_more hb1 (by omega), firstInvalidFrom_inside_refused]
        exact hb2
  · exact .inr fun off => by rw [hlead, firstInvalidFrom_inside_refused hb1]

/-- At every byte the reader either takes the encoding of a character that starts there, or shows
that none does. -/
theorem startsChar_or_refused (b0 : UInt8) (rest : List UInt8) :
    (∃ c rest', b0 :: rest = String.utf8EncodeChar c ++ rest') ∨
      ∀ off, firstInvalidFrom .between off (b0 :: rest) = some off := by
  by_cases h1 : b0.toNat < 0x80
  · exact .inl ⟨_, rest, by rw [utf8EncodeChar_read_one h1]; rfl⟩
  by_cases h2 : b0.toNat < 0xC2
  · refine .inr fun off => ?_
    simp only [firstInvalidFrom, step_between, leadStep_eq, if_neg h1, if_pos h2]
    rfl
  by_cases h3 : b0.toNat < 0xE0
  · exact startsChar_or_refused_two ⟨by omega, h3⟩
  by_cases h4 : b0.toNat < 0xF0
  · exact startsChar_or_refused_three ⟨by omega, h4⟩
  by_cases h5 : b0.toNat < 0xF5
  · exact startsChar_or_refused_four ⟨by omega, h5⟩
  · refine .inr fun off => ?_
    simp only [firstInvalidFrom, step_between, leadStep_eq, if_neg h1, if_neg h2, if_neg h3, if_neg h4, if_neg h5]
    rfl

end Starts

/-! ## Whole runs -/

/-- Reading on inside an encoding keeps the place where the encoding started. -/
theorem start_of_step_more {p q : Pending} {off : Nat} {b : UInt8} (h : step p off b = .more q) :
    q.start (off + 1) = p.start off := by
  cases p with
  | between =>
    rw [step_between, leadStep_eq] at h
    split_ifs at h <;> cases h <;> rfl
  | inside s lo hi left acc seen =>
    rw [step_inside_eq] at h
    split_ifs at h
    cases h
    rfl

/-- The reader never reports a place before the encoding it is in. -/
theorem start_le_firstInvalidFrom {p : Pending} {off : Nat} {bs : List UInt8} {x : Nat}
    (hp : p.start off ≤ off) (h : firstInvalidFrom p off bs = some x) : p.start off ≤ x := by
  induction bs generalizing p off with
  | nil =>
    cases p with
    | between => cases h
    | inside s lo hi left acc seen =>
      cases h
      exact Nat.le_refl _
  | cons b rest ih =>
    cases hs : step p off b with
    | char c =>
      simp only [firstInvalidFrom, hs] at h
      have := ih (p := .between) (Nat.le_refl _) h
      simp only [Pending.start] at this
      omega
    | more q =>
      simp only [firstInvalidFrom, hs] at h
      rw [← start_of_step_more hs]
      exact ih (by rw [start_of_step_more hs]; omega) h
    | refused =>
      simp only [firstInvalidFrom, hs] at h
      cases h
      exact Nat.le_refl _

/-- Where the reader refuses at once, no encoding starts: it would be read as a character, and
the run would go past it. -/
theorem not_prefix_of_refused {bs : List UInt8} (h : ∀ off, firstInvalidFrom .between off bs = some off)
    (c : Char) : ¬ String.utf8EncodeChar c <+: bs := by
  rintro ⟨t, rfl⟩
  have hread := (readsAs_utf8EncodeChar c 0 t).1
  rw [h 0] at hread
  have hle := start_le_firstInvalidFrom (p := .between) (Nat.le_refl _) hread.symm
  have hpos := length_utf8EncodeChar_pos c
  simp only [Pending.start] at hle
  omega

/-- Bytes that are UTF-8: the encodings of characters, one after another. -/
def IsUtf8 (bs : List UInt8) : Prop := ∃ cs : List Char, cs.flatMap String.utf8EncodeChar = bs

/-- Bytes are UTF-8 exactly when the library calls them valid UTF-8. -/
theorem isUtf8_iff_isValidUTF8 {bs : List UInt8} : IsUtf8 bs ↔ bs.toByteArray.IsValidUTF8 := by
  constructor
  · rintro ⟨cs, rfl⟩
    exact ⟨cs, rfl⟩
  · rintro ⟨cs, hcs⟩
    exact ⟨cs, (List.toByteArray_inj.mp hcs).symm⟩

/-- The reader takes encodings of characters as those characters. -/
theorem read_encodings (cs : List Char) (rest : List UInt8) (off : Nat) :
    firstInvalidFrom .between off (cs.flatMap String.utf8EncodeChar ++ rest) =
      firstInvalidFrom .between (off + (cs.flatMap String.utf8EncodeChar).length) rest ∧
    decodeFrom .between (cs.flatMap String.utf8EncodeChar ++ rest) = cs ++ decodeFrom .between rest := by
  induction cs generalizing off with
  | nil => exact ⟨rfl, rfl⟩
  | cons c cs ih =>
    obtain ⟨hf, hd⟩ := readsAs_utf8EncodeChar c off (cs.flatMap String.utf8EncodeChar ++ rest)
    rw [List.flatMap_cons, List.append_assoc, hf, hd, (ih (off + (String.utf8EncodeChar c).length)).1, (ih off).2,
      List.length_append, Nat.add_assoc]
    exact ⟨rfl, rfl⟩

/-- What a run between encodings finds: nothing wrong only on UTF-8, and otherwise a place, no
earlier than where it starts and inside the bytes, before which the bytes are UTF-8 and where
no encoding starts. -/
theorem firstInvalidFrom_between (bs : List UInt8) (off : Nat) :
    (firstInvalidFrom .between off bs = none → IsUtf8 bs) ∧
    ∀ x, firstInvalidFrom .between off bs = some x →
      off ≤ x ∧ x < off + bs.length ∧ IsUtf8 (bs.take (x - off)) ∧
        ∀ c : Char, ¬ String.utf8EncodeChar c <+: bs.drop (x - off) := by
  -- induction on the length: each step takes the encoding of one character
  induction hn : bs.length using Nat.strongRecOn generalizing bs off with
  | _ n ih =>
  cases bs with
  | nil => exact ⟨fun _ => ⟨[], rfl⟩, fun x h => by cases h⟩
  | cons b0 rest =>
    rcases startsChar_or_refused b0 rest with ⟨c, rest', hsplit⟩ | hrefused
    · have hpos := length_utf8EncodeChar_pos c
      have hlt : rest'.length < n := by rw [← hn, hsplit, List.length_append]; omega
      obtain ⟨ihnone, ihsome⟩ := ih _ hlt rest' (off + (String.utf8EncodeChar c).length) rfl
      rw [hsplit, (readsAs_utf8EncodeChar c off rest').1]
      refine ⟨fun h => ?_, fun x h => ?_⟩
      · obtain ⟨cs, hcs⟩ := ihnone h
        exact ⟨c :: cs, by rw [List.flatMap_cons, hcs]⟩
      · obtain ⟨hle, hlt', ⟨cs, hcs⟩, hno⟩ := ihsome x h
        have hx : x - off = (String.utf8EncodeChar c).length + (x - (off + (String.utf8EncodeChar c).length)) := by
          omega
        refine ⟨by omega, by rw [← hn, hsplit, List.length_append]; omega, ⟨c :: cs, ?_⟩, ?_⟩
        · rw [hx, List.take_length_add_append, List.flatMap_cons, hcs]
        · rw [hx, List.drop_length_add_append]
          exact hno
    · rw [hrefused off]
      refine ⟨(fun h => by cases h), fun x h => ?_⟩
      cases h
      refine ⟨Nat.le_refl _, by rw [← hn]; simp, ⟨[], by simp⟩, ?_⟩
      rw [Nat.sub_self, List.drop_zero]
      exact not_prefix_of_refused hrefused

/-! ## The first place where no encoding starts -/

/-- Reading finds nothing wrong exactly on UTF-8. -/
theorem firstInvalid_eq_none_iff {bs : List UInt8} : firstInvalid bs = none ↔ IsUtf8 bs := by
  refine ⟨(firstInvalidFrom_between bs 0).1, fun ⟨cs, hcs⟩ => ?_⟩
  have h := (read_encodings cs [] 0).1
  rw [List.append_nil, hcs] at h
  rw [firstInvalid, h]
  rfl

/-- The characters read from UTF-8 are the characters it encodes. -/
theorem decode_encodings (cs : List Char) : decode (cs.flatMap String.utf8EncodeChar) = cs := by
  have h := (read_encodings cs [] 0).2
  rw [List.append_nil] at h
  rw [decode, h]
  exact List.append_nil cs

/-- The place that reading reports lies inside the bytes; before it they are UTF-8, no encoding
starts there, and no longer start of the bytes is UTF-8. -/
theorem firstInvalid_eq_some {bs : List UInt8} {x : Nat} (h : firstInvalid bs = some x) :
    x < bs.length ∧ IsUtf8 (bs.take x) ∧ (∀ c : Char, ¬ String.utf8EncodeChar c <+: bs.drop x) ∧
      ∀ k, x < k → k ≤ bs.length → ¬ IsUtf8 (bs.take k) := by
  obtain ⟨-, hlt, hvalid, hno⟩ := (firstInvalidFrom_between bs 0).2 x h
  rw [Nat.sub_zero] at hvalid hno
  refine ⟨by omega, hvalid, hno, fun k hxk hk ⟨cs', hcs'⟩ => ?_⟩
  -- a longer UTF-8 start would be read past the place, so an encoding would start there
  obtain ⟨cs0, hcs0⟩ := hvalid
  have hsplit : bs.take k = bs.take x ++ (bs.drop x).take (k - x) := by
    rw [← List.take_add, Nat.add_sub_cancel' (Nat.le_of_lt hxk)]
  have hlen : (cs0.flatMap String.utf8EncodeChar).length = x := by
    rw [hcs0, List.length_take]
    omega
  have hnone : firstInvalidFrom .between x ((bs.drop x).take (k - x)) = none := by
    have h1 := (read_encodings cs0 ((bs.drop x).take (k - x)) 0).1
    have h2 := (read_encodings cs' [] 0).1
    rw [Nat.zero_add, hlen, hcs0, ← hsplit] at h1
    rw [List.append_nil, hcs'] at h2
    rw [← h1, h2]
    rfl
  obtain ⟨cs'', hcs''⟩ := (firstInvalidFrom_between _ x).1 hnone
  cases cs'' with
  | nil =>
    have : ((bs.drop x).take (k - x)).length = 0 := by rw [← hcs'']; rfl
    rw [List.length_take, List.length_drop] at this
    omega
  | cons c cs'' =>
    refine hno c (List.IsPrefix.trans ⟨cs''.flatMap String.utf8EncodeChar, ?_⟩ (List.take_prefix (k - x) (bs.drop x)))
    rw [← hcs'', List.flatMap_cons]

/-- Bytes that are a text's encoding are read without fault, as the text's characters. -/
theorem decode_of_toByteArray {s : String} {b : List UInt8} (h : s.toByteArray = b.toByteArray) :
    firstInvalid b = none ∧ decode b = s.toList := by
  obtain ⟨cs, rfl⟩ := String.exists_eq_ofList s
  have hb : cs.flatMap String.utf8EncodeChar = b := by
    rw [← List.toByteArray_inj]
    exact h
  rw [← hb, String.toList_ofList]
  exact ⟨firstInvalid_eq_none_iff.mpr ⟨cs, rfl⟩, decode_encodings cs⟩

/-- Reading reports the whole length, as finding no place, exactly on valid UTF-8: a place it
finds lies inside the bytes. -/
theorem firstInvalid_getD_eq_length_iff (b : List UInt8) :
    (firstInvalid b).getD b.length = b.length ↔ b.toByteArray.IsValidUTF8 := by
  rw [← isUtf8_iff_isValidUTF8, ← firstInvalid_eq_none_iff]
  cases hx : firstInvalid b with
  | none => simp
  | some x =>
    have hlt := (firstInvalid_eq_some hx).1
    simp only [Option.getD_some, reduceCtorEq, iff_false]
    omega

end HelpMan.Text
