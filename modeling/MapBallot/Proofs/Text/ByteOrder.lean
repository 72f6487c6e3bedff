import Mathlib.Data.String.Basic

/-!
# `MapBallot.Proofs.Text.ByteOrder` — the order of texts is the order of their bytes

Texts are compared character by character. Their UTF-8 bytes, compared one by one, are in the same
order: the first byte of a character grows with its number of bytes, and characters with equally many
bytes have the digits of their code points there, the highest first.

## Contents

* `Text.bytes` — the bytes of a text;
* `bytes_lt_iff` — texts and their bytes are in the same order.
-/

namespace MapBallot.Text

/-- The bytes of a text. -/
def bytes (s : String) : List UInt8 := s.toUTF8.data.toList

theorem bytes_eq_flatMap (s : String) : bytes s = s.toList.flatMap String.utf8EncodeChar := by
  have encoded : s.toUTF8 = s.toList.utf8Encode := String.utf8Encode_toList.symm
  rw [bytes, encoded, List.utf8Encode, List.data_toByteArray]

/-- A number below another is below it at the first of their digits that differ. -/
theorem digit_lt {m n : Nat} (b : Nat) (h : m < n) :
    m / b < n / b ∨ (m / b = n / b ∧ m % b < n % b) := by
  rcases Nat.lt_or_eq_of_le (Nat.div_le_div_right (c := b) (Nat.le_of_lt h)) with less | same
  · exact .inl less
  · have whole := Nat.div_add_mod m b
    have whole' := Nat.div_add_mod n b
    rw [same] at whole
    exact .inr ⟨same, by omega⟩

/-- A smaller character has smaller bytes, whatever comes behind. -/
theorem encodeChar_append_lt {c d : Char} (h : c < d) (bs bs' : List UInt8) :
    String.utf8EncodeChar c ++ bs < String.utf8EncodeChar d ++ bs' := by
  have less : c.val.toNat < d.val.toNat := UInt32.lt_iff_toNat_lt.1 h
  have small : d.val.toNat < 0x110000 := by
    rcases d.valid with valid | ⟨_, valid⟩ <;> omega
  unfold String.utf8EncodeChar
  dsimp only
  generalize c.val.toNat = m at less
  generalize d.val.toNat = n at less small
  have digits := digit_lt 64 less
  have digits' : m / 64 < n / 64 → m / 4096 < n / 4096 ∨
      (m / 4096 = n / 4096 ∧ m / 64 % 64 < n / 64 % 64) := by
    intro above
    have := digit_lt 64 above
    rwa [Nat.div_div_eq_div_mul, Nat.div_div_eq_div_mul] at this
  have digits'' : m / 4096 < n / 4096 → m / 262144 < n / 262144 ∨
      (m / 262144 = n / 262144 ∧ m / 4096 % 64 < n / 4096 % 64) := by
    intro above
    have := digit_lt 64 above
    rwa [Nat.div_div_eq_div_mul, Nat.div_div_eq_div_mul] at this
  -- One case for each number of bytes of either character.
  split_ifs <;>
    simp only [List.cons_append, List.nil_append, List.cons_lt_cons_iff, UInt8.lt_iff_toNat_lt,
      ← UInt8.toNat_inj, UInt8.toNat_ofNat'] <;>
    simp (disch := omega) only [Nat.mod_eq_of_lt] <;>
    omega

theorem flatMap_encodeChar_lt {cs ds : List Char} (h : cs < ds) :
    cs.flatMap String.utf8EncodeChar < ds.flatMap String.utf8EncodeChar := by
  induction h with
  | @nil d ds =>
    have nonempty : (d :: ds).flatMap String.utf8EncodeChar ≠ [] := by simp
    obtain ⟨b, bs, h⟩ := List.exists_cons_of_ne_nil nonempty
    rw [h]
    exact List.nil_lt_cons b bs
  | rel h => exact encodeChar_append_lt h _ _
  | @cons c cs ds _ ih =>
    rw [List.flatMap_cons, List.flatMap_cons]
    exact List.append_left_lt ih

/-- **Texts are in the order of their bytes.** -/
theorem bytes_lt_iff {s t : String} : bytes s < bytes t ↔ s < t := by
  have grows : ∀ {s t : String}, s < t → bytes s < bytes t := by
    intro s t h
    rw [bytes_eq_flatMap, bytes_eq_flatMap]
    exact flatMap_encodeChar_lt (String.lt_iff_toList_lt.1 h)
  refine ⟨fun h => ?_, grows⟩
  rcases lt_trichotomy s t with before | rfl | after
  · exact before
  · exact absurd h (List.lt_irrefl _)
  · exact absurd h (List.lt_asymm (grows after))

end MapBallot.Text
