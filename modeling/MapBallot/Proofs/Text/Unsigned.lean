import Mathlib.Data.List.Induction
import Mathlib.Data.List.TakeWhile
import MapBallot.Text.Unsigned

/-!
# `MapBallot.Proofs.Text.Unsigned` — what is accepted as a number

A number can be typed with a plus sign and with leading zeros. The reader goes through the digits one by one
and stops at the first that makes the value too large, but the value only grows, so what counts is the value
of all digits with which the text begins.

## Contents

* `Numeral` — the ways to type a number;
* `unsigned`, `numeral_iff` — these are the nonempty runs of digits with its value;
* `readDigits_eq`, `parseUnsigned_eq` — what the reader makes of a text, in terms of its leading digits;
* `parseUnsigned_eq_ok_iff`, `Refused`, `parseUnsigned_eq_error_iff` — which texts are accepted, and why the
  others are not.
-/

namespace MapBallot.Text

/-- A way to type a number: its digits, with a plus sign or without, and with any number of zeros. -/
def Numeral (n : Nat) (cs : List Char) : Prop :=
  ∃ sign zeros, (sign = [] ∨ sign = ['+']) ∧ cs = sign ++ (List.replicate zeros '0' ++ Nat.toDigits 10 n)

/-! ## Digits -/

section

variable {ds : List Char} {c : Char} {n : Nat}

theorem digit_bounds (digit : c.isDigit = true) : '0'.toNat ≤ c.toNat ∧ c.toNat < '0'.toNat + 10 := by
  simp only [Char.isDigit, Bool.and_eq_true, decide_eq_true_eq, UInt32.le_iff_toNat_le] at digit
  exact ⟨digit.1, Nat.lt_succ_of_le digit.2⟩

/-- A digit is the one digit of its value. -/
theorem toDigits_of_digit (digit : c.isDigit = true) : Nat.toDigits 10 (c.toNat - '0'.toNat) = [c] := by
  obtain ⟨low, high⟩ := digit_bounds digit
  have named : ∀ k < 10, Nat.toDigits 10 k = [Char.ofNat ('0'.toNat + k)] := by decide
  rw [named _ (by omega), Nat.add_sub_cancel' low, Char.ofNat_toNat]

/-- More digits make no smaller value. -/
theorem le_ofDigitChars (ds : List Char) (n : Nat) : n ≤ Nat.ofDigitChars 10 ds n := by
  induction ds generalizing n with
  | nil => exact Nat.le_refl n
  | cons c ds ih =>
    rw [Nat.ofDigitChars_cons]
    exact Nat.le_trans (by omega) (ih _)

/-- **A run of digits spells its value**, after some zeros. -/
theorem exists_zeros (nonempty : ds ≠ []) (digits : ∀ c ∈ ds, c.isDigit = true) :
    ∃ zeros, ds = List.replicate zeros '0' ++ Nat.toDigits 10 (Nat.ofDigitChars 10 ds 0) := by
  -- The digits of a number end with its last one, so the induction is on the end of the run.
  induction ds using List.reverseRecOn with
  | nil => exact absurd rfl nonempty
  | append_singleton ds c ih =>
    obtain ⟨before, last⟩ := List.forall_mem_append.1 digits
    have digit : c.isDigit = true := last c (List.mem_singleton_self c)
    obtain ⟨low, high⟩ := digit_bounds digit
    rw [Nat.ofDigitChars_append, Nat.ofDigitChars_cons, Nat.ofDigitChars_nil]
    rcases ds with _ | ⟨d, ds⟩
    · refine ⟨0, ?_⟩
      rw [Nat.ofDigitChars_nil, Nat.mul_zero, Nat.zero_add, toDigits_of_digit digit]
      rfl
    · obtain ⟨zeros, spelt⟩ := ih (List.cons_ne_nil d ds) before
      rcases Nat.eq_zero_or_pos (Nat.ofDigitChars 10 (d :: ds) 0) with none | pos
      · -- All digits so far are zeros.
        refine ⟨zeros + 1, ?_⟩
        rw [none] at spelt ⊢
        rw [Nat.mul_zero, Nat.zero_add, toDigits_of_digit digit, spelt, List.replicate_succ']
        rfl
      · refine ⟨zeros, ?_⟩
        rw [← Nat.toDigits_append_toDigits (by decide) pos (by omega), toDigits_of_digit digit,
          ← List.append_assoc, ← spelt]

/-- The digits of a number after some zeros are digits. -/
theorem isDigit_of_mem_zeros {zeros : Nat} (mem : c ∈ List.replicate zeros '0' ++ Nat.toDigits 10 n) :
    c.isDigit = true := by
  rcases List.mem_append.1 mem with zero | digit
  · rw [List.eq_of_mem_replicate zero]
    rfl
  · exact Nat.isDigit_of_mem_toDigits (by decide) (by decide) digit

/-- The digits of a number after some zeros have its value. -/
theorem ofDigitChars_zeros (zeros n : Nat) :
    Nat.ofDigitChars 10 (List.replicate zeros '0' ++ Nat.toDigits 10 n) 0 = n := by
  rw [Nat.ofDigitChars_append, Nat.ofDigitChars_replicate_zero, Nat.mul_zero,
    Nat.ofDigitChars_ten_toDigits]

end

/-! ## Numerals -/

/-- A text without its plus sign. -/
def unsigned : List Char → List Char
  | '+' :: cs => cs
  | cs => cs

/-- The value of the digits with which a text begins, after its plus sign. -/
def leadingValue (cs : List Char) : Nat := Nat.ofDigitChars 10 ((unsigned cs).takeWhile Char.isDigit) 0

theorem leadingValue_of_digits {cs : List Char} (digits : ∀ c ∈ unsigned cs, c.isDigit = true) :
    leadingValue cs = Nat.ofDigitChars 10 (unsigned cs) 0 := by
  rw [leadingValue, List.takeWhile_eq_self_iff.2 digits]

theorem unsigned_of_digits {cs : List Char} (digits : ∀ c ∈ cs, c.isDigit = true) : unsigned cs = cs := by
  unfold unsigned
  split
  · next cs =>
    have plus := digits '+' List.mem_cons_self
    exact absurd plus (by decide)
  · rfl

/-- **The ways to type a number are the runs of digits with its value**, with a plus sign or without. -/
theorem numeral_iff {n : Nat} {cs : List Char} :
    Numeral n cs ↔
      (unsigned cs ≠ [] ∧ (unsigned cs).all Char.isDigit = true) ∧ leadingValue cs = n := by
  rw [List.all_eq_true]
  constructor
  · rintro ⟨sign, zeros, signed, rfl⟩
    have digits : ∀ c ∈ List.replicate zeros '0' ++ Nat.toDigits 10 n, c.isDigit = true :=
      fun _ => isDigit_of_mem_zeros
    have bare : unsigned (sign ++ (List.replicate zeros '0' ++ Nat.toDigits 10 n)) =
        List.replicate zeros '0' ++ Nat.toDigits 10 n := by
      rcases signed with rfl | rfl
      · exact unsigned_of_digits digits
      · rfl
    rw [← bare] at digits
    rw [leadingValue_of_digits digits, bare, ofDigitChars_zeros]
    rw [bare] at digits
    exact ⟨⟨by simp [Nat.toDigits_ne_nil], digits⟩, rfl⟩
  · rintro ⟨⟨nonempty, digits⟩, rfl⟩
    obtain ⟨zeros, spelt⟩ := exists_zeros nonempty digits
    rw [← leadingValue_of_digits digits] at spelt
    obtain ⟨sign, signed, whole⟩ : ∃ sign, (sign = [] ∨ sign = ['+']) ∧ cs = sign ++ unsigned cs := by
      unfold unsigned
      split
      · exact ⟨['+'], .inr rfl, rfl⟩
      · exact ⟨[], .inl rfl, rfl⟩
    exact ⟨sign, zeros, signed, spelt ▸ whole⟩

/-! ## The reader -/

section

variable {bound : Nat} {s : String}

/-- The reader stops early, but what it says is decided by the value of all leading digits. -/
theorem readDigits_eq {n : Nat} (fits : n < bound) (cs : List Char) :
    readDigits bound n cs =
      if bound ≤ Nat.ofDigitChars 10 (cs.takeWhile Char.isDigit) n then .error .tooLarge
      else if cs.takeWhile Char.isDigit = cs then .ok (Nat.ofDigitChars 10 cs n)
      else .error .invalidDigit := by
  induction cs generalizing n with
  | nil =>
    rw [List.takeWhile_nil, Nat.ofDigitChars_nil, if_neg (Nat.not_le.2 fits), if_pos rfl]
    rfl
  | cons c cs ih =>
    rw [readDigits]
    by_cases digit : c.isDigit = true
    · have value (ds : List Char) : Nat.ofDigitChars 10 (c :: ds) n =
          Nat.ofDigitChars 10 ds (n * 10 + (c.toNat - '0'.toNat)) := by
        rw [Nat.ofDigitChars_cons, Nat.mul_comm]
      rw [if_pos digit, List.takeWhile_cons_of_pos digit, value, value]
      simp only [List.cons_inj_right]
      split
      · next next => exact ih next
      · next exceeds =>
        -- No digit that follows makes the value smaller.
        rw [if_pos (Nat.le_trans (Nat.not_lt.1 exceeds) (le_ofDigitChars _ _))]
    · rw [if_neg digit, List.takeWhile_cons_of_neg digit, Nat.ofDigitChars_nil, if_neg (Nat.not_le.2 fits),
        if_neg nofun]

/-- What the reader makes of a text. -/
theorem parseUnsigned_eq (room : 0 < bound) (s : String) :
    parseUnsigned bound s =
      if s.toList = [] then .error .empty
      else if bound ≤ leadingValue s.toList then .error .tooLarge
      else if unsigned s.toList ≠ [] ∧ (unsigned s.toList).all Char.isDigit = true then
        .ok (leadingValue s.toList)
      else .error .invalidDigit := by
  have digits (cs : List Char) (nonempty : cs ≠ []) :
      readDigits bound 0 cs =
        if bound ≤ Nat.ofDigitChars 10 (cs.takeWhile Char.isDigit) 0 then .error .tooLarge
        else if cs ≠ [] ∧ cs.all Char.isDigit = true then
          .ok (Nat.ofDigitChars 10 (cs.takeWhile Char.isDigit) 0)
        else .error .invalidDigit := by
    rw [readDigits_eq room]
    simp only [List.takeWhile_eq_self_iff, List.all_eq_true, and_iff_right nonempty]
    split_ifs with exceeds all
    · rfl
    · rw [List.takeWhile_eq_self_iff.2 all]
    · rfl
  unfold parseUnsigned leadingValue
  split
  · next none => rw [none, if_pos rfl]
  · next plus =>
    have small : ¬ bound ≤ Nat.ofDigitChars 10 ((unsigned ['+']).takeWhile Char.isDigit) 0 := Nat.not_le.2 room
    rw [plus, if_neg nofun, if_neg small, if_neg fun h => h.1 rfl]
  · next cs alone signed =>
    have nonempty : cs ≠ [] := alone
    rw [signed, if_neg nofun]
    exact digits cs nonempty
  · next cs none plus other =>
    have bare : unsigned s.toList = s.toList := by
      unfold unsigned
      split
      · next ds signed => exact absurd signed (other ds)
      · rfl
    rw [if_neg none, bare]
    exact digits _ none

/-- **The texts that are accepted are the ways to type a number below the bound.** -/
theorem parseUnsigned_eq_ok_iff (room : 0 < bound) {n : Nat} :
    parseUnsigned bound s = .ok n ↔ n < bound ∧ Numeral n s.toList := by
  rw [parseUnsigned_eq room, numeral_iff]
  split_ifs with none exceeds digits
  · exact iff_of_false nofun fun ⟨_, ⟨nonempty, _⟩, _⟩ => nonempty (by rw [none]; rfl)
  · refine iff_of_false nofun ?_
    rintro ⟨fits, _, rfl⟩
    exact Nat.not_le.2 fits exceeds
  · rw [Except.ok.injEq, and_iff_right digits]
    exact ⟨fun same => ⟨same ▸ Nat.not_le.1 exceeds, same⟩, And.right⟩
  · exact iff_of_false nofun fun ⟨_, typed, _⟩ => digits typed

/-- Why a text is not accepted as a number below a bound. -/
inductive Refused (bound : Nat) (cs : List Char) : UnsignedFault → Prop
  | empty (nothing : cs = []) : Refused bound cs .empty
  | tooLarge (exceeds : bound ≤ leadingValue cs) : Refused bound cs .tooLarge
  /-- Something else stands where a digit should, and the digits before it fit. -/
  | invalidDigit (typed : cs ≠ []) (fits : leadingValue cs < bound) (other : ∀ n, ¬ Numeral n cs) :
    Refused bound cs .invalidDigit

/-- There is one reason at most. -/
theorem Refused.unique {cs : List Char} {fault fault' : UnsignedFault} (room : 0 < bound)
    (h : Refused bound cs fault) (h' : Refused bound cs fault') : fault = fault' := by
  have something (exceeds : bound ≤ leadingValue cs) : cs ≠ [] := by
    rintro rfl
    exact Nat.not_le.2 room exceeds
  cases h with
  | empty nothing =>
    cases h' with
    | empty => rfl
    | tooLarge exceeds => exact absurd nothing (something exceeds)
    | invalidDigit typed => exact absurd nothing typed
  | tooLarge exceeds =>
    cases h' with
    | empty nothing => exact absurd nothing (something exceeds)
    | tooLarge => rfl
    | invalidDigit _ fits => exact absurd exceeds (Nat.not_le.2 fits)
  | invalidDigit typed fits =>
    cases h' with
    | empty nothing => exact absurd nothing typed
    | tooLarge exceeds => exact absurd exceeds (Nat.not_le.2 fits)
    | invalidDigit => rfl

/-- What is refused is no number below the bound. -/
theorem Refused.not_numeral {cs : List Char} {fault : UnsignedFault} {n : Nat} (h : Refused bound cs fault)
    (fits : n < bound) : ¬ Numeral n cs := by
  intro numeral
  cases h with
  | empty nothing =>
    subst nothing
    exact (numeral_iff.1 numeral).1.1 rfl
  | tooLarge exceeds => exact Nat.not_le.2 fits ((numeral_iff.1 numeral).2 ▸ exceeds)
  | invalidDigit _ _ other => exact other n numeral

/-- **Every other text is refused for the first thing that is wrong with it.** -/
theorem parseUnsigned_eq_error_iff (room : 0 < bound) {fault : UnsignedFault} :
    parseUnsigned bound s = .error fault ↔ Refused bound s.toList fault := by
  have refused {fault : UnsignedFault} (error : parseUnsigned bound s = .error fault) :
      Refused bound s.toList fault := by
    rw [parseUnsigned_eq room] at error
    split_ifs at error with none exceeds digits
    · obtain rfl := Except.error.inj error
      exact .empty none
    · obtain rfl := Except.error.inj error
      exact .tooLarge exceeds
    · obtain rfl := Except.error.inj error
      exact .invalidDigit none (Nat.not_le.1 exceeds) fun n numeral => digits (numeral_iff.1 numeral).1
  refine ⟨refused, fun h => ?_⟩
  cases parsed : parseUnsigned bound s with
  | ok n =>
    obtain ⟨fits, numeral⟩ := (parseUnsigned_eq_ok_iff room).1 parsed
    exact absurd numeral (h.not_numeral fits)
  | error fault' => rw [(refused parsed).unique room h]

end

end MapBallot.Text
