import MapBallot.Proofs.Json.Spelling

/-!
# `MapBallot.Proofs.Json.OneLine` — a document on one line

Replies are documents on lines of their own, so a document that is printed on one line must not break
it, whatever texts and numbers it holds. Nothing that is printed is a control character: those of texts
are escaped, and numbers, names and brackets have none.

## Contents

* `OneLine` — texts without control characters; `OneLine.append`, `oneLine_join`, `oneLine_intercalate`;
* `oneLine_printString`, `oneLine_printNumber` — the leaves;
* `oneLine_print` — documents.
-/

namespace MapBallot

namespace Json

/-- A text without control characters. No line ends in it. -/
def OneLine (s : String) : Prop := ∀ c ∈ s.toList, 0x20 ≤ c.toNat

instance (s : String) : Decidable (OneLine s) :=
  List.decidableBAll (fun c : Char => 0x20 ≤ c.toNat) s.toList

theorem OneLine.not_mem {s : String} (h : OneLine s) : '\n' ∉ s.toList :=
  fun mem => absurd (h '\n' mem) (by decide)

theorem oneLine_ofList {cs : List Char} (h : ∀ c ∈ cs, 0x20 ≤ c.toNat) :
    OneLine (String.ofList cs) := by
  unfold OneLine
  rwa [String.toList_ofList]

theorem oneLine_singleton {c : Char} (h : 0x20 ≤ c.toNat) : OneLine (String.singleton c) := by
  unfold OneLine
  rw [String.toList_singleton]
  exact List.forall_mem_singleton.2 h

theorem OneLine.append {s t : String} (hs : OneLine s) (ht : OneLine t) : OneLine (s ++ t) := by
  unfold OneLine
  rw [String.toList_append]
  exact List.forall_mem_append.2 ⟨hs, ht⟩

theorem oneLine_join {ss : List String} (h : ∀ s ∈ ss, OneLine s) : OneLine (String.join ss) := by
  intro c mem
  rw [String.toList_join, List.mem_flatMap] at mem
  obtain ⟨s, among, mem⟩ := mem
  exact h s among c mem

theorem oneLine_intercalate {sep : String} (hsep : OneLine sep) {ss : List String}
    (h : ∀ s ∈ ss, OneLine s) : OneLine (sep.intercalate ss) := by
  induction ss with
  | nil => exact nofun
  | cons s ss ih =>
    obtain ⟨first, others⟩ := List.forall_mem_cons.1 h
    cases ss with
    | nil => rwa [String.intercalate_singleton]
    | cons next ss =>
      rw [String.intercalate_cons_cons]
      exact (first.append hsep).append (ih others)

/-! ## Texts -/

/-- The escape of a control character is plain. -/
theorem oneLine_escape : ∀ n < 32,
    OneLine ("\\u00" ++ (if n < 16 then "0" else "") ++ Text.hexDigits n) := by
  decide

theorem oneLine_printChar (c : Char) : OneLine (printChar c) := by
  by_cases simple : c ∈ ['"', '\\', '\n', '\r', '\t', '\x08', '\x0c']
  · simp only [List.mem_cons, List.not_mem_nil, or_false] at simple
    rcases simple with rfl | rfl | rfl | rfl | rfl | rfl | rfl <;> decide
  simp only [List.mem_cons, List.not_mem_nil, or_false, not_or] at simple
  obtain ⟨quote, backslash, newline, back, tab, backspace, page⟩ := simple
  have eight : c.toNat ≠ 8 := fun h => backspace (Char.toNat_inj.1 h)
  have twelve : c.toNat ≠ 12 := fun h => page (Char.toNat_inj.1 h)
  unfold printChar
  simp only [beq_iff_eq, quote, backslash, newline, back, tab, eight, twelve, if_false]
  by_cases control : c.toNat < 0x20
  · rw [if_pos control]
    exact oneLine_escape c.toNat control
  · rw [if_neg control]
    exact oneLine_singleton (Nat.le_of_not_lt control)

theorem oneLine_printString (s : String) : OneLine (printString s) := by
  have quote : OneLine "\"" := by decide
  have inner : OneLine (String.join (s.toList.map printChar)) :=
    oneLine_join (List.forall_mem_map.2 fun c _ => oneLine_printChar c)
  exact (quote.append inner).append quote

/-! ## Numbers -/

theorem digits_toDigits (n : Nat) : ∀ c ∈ Nat.toDigits 10 n, 0x20 ≤ c.toNat := by
  intro c mem
  have digit := Nat.isDigit_of_mem_toDigits (by decide) (by decide) mem
  rw [Char.isDigit_iff_toNat] at digit
  exact Nat.le_trans (by decide) digit.1

theorem digits_replicate (n : Nat) : ∀ c ∈ List.replicate n '0', 0x20 ≤ c.toNat := by
  intro c mem
  rw [List.eq_of_mem_replicate mem]
  decide

theorem oneLine_toString (z : Int) : OneLine (toString z) := by
  unfold OneLine
  cases z with
  | ofNat n =>
    rw [toList_ofNat]
    exact digits_toDigits n
  | negSucc n =>
    rw [toList_negSucc]
    exact List.forall_mem_cons.2 ⟨by decide, digits_toDigits (n + 1)⟩

theorem oneLine_positional (d : Decimal.Digits) : OneLine d.positional := by
  unfold Decimal.Digits.positional
  dsimp only
  by_cases whole : 0 ≤ d.exponent
  · rw [if_pos whole]
    exact oneLine_ofList (List.forall_mem_append.2 ⟨digits_toDigits d.digits, digits_replicate _⟩)
  · rw [if_neg whole]
    have point : OneLine "." := by decide
    have padded := List.forall_mem_append.2
      ⟨digits_replicate ((-d.exponent).toNat + 1 - (Nat.toDigits 10 d.digits).length),
        digits_toDigits d.digits⟩
    exact ((oneLine_ofList fun c mem => padded c (List.mem_of_mem_take mem)).append point).append
      (oneLine_ofList fun c mem => padded c (List.mem_of_mem_drop mem))

theorem oneLine_printDigits (d : Decimal.Digits) : OneLine (printDigits d) := by
  have fraction : OneLine ".0" := by decide
  have point : OneLine "." := by decide
  have marker : OneLine "e" := by decide
  have digits := digits_toDigits d.digits
  unfold printDigits
  dsimp only
  split
  · split
    · exact (oneLine_positional d).append fraction
    · exact oneLine_positional d
  split
  · exact oneLine_positional d
  have exponent := marker.append (oneLine_toString ((Nat.toDigits 10 d.digits).length + d.exponent - 1))
  split
  · next single =>
    rw [single] at digits
    exact (oneLine_singleton (digits _ (.head _))).append exponent
  · next several =>
    rw [several] at digits
    obtain ⟨first, rest⟩ := List.forall_mem_cons.1 digits
    exact (((oneLine_singleton first).append point).append (oneLine_ofList rest)).append exponent
  · decide

theorem oneLine_printNumber (n : Number) : OneLine (printNumber n) := by
  cases n with
  | integer z => exact oneLine_toString z
  | real x =>
    unfold printNumber
    dsimp only
    split
    · decide
    · next b _ =>
      refine OneLine.append ?sign ?magnitude
      case sign => split <;> decide
      case magnitude =>
        split
        · decide
        · exact oneLine_printDigits b.shortest

/-! ## Documents -/

mutual

/-- **A document is printed on one line.** -/
theorem oneLine_print : ∀ j : Json, OneLine (print j)
  | .null => by decide
  | .bool b => by cases b <;> decide
  | .number n => oneLine_printNumber n
  | .string s => oneLine_printString s
  | .array items => by
    rw [print]
    have comma : OneLine "," := by decide
    have between := oneLine_intercalate comma (oneLine_printItems items)
    exact (OneLine.append (by decide) between).append (by decide)
  | .object members => by
    rw [print]
    have comma : OneLine "," := by decide
    have between := oneLine_intercalate comma (oneLine_printMembers members)
    exact (OneLine.append (by decide) between).append (by decide)

theorem oneLine_printItems : ∀ items : List Json, ∀ part ∈ printItems items, OneLine part
  | [] => nofun
  | item :: items => List.forall_mem_cons.2 ⟨oneLine_print item, oneLine_printItems items⟩

theorem oneLine_printMembers : ∀ members : List (String × Json),
    ∀ part ∈ printMembers members, OneLine part
  | [] => nofun
  | (name, value) :: members => by
    have colon : OneLine ":" := by decide
    exact List.forall_mem_cons.2
      ⟨((oneLine_printString name).append colon).append (oneLine_print value),
        oneLine_printMembers members⟩

end

end Json

end MapBallot
