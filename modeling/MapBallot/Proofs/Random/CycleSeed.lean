import Mathlib.Algebra.Group.Nat.Defs
import Mathlib.Logic.Function.Basic
import MapBallot.Random.CycleSeed

/-!
# `MapBallot.Proofs.Random.CycleSeed` — one changed byte gives another seed

Each step of the hash can be taken back. A byte is mixed in by an exclusive or, which undoes itself, and then
the state is multiplied by an odd factor, which has an inverse modulo 2^64. So mixing in bytes maps the
states one to one, and two texts that differ in a single byte lead to different states: up to that byte
the states are the same, by it they are told apart, and what follows keeps them apart.

## Contents

* `Fnv.unstep`, `Fnv.unwrite` — the steps taken back; `Fnv.write_bijective`;
* `OneApart`, `OneApart.split` — lists that differ at one position; `Fnv.write_ne`;
* `byteAt`, `ByteApart` — words that differ in one byte; `oneApart_bytesOfWord`;
* `cycleSeed_separates` — seeds and rounds that differ in one byte give different seeds of cycles.
-/

namespace MapBallot

/-! ## Steps taken back -/

namespace Fnv

/-- The inverse of the factor modulo 2^64. -/
def inverse : UInt64 := 0xce965057aff6957b

theorem prime_mul_inverse : prime * inverse = 1 := by decide

theorem inverse_mul_prime : inverse * prime = 1 := by decide

/-- The state before a byte was mixed in. -/
def unstep (byte : UInt8) (state : UInt64) : UInt64 := (state * inverse) ^^^ byte.toUInt64

theorem unstep_step (state : UInt64) (byte : UInt8) : unstep byte (step state byte) = state := by
  unfold unstep step
  rw [UInt64.mul_assoc, prime_mul_inverse, UInt64.mul_one, UInt64.xor_assoc, UInt64.xor_self, UInt64.xor_zero]

theorem step_unstep (state : UInt64) (byte : UInt8) : step (unstep byte state) byte = state := by
  unfold unstep step
  rw [UInt64.xor_assoc, UInt64.xor_self, UInt64.xor_zero, UInt64.mul_assoc, inverse_mul_prime, UInt64.mul_one]

/-- A step tells the bytes apart. -/
theorem byte_eq_of_step {state : UInt64} {b c : UInt8} (same : step state b = step state c) : b = c := by
  have mixed : state ^^^ b.toUInt64 = state ^^^ c.toUInt64 := by
    have := congrArg (· * inverse) same
    simpa only [step, UInt64.mul_assoc, prime_mul_inverse, UInt64.mul_one] using this
  exact UInt8.toUInt64_inj.1 ((UInt64.xor_right_inj state).1 mixed)

theorem write_cons (state : UInt64) (byte : UInt8) (bytes : List UInt8) :
    write state (byte :: bytes) = write (step state byte) bytes := rfl

theorem write_append (state : UInt64) (xs ys : List UInt8) :
    write state (xs ++ ys) = write (write state xs) ys :=
  List.foldl_append

/-- The state before bytes were mixed in, the last one taken back first. -/
def unwrite (bytes : List UInt8) (state : UInt64) : UInt64 := bytes.foldr unstep state

theorem unwrite_cons (byte : UInt8) (bytes : List UInt8) (state : UInt64) :
    unwrite (byte :: bytes) state = unstep byte (unwrite bytes state) := rfl

theorem unwrite_write (bytes : List UInt8) (state : UInt64) : unwrite bytes (write state bytes) = state := by
  induction bytes generalizing state with
  | nil => rfl
  | cons byte bytes ih => rw [write_cons, unwrite_cons, ih, unstep_step]

theorem write_unwrite (bytes : List UInt8) (state : UInt64) : write (unwrite bytes state) bytes = state := by
  induction bytes generalizing state with
  | nil => rfl
  | cons byte bytes ih => rw [unwrite_cons, write_cons, step_unstep, ih]

/-- **Mixing in bytes maps the states one to one.** -/
theorem write_bijective (bytes : List UInt8) : Function.Bijective (write · bytes) :=
  Function.bijective_iff_has_inverse.2 ⟨unwrite bytes, unwrite_write bytes, write_unwrite bytes⟩

end Fnv

/-! ## One changed byte -/

/-- Two lists of one length differ at one position, and at no other. -/
structure OneApart {α : Type} (xs ys : List α) : Prop where
  length_eq : xs.length = ys.length
  position : ∃! i : Nat, xs[i]? ≠ ys[i]?

/-- Such lists are the same before and after that position. -/
theorem OneApart.split {α : Type} {xs ys : List α} (h : OneApart xs ys) :
    ∃ before x y after, x ≠ y ∧ xs = before ++ x :: after ∧ ys = before ++ y :: after := by
  obtain ⟨length, i, apart, only⟩ := h
  -- At every other index both have the same item, or both have none.
  have agree : ∀ j, j ≠ i → xs[j]? = ys[j]? := fun j other => not_not.1 fun differ => other (only j differ)
  have inXs : i < xs.length := by
    by_contra beyond
    rw [List.getElem?_eq_none (by omega), List.getElem?_eq_none (by omega)] at apart
    exact apart rfl
  have inYs : i < ys.length := length ▸ inXs
  have before : xs.take i = ys.take i := by
    refine List.ext_getElem? fun j => ?_
    rw [List.getElem?_take, List.getElem?_take]
    split
    · exact agree j (by omega)
    · rfl
  have after : xs.drop (i + 1) = ys.drop (i + 1) := by
    refine List.ext_getElem? fun j => ?_
    rw [List.getElem?_drop, List.getElem?_drop]
    exact agree _ (by omega)
  refine ⟨xs.take i, xs[i], ys[i], xs.drop (i + 1), ?_, ?_, ?_⟩
  · intro same
    rw [List.getElem?_eq_getElem inXs, List.getElem?_eq_getElem inYs, same] at apart
    exact apart rfl
  · rw [← List.drop_eq_getElem_cons inXs, List.take_append_drop]
  · rw [before, after, ← List.drop_eq_getElem_cons inYs, List.take_append_drop]

/-- Different items between the same ones make such lists. -/
theorem oneApart_of_ne {α : Type} {x y : α} (differ : x ≠ y) (before after : List α) :
    OneApart (before ++ x :: after) (before ++ y :: after) where
  length_eq := by
    rw [List.length_append, List.length_append, List.length_cons, List.length_cons]
  position := by
    refine ⟨before.length, by simpa using differ, fun i other => ?_⟩
    by_contra elsewhere
    refine other ?_
    rcases Nat.lt_or_gt_of_ne elsewhere with early | late
    · rw [List.getElem?_append_left early, List.getElem?_append_left early]
    · obtain ⟨k, rfl⟩ := Nat.exists_eq_add_of_lt late
      simp [List.getElem?_append_right, Nat.add_assoc]

namespace Fnv

variable {xs ys : List UInt8}

/-- **One changed byte leads to another state**, from any state. -/
theorem write_ne (apart : OneApart xs ys) (state : UInt64) : write state xs ≠ write state ys := by
  obtain ⟨before, x, y, after, differ, rfl, rfl⟩ := apart.split
  intro same
  rw [write_append, write_append, write_cons, write_cons] at same
  -- What follows is taken back, so the steps at the changed byte would have to agree.
  exact differ (byte_eq_of_step ((write_bijective after).injective same))

/-- So it does between other bytes. -/
theorem write_within_ne (apart : OneApart xs ys) (state : UInt64) (front back : List UInt8) :
    write state (front ++ (xs ++ back)) ≠ write state (front ++ (ys ++ back)) := by
  intro same
  rw [write_append, write_append, write_append, write_append] at same
  exact write_ne apart _ ((write_bijective back).injective same)

end Fnv

/-! ## Words -/

variable {u v : UInt64}

/-- The byte of a word at a place, counted from the lowest. -/
def byteAt (w : UInt64) (k : Nat) : Nat := w.toNat / 256 ^ k % 256

/-- Two words differ in one byte, and in no other. -/
def ByteApart (u v : UInt64) : Prop := ∃! k, byteAt u k ≠ byteAt v k

theorem byteAt_lt (w : UInt64) (k : Nat) : byteAt w k < 2 ^ 8 := Nat.mod_lt _ (by decide)

theorem byteAt_of_le (w : UInt64) {k : Nat} (beyond : 8 ≤ k) : byteAt w k = 0 := by
  have bound : w.toNat < 256 ^ k :=
    calc w.toNat < 256 ^ 8 := w.toNat_lt
      _ ≤ 256 ^ k := Nat.pow_le_pow_right (by decide) beyond
  rw [byteAt, Nat.div_eq_of_lt bound, Nat.zero_mod]

theorem toUInt8_shiftRight (w : UInt64) {k : Nat} (within : k < 8) :
    (w >>> UInt64.ofNat (8 * k)).toUInt8 = UInt8.ofNat (byteAt w k) := by
  have shift : (UInt64.ofNat (8 * k)).toNat % 64 = 8 * k := by
    rw [UInt64.toNat_ofNat']
    omega
  rw [← UInt8.toNat_inj, UInt64.toNat_toUInt8, UInt64.toNat_shiftRight, shift, Nat.shiftRight_eq_div_pow,
    Nat.pow_mul, UInt8.toNat_ofNat', byteAt]
  exact (Nat.mod_mod _ _).symm

/-- The bytes of a word are those at its eight places. -/
theorem bytesOfWord_eq (w : UInt64) :
    bytesOfWord w = (List.range 8).map fun k => UInt8.ofNat (byteAt w k) := by
  show ((List.range 8).map fun k => UInt64.ofNat (8 * k)).map _ = _
  rw [List.map_map]
  exact List.map_congr_left fun k within => toUInt8_shiftRight w (List.mem_range.1 within)

theorem getElem?_bytesOfWord_eq_iff (u v : UInt64) (k : Nat) :
    (bytesOfWord u)[k]? = (bytesOfWord v)[k]? ↔ byteAt u k = byteAt v k := by
  rw [bytesOfWord_eq, bytesOfWord_eq, List.getElem?_map, List.getElem?_map]
  by_cases within : k < 8
  · rw [List.getElem?_range within, Option.map_some, Option.map_some, Option.some_inj, ← UInt8.toNat_inj,
      UInt8.toNat_ofNat', UInt8.toNat_ofNat', Nat.mod_eq_of_lt (byteAt_lt u k), Nat.mod_eq_of_lt (byteAt_lt v k)]
  · have beyond : 8 ≤ k := Nat.not_lt.1 within
    rw [byteAt_of_le u beyond, byteAt_of_le v beyond, List.getElem?_eq_none (by simpa using beyond)]
    exact iff_of_true rfl rfl

theorem oneApart_bytesOfWord (apart : ByteApart u v) : OneApart (bytesOfWord u) (bytesOfWord v) :=
  ⟨rfl, (existsUnique_congr fun k => not_congr (getElem?_bytesOfWord_eq_iff u v k)).2 apart⟩

theorem lt_of_byteAt_ne {k : Nat} (differ : byteAt u k ≠ byteAt v k) : k < 8 := by
  by_contra within
  have beyond : 8 ≤ k := Nat.not_lt.1 within
  exact differ ((byteAt_of_le u beyond).trans (byteAt_of_le v beyond).symm)

/-- Only eight places have to be compared. -/
theorem byteApart_iff : ByteApart u v ↔ ∃ k : Fin 8, ∀ j : Fin 8, byteAt u j ≠ byteAt v j ↔ j = k := by
  constructor
  · rintro ⟨k, differ, only⟩
    refine ⟨⟨k, lt_of_byteAt_ne differ⟩, fun j => ⟨fun other => Fin.ext (only j other), ?_⟩⟩
    rintro rfl
    exact differ
  · rintro ⟨k, differ⟩
    refine ⟨k, (differ k).2 rfl, fun j other => ?_⟩
    exact congrArg Fin.val ((differ ⟨j, lt_of_byteAt_ne other⟩).1 other)

instance (u v : UInt64) : Decidable (ByteApart u v) := decidable_of_iff _ byteApart_iff.symm

/-! ## Seeds -/

/-- What is hashed after the configured seed depends on the round alone. -/
theorem exists_cycleBytes_eq (round : Option UInt64) :
    ∃ back, ∀ seed, cycleBytes seed round = [] ++ (bytesOfWord seed ++ back) := by
  cases round with
  | none => exact ⟨[0], fun _ => rfl⟩
  | some round => exact ⟨1 :: bytesOfWord round, fun _ => rfl⟩

/-- **One changed byte gives another seed.** Mixing in bytes maps the states of the hash one to one, so that
texts of one length that differ at one position lead from any state to different states. Hence rounds whose
indices differ in one byte have different seeds, and so have any rounds, or none, under configured seeds that
differ in one byte. -/
theorem cycleSeed_separates :
    (∀ bytes, Function.Bijective (Fnv.write · bytes)) ∧
    (∀ state (xs ys : List UInt8), OneApart xs ys → Fnv.write state xs ≠ Fnv.write state ys) ∧
    (∀ seed u v, ByteApart u v → cycleSeed seed (some u) ≠ cycleSeed seed (some v)) ∧
    ∀ round u v, ByteApart u v → cycleSeed u round ≠ cycleSeed v round := by
  refine ⟨Fnv.write_bijective, fun state xs ys apart => Fnv.write_ne apart state, ?_, ?_⟩
  · intro seed u v apart
    have front : ∀ w, cycleBytes seed (some w) = (bytesOfWord seed ++ [1]) ++ (bytesOfWord w ++ []) := by
      intro w
      rw [List.append_nil, List.append_assoc]
      rfl
    unfold cycleSeed
    rw [front, front]
    exact Fnv.write_within_ne (oneApart_bytesOfWord apart) _ _ _
  · intro round u v apart
    obtain ⟨back, hashed⟩ := exists_cycleBytes_eq round
    unfold cycleSeed
    rw [hashed, hashed]
    exact Fnv.write_within_ne (oneApart_bytesOfWord apart) _ _ _

/-- Two texts that differ in one byte, two indices that differ in their highest byte, and two configured seeds
that differ in their lowest. -/
theorem cycleSeed_separates_high :
    Fnv.write Fnv.start [102, 111, 121] ≠ Fnv.write Fnv.start [102, 97, 121] ∧
      cycleSeed 9 (some 3) ≠ cycleSeed 9 (some 0x0100000000000003) ∧
      cycleSeed 9 (some 3) ≠ cycleSeed 10 (some 3) ∧ cycleSeed 9 none ≠ cycleSeed 10 none := by
  obtain ⟨_, texts, rounds, seeds⟩ := cycleSeed_separates
  have differ : (111 : UInt8) ≠ 97 := by decide
  exact ⟨texts _ _ _ (oneApart_of_ne differ [102] [121]), rounds 9 3 0x0100000000000003 (by decide),
    seeds (some 3) 9 10 (by decide), seeds none 9 10 (by decide)⟩

end MapBallot
