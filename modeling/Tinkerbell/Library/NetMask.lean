import Mathlib.Data.List.Basic

/-!
Owns: the bits of a network mask, the length of a mask as the standard library
counts it, and that the count exists exactly for masks whose ones come first.
-/

namespace NetMask

def octetBits (octet : UInt8) : List Bool :=
  (List.range 8).map fun index => octet.toNat.testBit (7 - index)

def bits (mask : List UInt8) : List Bool := mask.flatMap octetBits

theorem bits_cons (octet : UInt8) (rest : List UInt8) :
    bits (octet :: rest) = octetBits octet ++ bits rest := rfl

def onesThenZeros (ones length : Nat) : List Bool :=
  List.replicate ones true ++ List.replicate (length - ones) false

/-- No bit that is set stands behind one that is not. -/
def OnesFirst (bits : List Bool) : Prop :=
  bits.Pairwise fun earlier later => later = true → earlier = true

theorem eq_replicate_false {bits : List Bool} (allClear : ∀ bit ∈ bits, bit = true → false = true) :
    bits = List.replicate bits.length false := by
  apply List.eq_replicate_of_mem
  intro bit member
  cases bit with
  | false => rfl
  | true => exact (allClear true member rfl).symm

theorem onesFirst_iff (bits : List Bool) :
    OnesFirst bits ↔ ∃ ones, ones ≤ bits.length ∧ bits = onesThenZeros ones bits.length := by
  constructor
  · intro onesFirst
    induction bits with
    | nil => exact ⟨0, Nat.le_refl 0, rfl⟩
    | cons bit _ ih =>
      have parts := List.pairwise_cons.mp onesFirst
      cases bit with
      | false =>
        refine ⟨0, Nat.zero_le _, ?_⟩
        conv_lhs => rw [eq_replicate_false parts.1]
        rfl
      | true =>
        obtain ⟨ones, bounded, isRest⟩ := ih parts.2
        refine ⟨ones + 1, Nat.succ_le_succ bounded, ?_⟩
        conv_lhs => rw [isRest]
        simp [onesThenZeros, List.replicate_succ]
  · rintro ⟨ones, -, isMask⟩
    rw [isMask, onesThenZeros, OnesFirst, List.pairwise_append]
    refine ⟨?_, ?_, ?_⟩
    · exact List.pairwise_replicate.mpr (Or.inr id)
    · exact List.pairwise_replicate.mpr (Or.inr id)
    · intro earlier isOne later _ _
      exact List.eq_of_mem_replicate isOne

def shiftOnes : Nat → UInt8 → Nat × UInt8
  | 0, octet => (0, octet)
  | fuel + 1, octet =>
    if octet &&& 128 ≠ 0 then
      let (ones, left) := shiftOnes fuel (octet <<< 1)
      (ones + 1, left)
    else (0, octet)

def simpleMaskLength : List UInt8 → Option Nat
  | [] => some 0
  | octet :: rest =>
    if octet = 255 then (simpleMaskLength rest).map (8 + ·)
    else
      let (ones, left) := shiftOnes 8 octet
      if left ≠ 0 then none
      else if rest.any (· ≠ 0) then none
      else some ones

def size (mask : List UInt8) : Nat × Nat :=
  match simpleMaskLength mask with
  | none => (0, 0)
  | some ones => (ones, 8 * mask.length)

theorem forall_octet {motive : UInt8 → Prop}
    (all : ∀ value : Fin 256, motive (UInt8.ofNat value.val)) (octet : UInt8) : motive octet := by
  have found := all ⟨octet.toNat, octet.toNat_lt⟩
  rwa [UInt8.ofNat_toNat] at found

instance decidableOnesFirst (bits : List Bool) : Decidable (OnesFirst bits) :=
  inferInstanceAs (Decidable (bits.Pairwise fun earlier later => later = true → earlier = true))

theorem shiftOnes_spec :
    ∀ octet : UInt8, octet ≠ 255 →
      ((shiftOnes 8 octet).2 = 0 →
        (shiftOnes 8 octet).1 ≤ 8 ∧ octetBits octet = onesThenZeros (shiftOnes 8 octet).1 8) ∧
      (OnesFirst (octetBits octet) → (shiftOnes 8 octet).2 = 0) ∧ false ∈ octetBits octet :=
  forall_octet (by decide +kernel)

theorem octet_eq_zero : ∀ octet : UInt8, true ∉ octetBits octet → octet = 0 :=
  forall_octet (by decide +kernel)

variable {mask : List UInt8}

theorem bits_of_all_zero (allZero : mask.any (· ≠ 0) = false) :
    bits mask = List.replicate (8 * mask.length) false := by
  induction mask with
  | nil => rfl
  | cons _ _ ih =>
    simp only [List.any_cons, Bool.or_eq_false_iff, decide_eq_false_iff_not, not_not]
      at allZero
    rw [bits_cons, ih allZero.2, allZero.1, List.length_cons, Nat.mul_succ,
      Nat.add_comm, ← List.replicate_append_replicate]
    rfl

theorem bits_of_simpleMaskLength {ones : Nat} (isLength : simpleMaskLength mask = some ones) :
    ones ≤ 8 * mask.length ∧ bits mask = onesThenZeros ones (8 * mask.length) := by
  induction mask generalizing ones with
  | nil =>
    cases isLength
    exact ⟨Nat.le_refl 0, rfl⟩
  | cons octet rest ih =>
    rw [simpleMaskLength] at isLength
    split at isLength
    · next isFull =>
      obtain ⟨later, isLater, isOnes⟩ := Option.map_eq_some_iff.mp isLength
      obtain ⟨_, isRest⟩ := ih isLater
      subst isOnes
      rw [List.length_cons]
      refine ⟨by omega, ?_⟩
      have sameZeros : 8 * (rest.length + 1) - (8 + later) = 8 * rest.length - later := by
        omega
      rw [bits_cons, isFull, isRest, onesThenZeros, onesThenZeros, sameZeros,
        ← List.replicate_append_replicate, List.append_assoc]
      rfl
    · next notFull =>
      dsimp only at isLength
      split at isLength
      · cases isLength
      · next nothingLeft =>
        split at isLength
        · cases isLength
        · next restZero =>
          obtain ⟨bounded, isOctet⟩ :=
            (shiftOnes_spec octet notFull).1 (not_not.mp nothingLeft)
          rw [Option.some.inj isLength] at bounded isOctet
          rw [List.length_cons]
          refine ⟨by omega, ?_⟩
          have zeros : 8 * (rest.length + 1) - ones = (8 - ones) + 8 * rest.length := by
            omega
          rw [bits_cons, isOctet, bits_of_all_zero (eq_false_of_ne_true restZero),
            onesThenZeros, onesThenZeros, zeros, ← List.replicate_append_replicate,
            List.append_assoc]

theorem simpleMaskLength_of_onesFirst (onesFirst : OnesFirst (bits mask)) :
    ∃ ones, simpleMaskLength mask = some ones := by
  induction mask with
  | nil => exact ⟨0, rfl⟩
  | cons octet rest ih =>
    rw [bits_cons, OnesFirst, List.pairwise_append] at onesFirst
    obtain ⟨octetOnesFirst, restOnesFirst, across⟩ := onesFirst
    rw [simpleMaskLength]
    split
    · obtain ⟨ones, isLength⟩ := ih restOnesFirst
      exact ⟨8 + ones, by rw [isLength]; rfl⟩
    · next notFull =>
      obtain ⟨-, nothingLeft, hasZero⟩ := shiftOnes_spec octet notFull
      -- the octet has a zero, so no later bit is set
      have restZero : rest.any (· ≠ 0) = false := by
        refine List.any_eq_false.mpr ?_
        intro later member isNonZero
        refine of_decide_eq_true isNonZero (octet_eq_zero later ?_)
        intro isSet
        have wasSet := across false hasZero true (List.mem_flatMap.mpr ⟨later, member, isSet⟩)
        cases wasSet rfl
      refine ⟨(shiftOnes 8 octet).1, ?_⟩
      dsimp only
      rw [if_neg (not_not.mpr (nothingLeft octetOnesFirst)), restZero]
      rfl

theorem bits_of_size (onesFirst : OnesFirst (bits mask)) :
    (size mask).1 ≤ 8 * mask.length ∧
      bits mask = onesThenZeros (size mask).1 (8 * mask.length) := by
  obtain ⟨_, isLength⟩ := simpleMaskLength_of_onesFirst onesFirst
  have found := bits_of_simpleMaskLength isLength
  rw [size, isLength]
  exact found

end NetMask
