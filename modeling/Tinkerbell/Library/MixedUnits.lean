import Mathlib.Data.List.Basic

/-!
Owns: an amount in units of different sizes, the largest first, with the units
left out that it has none of.

A front of the parts rounds the amount down, by less than the last unit of the front
(`front_rounds_down`). All parts together make the whole amount if the last unit measures
it (`value_parts`).
-/

namespace MixedUnits

variable {ν : Type*}

structure UnitCount (ν : Type*) where
  (count size : Int)
  unit : ν

def value : List (UnitCount ν) → Int
  | [] => 0
  | part :: rest => part.count * part.size + value rest

def parts : Int → List (Int × ν) → List (UnitCount ν)
  | _, [] => []
  | amount, (size, unit) :: units =>
    let rest := parts (amount.tmod size) units
    if 0 < amount.tdiv size then ⟨amount.tdiv size, size, unit⟩ :: rest else rest

variable {amount size : Int} {unit : ν} {units : List (Int × ν)}

theorem unit_of_mem_parts {part : UnitCount ν} (member : part ∈ parts amount units) :
    0 < part.count ∧ (part.size, part.unit) ∈ units := by
  induction units generalizing amount with
  | nil => cases member
  | cons _ _ ih =>
    rw [parts] at member
    split at member
    · next isPositive =>
      rcases List.mem_cons.mp member with rfl | later
      · exact ⟨isPositive, List.mem_cons_self⟩
      · exact ⟨(ih later).1, List.mem_cons_of_mem _ (ih later).2⟩
    · exact ⟨(ih member).1, List.mem_cons_of_mem _ (ih member).2⟩

theorem sizes_sublist (amount : Int) (units : List (Int × ν)) :
    ((parts amount units).map UnitCount.size).Sublist (units.map Prod.fst) := by
  induction units generalizing amount with
  | nil => exact List.Sublist.slnil
  | cons _ _ ih =>
    rw [parts]
    split
    · exact (ih _).cons_cons _
    · exact (ih _).cons _

theorem tmod_of_none (nonneg : 0 ≤ amount) (none : ¬0 < amount.tdiv size) (positive : 0 < size) :
    amount.tmod size = amount := by
  have whole := Int.tmod_add_tdiv_mul amount size
  have isZero : amount.tdiv size = 0 :=
    Int.le_antisymm (Int.not_lt.mp none) (Int.tdiv_nonneg nonneg (Int.le_of_lt positive))
  rw [isZero] at whole
  omega

theorem front_rounds_down (nonneg : 0 ≤ amount) (positive : ∀ unit ∈ units, 0 < unit.1)
    (count : Nat) :
    value ((parts amount units).take count) ≤ amount ∧
      ∀ last ∈ ((parts amount units).take count).getLast?,
        amount < value ((parts amount units).take count) + last.size := by
  induction units generalizing amount count with
  | nil => simpa [parts, value] using nonneg
  | cons first units ih =>
    obtain ⟨size, unit⟩ := first
    have sizePositive : 0 < size := positive _ List.mem_cons_self
    have left := Int.tmod_nonneg size nonneg
    have rounds := fun count =>
      ih left (fun unit member => positive unit (List.mem_cons_of_mem _ member)) count
    rw [parts]
    split
    · cases count with
      | zero => simpa [value] using nonneg
      | succ count =>
        have whole := Int.tmod_add_tdiv_mul amount size
        have below := Int.tmod_lt_of_pos amount sizePositive
        obtain ⟨_, short⟩ := rounds count
        rw [List.take_succ_cons]
        dsimp only [value]
        refine ⟨by omega, ?_⟩
        intro last isLast
        cases isRest : (parts (amount.tmod size) units).take count with
        | nil =>
          rw [isRest] at isLast
          cases isLast
          dsimp only [value, List.getLast_singleton]
          omega
        | cons =>
          rw [isRest, List.getLast?_cons_cons] at isLast
          rw [isRest] at short
          have shortfall := short last isLast
          omega
    · next none =>
      have isLeft := tmod_of_none nonneg none sizePositive
      rw [isLeft] at rounds ⊢
      exact rounds count

theorem value_parts (nonneg : 0 ≤ amount) (positive : ∀ unit ∈ units, 0 < unit.1)
    (measures : units.getLast?.map Prod.fst = some 1) : value (parts amount units) = amount := by
  induction units generalizing amount with
  | nil => cases measures
  | cons first units ih =>
    obtain ⟨size, unit⟩ := first
    have sizePositive : 0 < size := positive _ List.mem_cons_self
    have whole := Int.tmod_add_tdiv_mul amount size
    have rest : value (parts (amount.tmod size) units) = amount.tmod size := by
      cases units with
      | nil =>
        cases measures
        exact (Int.tmod_one amount).symm
      | cons =>
        exact ih (Int.tmod_nonneg size nonneg)
          (fun unit member => positive unit (List.mem_cons_of_mem _ member)) measures
    rw [parts]
    split
    · dsimp only [value]
      omega
    · next none =>
      rw [rest]
      exact tmod_of_none nonneg none sizePositive

end MixedUnits
