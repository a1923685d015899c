import Tinkerbell.Api.Time
import Tinkerbell.Library.MixedUnits

/-!
Owns: durations for people: `humanDuration`, and how it rounds.

The divisions leave the parts of the duration in its units, and the precision a front
of them (`durationParts_eq`).
-/

namespace Tinkerbell.Agent

open Api
open MixedUnits (UnitCount)

def durationUnits : List (Duration × String) :=
  [(3600 * second, "h"), (60 * second, "m"), (second, "s"), (1000000, "ms"), (1000, "us"),
    (1, "ns")]

/-- The divisions by the units that are left, and the check before each append; `shown` are the
parts so far. -/
def durationParts (precision : Int) :
    Duration → List (Duration × String) → List (UnitCount String) → List (UnitCount String)
  | _, [], shown => shown
  | nanos, (size, unit) :: units, shown =>
    let count := nanos.tdiv size
    durationParts precision (nanos.tmod size) units
      (if 0 < count ∧ shown.length < precision then shown ++ [⟨count, size, unit⟩] else shown)

def partText (part : UnitCount String) : String := toString part.count ++ part.unit

def shownParts (duration : Duration) (precision : Int) : List (UnitCount String) :=
  durationParts precision duration durationUnits []

def humanDuration (duration : Duration) (precision : Int) : String :=
  String.join ((shownParts duration precision).map partText)

theorem durationParts_eq (precision : Int) (nanos : Duration) (units : List (Duration × String))
    (shown : List (UnitCount String)) :
    durationParts precision nanos units shown =
      shown ++ (MixedUnits.parts nanos units).take (precision - shown.length).toNat := by
  induction units generalizing nanos shown with
  | nil => simp [durationParts, MixedUnits.parts]
  | cons first _ ih =>
    rw [durationParts, MixedUnits.parts, ih]
    by_cases isPositive : 0 < nanos.tdiv first.1
    · by_cases hasRoom : shown.length < precision
      · have room : (precision - shown.length).toNat =
            (precision - (shown.length + 1 : Nat)).toNat + 1 := by omega
        rw [if_pos ⟨isPositive, hasRoom⟩, if_pos isPositive, room, List.take_succ_cons,
          List.length_append, List.length_singleton, List.append_assoc, List.singleton_append]
      · have noRoom : (precision - shown.length).toNat = 0 := by omega
        rw [if_neg fun both => hasRoom both.2, noRoom, List.take_zero, List.take_zero]
    · rw [if_neg fun both => isPositive both.1, if_neg isPositive]

/-- What is shown of a duration: at most so many units, each smaller than the one before, which
fall short of the duration by less than the last of them, and by nothing if there are fewer. -/
structure RoundsDown (duration : Duration) (precision : Int) (shown : List (UnitCount String)) :
    Prop where
  atMost : (shown.length : Int) ≤ max precision 0
  decreasing : (shown.map UnitCount.size).Pairwise (· > ·)
  counted : ∀ part ∈ shown, 0 < part.count ∧ (part.size, part.unit) ∈ durationUnits
  notMore : MixedUnits.value shown ≤ duration
  short : ∀ last ∈ shown.getLast?, duration - MixedUnits.value shown < last.size
  exact : shown.length < precision → MixedUnits.value shown = duration

theorem durationUnits_positive : ∀ unit ∈ durationUnits, 0 < unit.1 := by
  decide

/-- Only a precision below zero shows more units than it says: none. -/
theorem human_durations_round_down {duration : Duration} (nonneg : 0 ≤ duration)
    (precision : Int) :
    humanDuration duration precision =
        String.join ((shownParts duration precision).map partText) ∧
      RoundsDown duration precision (shownParts duration precision) := by
  refine ⟨rfl, ?_⟩
  have isFront : shownParts duration precision =
      (MixedUnits.parts duration durationUnits).take precision.toNat := by
    simp [shownParts, durationParts_eq]
  have rounds := MixedUnits.front_rounds_down nonneg durationUnits_positive precision.toNat
  rw [isFront]
  refine ⟨?_, ?_, ?_, rounds.1, ?_, ?_⟩
  · have bound := List.length_take_le precision.toNat (MixedUnits.parts duration durationUnits)
    omega
  · have sizes : (durationUnits.map Prod.fst).Pairwise (· > ·) := by decide
    rw [List.map_take]
    exact (sizes.sublist (MixedUnits.sizes_sublist duration durationUnits)).take
  · intro part member
    exact MixedUnits.unit_of_mem_parts (List.mem_of_mem_take member)
  · intro last isLast
    exact Int.sub_left_lt_of_lt_add (rounds.2 last isLast)
  · intro fewer
    rw [List.length_take] at fewer
    rw [List.take_of_length_le (by omega)]
    exact MixedUnits.value_parts nonneg durationUnits_positive rfl

theorem human_durations_round_down_minutes :
    humanDuration (90 * second) 1 = "1m" ∧
      RoundsDown (90 * second) 1 (shownParts (90 * second) 1) := by
  have rounds := human_durations_round_down (by decide : (0 : Int) ≤ 90 * second) 1
  exact ⟨by decide +kernel, rounds.2⟩

theorem negative_precision_shows_none :
    shownParts second (-1) = [] ∧ ¬((shownParts second (-1)).length : Int) ≤ -1 := by
  decide

end Tinkerbell.Agent
