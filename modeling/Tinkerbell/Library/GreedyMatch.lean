import Mathlib.Data.List.Basic

/-!
Owns: matching a pattern behind the longest possible front of a list, as a
greedy repetition in front of the pattern does, and the pattern of separated
fields of fixed widths.

Such a pattern matches only where there is room for it, so that the one that
ends the list is found, whatever else the front holds
(`splitLast_of_endsIn`).
-/

namespace GreedyMatch

universe u v

variable {α : Type u} {β : Type v}

def splitLast (isBreak : α → Bool) (pattern : List α → Option β) :
    List α → Option (List α × β)
  | [] => (pattern []).map ([], ·)
  | head :: rest =>
    match (if isBreak head then none else splitLast isBreak pattern rest) with
    | some (front, found) => some (head :: front, found)
    | none => (pattern (head :: rest)).map ([], ·)

/-- Fields of the given widths, each behind a separator; what comes after them is not
looked at. -/
def fields [DecidableEq α] (separator : α) (accepts : α → Bool) :
    List Nat → List α → Option (List (List α))
  | [], _ => some []
  | _ :: _, [] => none
  | width :: widths, head :: rest =>
    if head = separator ∧ width ≤ rest.length ∧ (rest.take width).all accepts then
      (fields separator accepts widths (rest.drop width)).map (rest.take width :: ·)
    else none

def room : List Nat → Nat
  | [] => 0
  | width :: widths => width + 1 + room widths

section Front

variable {isBreak : α → Bool} {pattern : List α → Option β} {width : Nat}
  (needsRoom : ∀ text, text.length < width → pattern text = none)

include needsRoom

theorem splitLast_eq_none {text : List α} (short : text.length < width) :
    splitLast isBreak pattern text = none := by
  induction text with
  | nil => rw [splitLast, needsRoom [] short, Option.map_none]
  | cons head rest ih =>
    have shorter : rest.length < width := by
      rw [List.length_cons] at short
      omega
    have noRest : (if isBreak head then none else splitLast isBreak pattern rest) = none := by
      split
      · rfl
      · exact ih shorter
    rw [splitLast, noRest, needsRoom _ short]
    rfl

theorem splitLast_of_endsIn {front tail : List α} {found : β}
    (noBreak : ∀ element ∈ front, isBreak element = false)
    (isFound : pattern tail = some found) (fills : tail.length = width) :
    splitLast isBreak pattern (front ++ tail) = some (front, found) := by
  induction front with
  | nil =>
    cases tail with
    | nil => rw [List.append_nil, splitLast, isFound, Option.map_some]
    | cons head rest =>
      have shorter : rest.length < width := by
        rw [List.length_cons] at fills
        omega
      have noRest : (if isBreak head then none else splitLast isBreak pattern rest) = none := by
        split
        · rfl
        · exact splitLast_eq_none needsRoom shorter
      rw [List.nil_append, splitLast, noRest, isFound]
      rfl
  | cons head _ ih =>
    have passes := noBreak head (by simp)
    have found := ih fun element member => noBreak element (by simp [member])
    rw [List.cons_append, splitLast, passes, if_neg Bool.false_ne_true, found]

end Front

section Fields

variable [DecidableEq α] {separator : α} {accepts : α → Bool}

theorem fields_eq_none {widths : List Nat} {text : List α} (short : text.length < room widths) :
    fields separator accepts widths text = none := by
  induction widths generalizing text with
  | nil => exact absurd short (Nat.not_lt_zero _)
  | cons width widths ih =>
    cases text with
    | nil => rfl
    | cons _ rest =>
      unfold fields
      split
      · next _ =>
        have shorter : (rest.drop width).length < room widths := by
          rw [room, List.length_cons] at short
          rw [List.length_drop]
          omega
        rw [ih shorter, Option.map_none]
      · rfl

theorem fields_separated {values : List (List α)}
    (accepted : ∀ value ∈ values, value.all accepts = true) :
    fields separator accepts (values.map List.length) (values.flatMap (separator :: ·)) =
      some values := by
  induction values with
  | nil => rfl
  | cons value _ ih =>
    have later := ih fun other member => accepted other (by simp [member])
    rw [List.map_cons, List.flatMap_cons, List.cons_append, fields, List.take_left,
      List.drop_left, later, if_pos ⟨rfl, by simp, accepted value (by simp)⟩]
    rfl

end Fields

theorem length_separated (separator : α) (values : List (List α)) :
    (values.flatMap (separator :: ·)).length = room (values.map List.length) := by
  induction values with
  | nil => rfl
  | cons _ _ ih =>
    rw [List.flatMap_cons, List.length_append, ih, List.map_cons, room, List.length_cons]

end GreedyMatch
