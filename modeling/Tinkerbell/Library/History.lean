import Mathlib.Data.List.Basic

/-!
Owns: event logs in which every event is allowed by the events before it.

A log grows at its end. `Justified guard log` says that each event of the log
passed `guard` when it was appended; it is kept by appending an allowed event,
and it is all a reader of the log needs to know.
-/

namespace History

universe u

variable {ε : Type u}

/-- Every event was allowed by what came before it. -/
def Justified (guard : List ε → ε → Prop) (log : List ε) : Prop :=
  ∀ before event after, log = before ++ event :: after → guard before event

theorem justified_nil (guard : List ε → ε → Prop) : Justified guard [] := by
  intro before event after split
  simp at split

variable {guard : List ε → ε → Prop} {log : List ε}

theorem justified_concat {event : ε} (justified : Justified guard log) (allowed : guard log event) :
    Justified guard (log ++ [event]) := by
  intro before last after split
  rcases List.eq_nil_or_concat after with rfl | ⟨middle, final, rfl⟩
  · obtain ⟨sameLog, sameEvent⟩ := List.append_inj' split rfl
    rw [← sameLog, ← List.head_eq_of_cons_eq sameEvent]
    exact allowed
  · rw [List.concat_eq_append, ← List.cons_append, ← List.append_assoc] at split
    exact justified before last middle (List.append_inj' split rfl).1

theorem justified_mem {event : ε} (justified : Justified guard log) (member : event ∈ log) :
    ∃ before, (∀ earlier ∈ before, earlier ∈ log) ∧ guard before event := by
  obtain ⟨before, after, split⟩ := List.append_of_mem member
  refine ⟨before, ?_, justified before event after split⟩
  intro earlier isEarlier
  rw [split]
  exact List.mem_append_left _ isEarlier

theorem justified_exclusive {first second : ε} (different : second ≠ first)
    (afterSecond : ∀ before, guard before first → second ∉ before)
    (afterFirst : ∀ before, guard before second → first ∉ before)
    (justified : Justified guard log) : ¬(first ∈ log ∧ second ∈ log) := by
  rintro ⟨isFirst, isSecond⟩
  obtain ⟨before, after, split⟩ := List.append_of_mem isFirst
  rw [split] at isSecond
  rcases List.mem_append.mp isSecond with earlier | later
  · exact afterSecond before (justified before first after split) earlier
  · have inRest : second ∈ after := List.mem_of_ne_of_mem different later
    obtain ⟨middle, rest, splitRest⟩ := List.append_of_mem inRest
    have splitSecond : log = (before ++ first :: middle) ++ second :: rest := by
      rw [split, splitRest]
      simp
    exact afterFirst _ (justified _ second rest splitSecond) (by simp)

end History
