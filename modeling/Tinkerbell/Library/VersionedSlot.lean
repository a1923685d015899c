import Tinkerbell.Library.VersionedStore

/-!
Owns: a place for one object that may be deleted and created again, with every version
that was ever stored in it, and the fact that an update against a version that was once
stored replaces the value that version had.

A reader may be handed any past version, as from a cache that is behind.
-/

universe u

/-- A place for one object. Its versions are never used twice. -/
structure Slot (α : Type u) where
  stored : Option (Versioned α)
  /-- Every version that was ever stored. -/
  history : List (Versioned α)
  latest : Nat
  known : ∀ current ∈ stored, current ∈ history
  bounded : ∀ past ∈ history, past.version ≤ latest
  unique : ∀ past ∈ history, ∀ other ∈ history, past.version = other.version → past = other

namespace Slot

variable {α : Type u}

def empty : Slot α where
  stored := none
  history := []
  latest := 0
  known := fun _ isSome => nomatch isSome
  bounded := fun _ member => nomatch member
  unique := fun _ member => nomatch member

def delete (slot : Slot α) : Slot α where
  stored := none
  history := slot.history
  latest := slot.latest
  known := fun _ isSome => nomatch isSome
  bounded := slot.bounded
  unique := slot.unique

def store (slot : Slot α) (value : α) : Slot α where
  stored := some ⟨value, slot.latest + 1⟩
  history := ⟨value, slot.latest + 1⟩ :: slot.history
  latest := slot.latest + 1
  known := by
    intro current isSome
    cases isSome
    exact List.mem_cons_self
  bounded := by
    intro past member
    rcases List.mem_cons.mp member with rfl | earlier
    · exact Nat.le_refl _
    · exact Nat.le_succ_of_le (slot.bounded past earlier)
  unique := by
    intro past member other otherMember sameVersion
    rcases List.mem_cons.mp member with rfl | earlier <;>
      rcases List.mem_cons.mp otherMember with rfl | otherEarlier
    · rfl
    · have notNewer := slot.bounded other otherEarlier
      simp only at sameVersion
      omega
    · have notNewer := slot.bounded past earlier
      simp only at sameVersion
      omega
    · exact slot.unique past earlier other otherEarlier sameVersion

variable [DecidableEq α]

def put (slot : Slot α) (value : α) : Slot α :=
  if slot.stored.map Versioned.value = some value then slot else slot.store value

def update (slot : Slot α) (read : Versioned α) (value : α) : Option (α × Slot α) :=
  match slot.stored with
  | none => none
  | some current =>
    if current.version = read.version then some (current.value, slot.put value) else none

theorem history_subset_put (slot : Slot α) (value : α) :
    ∀ past ∈ slot.history, past ∈ (slot.put value).history := by
  intro past member
  unfold put
  split
  · exact member
  · exact List.mem_cons_of_mem _ member

theorem update_eq_some {slot next : Slot α} {read : Versioned α} {value replaced : α}
    (wasStored : read ∈ slot.history) (accepted : slot.update read value = some (replaced, next)) :
    replaced = read.value ∧ slot.stored.map Versioned.value = some replaced ∧
      next = slot.put value := by
  unfold update at accepted
  split at accepted
  · cases accepted
  · next current isStored =>
    split at accepted
    · next sameVersion =>
      have same := slot.unique current (slot.known current isStored) read wasStored sameVersion
      cases accepted
      exact ⟨congrArg Versioned.value same, by rw [isStored]; rfl, rfl⟩
    · cases accepted

end Slot
