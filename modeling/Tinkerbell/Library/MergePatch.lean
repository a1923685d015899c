import Tinkerbell.Library.KeyedMap

/-!
Owns: three-way merging as a JSON merge patch does it. The patch is the
difference between an original and an updated document; applied to a current
document it writes what differs and leaves the rest alone.

Scalars and lists are replaced as a whole (`mergeField`), nested objects are
merged field by field (`mergeObject`), maps key by key (`mergeEntries`).
-/

namespace MergePatch

universe u v

variable {α : Type u} [DecidableEq α]

def mergeField (original updated current : α) : α :=
  if updated = original then current else updated

@[simp] theorem mergeField_unchanged (original current : α) :
    mergeField original original current = current := by
  simp [mergeField]

@[simp] theorem mergeField_original (original updated : α) :
    mergeField original updated original = updated := by
  unfold mergeField
  split
  · next same => exact same.symm
  · rfl

def mergeObject (zero : α) (mergeFields : α → α → α → α)
    (original updated current : Option α) : Option α :=
  if updated = original then current
  else
    match updated with
    | none => none
    | some value => some
        (mergeFields (original.getD zero) value (current.getD zero))

@[simp] theorem mergeObject_unchanged (zero : α) (mergeFields : α → α → α → α)
    (original current : Option α) :
    mergeObject zero mergeFields original original current = current := by
  simp [mergeObject]

theorem mergeObject_original {zero : α} {mergeFields : α → α → α → α}
    (writes : ∀ original updated, mergeFields original updated original = updated)
    (original updated : Option α) :
    mergeObject zero mergeFields original updated original = updated := by
  unfold mergeObject
  split
  · next same => exact same.symm
  · cases updated with
    | none => rfl
    | some => simp [writes]

variable {κ : Type v} [DecidableEq κ]

def mergeEntries (zero : α) (mergeFields : α → α → α → α)
    (original updated current : KeyedMap κ α) : KeyedMap κ α :=
  KeyedMap.merge (mergeObject zero mergeFields) original updated current

theorem get_mergeEntries (zero : α) (mergeFields : α → α → α → α)
    (original updated current : KeyedMap κ α) (key : κ) :
    (mergeEntries zero mergeFields original updated current).get key =
      mergeObject zero mergeFields (original.get key) (updated.get key)
        (current.get key) :=
  KeyedMap.get_merge (fun value => mergeObject_unchanged zero mergeFields none value)
    original updated current key

end MergePatch
