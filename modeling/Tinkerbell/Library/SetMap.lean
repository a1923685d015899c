import Tinkerbell.Library.KeyedMap
import Mathlib.Data.List.Perm.Basic

/-!
Owns: finite maps whose values are finite sets, to which one element is added at
a time, and the loops that visit every key and every element of its set once, in
no particular order.
-/

universe u v

/-- A finite set, by its elements in the order they came in. -/
structure UnorderedSet (α : Type v) where
  elements : List α
  distinct : elements.Nodup

namespace UnorderedSet

variable {α : Type v}

def empty : UnorderedSet α := ⟨[], List.nodup_nil⟩

variable [DecidableEq α]

def insert (set : UnorderedSet α) (element : α) : UnorderedSet α :=
  if member : element ∈ set.elements then set
  else ⟨element :: set.elements, List.nodup_cons.mpr ⟨member, set.distinct⟩⟩

theorem mem_insert (set : UnorderedSet α) (element other : α) :
    other ∈ (set.insert element).elements ↔ other = element ∨ other ∈ set.elements := by
  unfold insert
  split
  · next member =>
    constructor
    · exact Or.inr
    · rintro (rfl | isOld)
      · exact member
      · exact isOld
  · exact List.mem_cons

end UnorderedSet

/-- A finite map to finite sets. -/
abbrev SetMap (κ : Type u) (α : Type v) := KeyedMap κ (UnorderedSet α)

namespace SetMap

variable {κ : Type u} {α : Type v} [DecidableEq κ]

def hasKey (map : SetMap κ α) (key : κ) : Bool := (map.get key).isSome

def elementsAt (map : SetMap κ α) (key : κ) : List α :=
  ((map.get key).map (·.elements)).getD []

def add [DecidableEq α] (map : SetMap κ α) (key : κ) (element : α) : SetMap κ α :=
  let map := if hasKey map key then map else map.set key UnorderedSet.empty
  map.set key (((map.get key).getD UnorderedSet.empty).insert element)

section

variable (map : SetMap κ α) (key other : κ)

theorem get_add [DecidableEq α] (element : α) :
    (add map key element).get other =
      if key = other then some (((map.get key).getD UnorderedSet.empty).insert element)
      else map.get other := by
  unfold add hasKey
  cases isSet : map.get key with
  | some =>
    simp only [Option.isSome_some, if_true, KeyedMap.get_set, isSet]
  | none =>
    simp only [Option.isSome_none, Bool.false_eq_true, if_false, KeyedMap.get_set, if_true]
    split
    · rfl
    · rfl

theorem hasKey_add [DecidableEq α] (element : α) :
    hasKey (add map key element) other = true ↔ other = key ∨ hasKey map other = true := by
  rw [hasKey, get_add]
  split
  · next same => simp [same]
  · next apart => simp [hasKey, Ne.symm apart]

theorem mem_elementsAt_add [DecidableEq α]
    (element member : α) :
    member ∈ elementsAt (add map key element) other ↔
      other = key ∧ member = element ∨ member ∈ elementsAt map other := by
  rw [elementsAt, get_add]
  split
  · next same =>
    subst same
    rw [Option.map_some, Option.getD_some, UnorderedSet.mem_insert]
    cases isSet : map.get key with
    | none => simp [elementsAt, isSet, UnorderedSet.empty]
    | some => simp [elementsAt, isSet]
  · next apart => simp [elementsAt, Ne.symm apart]

end

/-- No key stands without an element. -/
def Filled (map : SetMap κ α) : Prop :=
  ∀ key, hasKey map key = true ↔ ∃ element, element ∈ elementsAt map key

theorem filled_empty : Filled (KeyedMap.empty : SetMap κ α) := by
  intro key
  exact iff_of_false Bool.false_ne_true fun ⟨_, member⟩ => List.not_mem_nil member

variable {map : SetMap κ α}

theorem Filled.add [DecidableEq α] (filled : Filled map) (key : κ) (element : α) :
    Filled (add map key element) := by
  intro other
  rw [hasKey_add, filled other]
  constructor
  · rintro (isKey | ⟨old, isOld⟩)
    · exact ⟨element, (mem_elementsAt_add ..).mpr (Or.inl ⟨isKey, rfl⟩)⟩
    · exact ⟨old, (mem_elementsAt_add ..).mpr (Or.inr isOld)⟩
  · rintro ⟨member, isMember⟩
    cases (mem_elementsAt_add ..).mp isMember with
    | inl isNew => exact Or.inl isNew.1
    | inr isOld => exact Or.inr ⟨member, isOld⟩

structure Visits (map : SetMap κ α) (visited : List (κ × List α)) : Prop where
  keys : (visited.map Prod.fst).Perm map.keys
  elements : ∀ visit ∈ visited, visit.2.Nodup ∧ ∀ element, element ∈ visit.2 ↔
    element ∈ elementsAt map visit.1

theorem hasKey_iff_mem_keys (map : SetMap κ α) (key : κ) :
    hasKey map key = true ↔ key ∈ map.keys := by
  constructor
  · intro isKey
    by_contra notMember
    rw [hasKey, KeyedMap.get_eq_none_of_notMem notMember] at isKey
    cases isKey
  · intro member
    obtain ⟨_, isEntry, rfl⟩ := List.mem_map.mp member
    rw [hasKey, KeyedMap.mem_entries_iff.mp isEntry]
    rfl

variable {visited : List (κ × List α)}

theorem Visits.nodup (visits : Visits map visited) : (visited.map Prod.fst).Nodup :=
  visits.keys.nodup_iff.mpr map.distinct

theorem Visits.mem_keys_iff (visits : Visits map visited) (key : κ) :
    key ∈ visited.map Prod.fst ↔ hasKey map key = true := by
  rw [visits.keys.mem_iff, hasKey_iff_mem_keys]

def inOrder (map : SetMap κ α) : List (κ × List α) :=
  map.entries.map fun entry => (entry.1, entry.2.elements)

theorem visits_inOrder (map : SetMap κ α) : Visits map (inOrder map) := by
  refine ⟨?_, ?_⟩
  · rw [inOrder, List.map_map]
    exact List.Perm.refl _
  · intro visit member
    obtain ⟨entry, isEntry, rfl⟩ := List.mem_map.mp member
    refine ⟨entry.2.distinct, ?_⟩
    intro element
    rw [elementsAt, KeyedMap.mem_entries_iff.mp isEntry]
    rfl

end SetMap
