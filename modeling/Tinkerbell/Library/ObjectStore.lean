import Mathlib.Data.List.Nodup

/-!
Owns: stores of objects that carry their own name, as an API server keeps
them. No two objects of a store have the same name, by construction; objects
stay in the order in which they were created.
-/

universe u v

/-- Objects with pairwise distinct names. -/
structure ObjectStore {κ : Type u} {α : Type v} (name : α → κ) where
  items : List α
  distinct : (items.map name).Nodup

namespace ObjectStore

variable {κ : Type u} {α : Type v} [DecidableEq κ] {name : α → κ}

def find (store : ObjectStore name) (key : κ) : Option α :=
  store.items.find? fun object => name object = key

def insert (store : ObjectStore name) (object : α) : ObjectStore name :=
  if free : name object ∉ store.items.map name then
    ⟨store.items ++ [object], by
      rw [List.map_append, List.map_singleton, ← List.concat_eq_append]
      exact List.Nodup.concat free store.distinct⟩
  else store

def changeAt (name : α → κ) (key : κ) (change : α → α) (object : α) : α :=
  if name object = key then change object else object

variable {key : κ} {store : ObjectStore name} {object found : α}

variable {change : α → α}

theorem name_changeAt (keeps : ∀ object, name (change object) = name object) (object : α) :
    name (changeAt name key change object) = name object := by
  unfold changeAt
  split
  · exact keeps object
  · rfl

def modify (store : ObjectStore name) (key : κ) (change : α → α)
    (keeps : ∀ object, name (change object) = name object) : ObjectStore name :=
  ⟨store.items.map (changeAt name key change), by
    rw [List.map_map]
    have same : name ∘ changeAt name key change = name := by
      funext object
      exact name_changeAt keeps object
    rw [same]
    exact store.distinct⟩

def remove (store : ObjectStore name) (key : κ) : ObjectStore name :=
  ⟨store.items.filter fun object => name object ≠ key,
    store.distinct.sublist (List.filter_sublist.map name)⟩

theorem find_eq_some : store.find key = some object ↔ object ∈ store.items ∧ name object = key := by
  constructor
  · intro found
    exact ⟨List.mem_of_find?_eq_some found, by simpa using List.find?_some found⟩
  · rintro ⟨member, rfl⟩
    cases found : store.find (name object) with
    | none => exact absurd (by simp) (List.find?_eq_none.mp found object member)
    | some other =>
      have named : name other = name object := by simpa using List.find?_some found
      rw [List.inj_on_of_nodup_map store.distinct (List.mem_of_find?_eq_some found)
        member named]

theorem find_eq_none : store.find key = none ↔ ∀ object ∈ store.items, name object ≠ key := by
  simp [find]

theorem items_insert (free : store.find (name object) = none) :
    (store.insert object).items = store.items ++ [object] := by
  have absent : name object ∉ store.items.map name := by
    intro member
    obtain ⟨other, isItem, same⟩ := List.mem_map.mp member
    exact find_eq_none.mp free other isItem same
  simp [insert, absent]

theorem insert_taken {existing : α} (taken : store.find (name object) = some existing) :
    store.insert object = store := by
  have present : name object ∈ store.items.map name := by
    rw [← (find_eq_some.mp taken).2]
    exact List.mem_map_of_mem (find_eq_some.mp taken).1
  simp [insert, present]

theorem mem_insert {other : α} (member : other ∈ (store.insert object).items) :
    other ∈ store.items ∨ other = object := by
  cases taken : store.find (name object) with
  | some =>
    rw [insert_taken taken] at member
    exact Or.inl member
  | none =>
    rw [items_insert taken] at member
    exact (List.mem_append.mp member).imp_right List.mem_singleton.mp

theorem found_insert (isFound : (store.insert object).find key = some found) :
    store.find key = some found ∨ found = object := by
  obtain ⟨member, named⟩ := find_eq_some.mp isFound
  exact (mem_insert member).imp_left fun old => find_eq_some.mpr ⟨old, named⟩

theorem find_insert (free : store.find (name object) = none) (key : κ) :
    (store.insert object).find key =
      if name object = key then some object else store.find key := by
  unfold find at free ⊢
  rw [items_insert free, List.find?_append]
  by_cases same : name object = key
  · subst same
    simp [free]
  · simp [same]

theorem find_insert_of_found (isFound : store.find key = some found) :
    (store.insert object).find key = some found := by
  cases taken : store.find (name object) with
  | some => rw [insert_taken taken, isFound]
  | none =>
    have apart : name object ≠ key := by
      intro same
      rw [same, isFound] at taken
      cases taken
    rw [find_insert taken, if_neg apart, isFound]

theorem find_modify (keeps : ∀ object, name (change object) = name object) (other : κ) :
    (store.modify key change keeps).find other =
      if key = other then (store.find other).map change else store.find other := by
  unfold find modify
  rw [List.find?_map]
  have sameTest : (fun object => decide (name object = other)) ∘
      changeAt name key change = fun object => decide (name object = other) := by
    funext object
    simp only [Function.comp_apply, name_changeAt keeps]
  rw [sameTest]
  cases found : store.items.find? fun object => decide (name object = other) with
  | none => simp
  | some object =>
    have named : name object = other := by simpa using List.find?_some found
    simp only [Option.map_some, changeAt, named]
    by_cases same : key = other
    · simp [same]
    · simp [same, Ne.symm same]

theorem find_remove (other : κ) :
    (store.remove key).find other =
      if key = other then none else store.find other := by
  unfold find remove
  rw [List.find?_filter]
  by_cases same : key = other
  · subst same
    simp
  · rw [if_neg same]
    congr 1
    funext object
    by_cases named : name object = other
    · simp [named, Ne.symm same]
    · simp [named]

theorem found_remove {other : κ} (isFound : (store.remove key).find other = some found) :
    store.find other = some found := by
  rw [find_remove] at isFound
  split at isFound
  · cases isFound
  · exact isFound

end ObjectStore
