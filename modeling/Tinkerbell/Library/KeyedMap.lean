import Mathlib.Data.List.Nodup

/-!
Owns: finite maps with decidable equality whose entries keep their position
when a key is overwritten, so that storing back the value already present
gives the very same map.

The keys of a map are pairwise distinct by construction. Every operation is
specified through `get`.
-/

universe u v

/-- A finite map. -/
structure KeyedMap (κ : Type u) (α : Type v) where
  entries : List (κ × α)
  distinct : (entries.map Prod.fst).Nodup
deriving DecidableEq

namespace KeyedMap

variable {κ : Type u} {α : Type v}

def empty : KeyedMap κ α := ⟨[], List.nodup_nil⟩

instance : Inhabited (KeyedMap κ α) := ⟨empty⟩

def keys (map : KeyedMap κ α) : List κ := map.entries.map Prod.fst

variable [DecidableEq κ]

def findEntry (key : κ) : List (κ × α) → Option α
  | [] => none
  | entry :: rest => if entry.1 = key then some entry.2 else findEntry key rest

def get (map : KeyedMap κ α) (key : κ) : Option α := findEntry key map.entries

def setEntries (key : κ) (value : α) : List (κ × α) → List (κ × α)
  | [] => [(key, value)]
  | entry :: rest =>
    if entry.1 = key then (key, value) :: rest
    else entry :: setEntries key value rest

variable {entries : List (κ × α)} {key : κ} {value : α}

private theorem mem_keys_setEntries {other : κ}
    (member : other ∈ (setEntries key value entries).map Prod.fst) :
    other = key ∨ other ∈ entries.map Prod.fst := by
  induction entries with
  | nil => exact Or.inl (by simpa [setEntries] using member)
  | cons _ _ ih =>
    unfold setEntries at member
    split at member
    · next _ =>
      simp only [List.map_cons, List.mem_cons] at member ⊢
      rcases member with isKey | inRest
      · exact Or.inl isKey
      · exact Or.inr (Or.inr inRest)
    · simp only [List.map_cons, List.mem_cons] at member ⊢
      rcases member with isHead | inRest
      · exact Or.inr (Or.inl isHead)
      · exact (ih inRest).imp_right Or.inr

private theorem nodup_setEntries (distinct : (entries.map Prod.fst).Nodup) :
    ((setEntries key value entries).map Prod.fst).Nodup := by
  induction entries with
  | nil => simp [setEntries]
  | cons _ _ ih =>
    have parts := List.nodup_cons.mp distinct
    unfold setEntries
    split
    · next same =>
      subst same
      simpa using distinct
    · next different =>
      refine List.nodup_cons.mpr ⟨fun member => ?_, ih parts.2⟩
      rcases mem_keys_setEntries member with isKey | inRest
      · exact different isKey
      · exact parts.1 inRest

def set (map : KeyedMap κ α) (key : κ) (value : α) : KeyedMap κ α :=
  ⟨setEntries key value map.entries, nodup_setEntries map.distinct⟩

def erase (map : KeyedMap κ α) (key : κ) : KeyedMap κ α :=
  ⟨map.entries.filter fun entry => entry.1 ≠ key,
    map.distinct.sublist (List.filter_sublist.map Prod.fst)⟩

def alter (map : KeyedMap κ α) (key : κ) : Option α → KeyedMap κ α
  | some value => map.set key value
  | none => map.erase key

def copy (target source : KeyedMap κ α) : KeyedMap κ α :=
  source.entries.foldl (fun map entry => map.set entry.1 entry.2) target

/-- Combine three maps key by key: a key of `original` or `updated` gets what
`combine` makes of its three values, every other key keeps its current one. -/
def merge (combine : Option α → Option α → Option α → Option α)
    (original updated current : KeyedMap κ α) : KeyedMap κ α :=
  (original.keys ++ updated.keys).foldl
    (fun map key => map.alter key
      (combine (original.get key) (updated.get key) (current.get key)))
    current

private theorem findEntry_setEntries (key other : κ) (value : α)
    (entries : List (κ × α)) :
    findEntry other (setEntries key value entries) =
      if key = other then some value else findEntry other entries := by
  induction entries with
  | nil => simp [setEntries, findEntry]
  | cons entry _ ih =>
    unfold setEntries
    by_cases headKey : entry.1 = key
    · rw [if_pos headKey]
      simp only [findEntry, headKey]
      by_cases same : key = other <;> simp [same]
    · rw [if_neg headKey]
      simp only [findEntry, ih]
      by_cases isHead : entry.1 = other
      · have notKey : key ≠ other := fun equal => headKey (isHead.trans equal.symm)
        simp [isHead, notKey]
      · simp [isHead]

theorem get_set (map : KeyedMap κ α) (key other : κ) (value : α) :
    (map.set key value).get other =
      if key = other then some value else map.get other :=
  findEntry_setEntries key other value map.entries

private theorem findEntry_filter (key other : κ) (entries : List (κ × α)) :
    findEntry other (entries.filter fun entry => entry.1 ≠ key) =
      if key = other then none else findEntry other entries := by
  induction entries with
  | nil => simp [findEntry]
  | cons entry _ ih =>
    by_cases headKey : entry.1 = key
    · rw [List.filter_cons_of_neg (by simp [headKey]), ih]
      by_cases same : key = other
      · simp [same]
      · simp [findEntry, headKey, same]
    · rw [List.filter_cons_of_pos (by simp [headKey])]
      simp only [findEntry, ih]
      by_cases isHead : entry.1 = other
      · have notKey : key ≠ other := fun equal => headKey (isHead.trans equal.symm)
        simp [isHead, notKey]
      · simp [isHead]

theorem get_erase (map : KeyedMap κ α) (key other : κ) :
    (map.erase key).get other = if key = other then none else map.get other :=
  findEntry_filter key other map.entries

theorem get_alter (map : KeyedMap κ α) (key other : κ) (value : Option α) :
    (map.alter key value).get other =
      if key = other then value else map.get other := by
  cases value with
  | none => exact get_erase map key other
  | some value => exact get_set map key other value

variable {map : KeyedMap κ α}

theorem get_eq_none_of_notMem (notMem : key ∉ map.keys) : map.get key = none := by
  have noEntry : ∀ entries : List (κ × α), key ∉ entries.map Prod.fst →
      findEntry key entries = none := by
    intro entries absent
    induction entries with
    | nil => rfl
    | cons _ _ ih =>
      simp only [List.map_cons, List.mem_cons, not_or] at absent
      rw [findEntry, if_neg (Ne.symm absent.1), ih absent.2]
  exact noEntry map.entries notMem

private theorem get_foldl_alter (value : κ → Option α) (list : List κ)
    (map : KeyedMap κ α) (key : κ) :
    (list.foldl (fun map key => map.alter key (value key)) map).get key =
      if key ∈ list then value key else map.get key := by
  induction list generalizing map with
  | nil => simp
  | cons head rest ih =>
    rw [List.foldl_cons, ih, get_alter]
    by_cases inRest : key ∈ rest
    · simp [inRest]
    · by_cases isHead : head = key
      · simp [isHead]
      · simp [inRest, isHead, Ne.symm isHead]

theorem get_merge {combine : Option α → Option α → Option α → Option α}
    (keeps : ∀ value, combine none none value = value)
    (original updated current : KeyedMap κ α) (key : κ) :
    (merge combine original updated current).get key =
      combine (original.get key) (updated.get key) (current.get key) := by
  unfold merge
  rw [get_foldl_alter (fun key =>
    combine (original.get key) (updated.get key) (current.get key))]
  by_cases member : key ∈ original.keys ++ updated.keys
  · rw [if_pos member]
  · rw [if_neg member]
    rw [List.mem_append, not_or] at member
    rw [get_eq_none_of_notMem member.1, get_eq_none_of_notMem member.2, keeps]

theorem mem_entries_iff :
    (key, value) ∈ map.entries ↔ map.get key = some value := by
  have inEntries : ∀ entries : List (κ × α), (entries.map Prod.fst).Nodup →
      ((key, value) ∈ entries ↔ findEntry key entries = some value) := by
    intro entries distinct
    induction entries with
    | nil => simp [findEntry]
    | cons entry rest ih =>
      have parts := List.nodup_cons.mp distinct
      rw [List.mem_cons, ih parts.2, findEntry]
      by_cases isHead : entry.1 = key
      · have notLater : findEntry key rest ≠ some value := by
          intro found
          have inRest := (ih parts.2).mpr found
          exact parts.1 (isHead ▸ List.mem_map_of_mem inRest)
        rw [if_pos isHead, or_iff_left notLater, Option.some.injEq, Prod.ext_iff]
        exact ⟨fun same => same.2.symm, fun same => ⟨isHead.symm, same.symm⟩⟩
      · rw [if_neg isHead, or_iff_right]
        intro same
        exact isHead (congrArg Prod.fst same).symm
  exact inEntries map.entries map.distinct

theorem get_copy (target source : KeyedMap κ α) (key : κ) :
    (target.copy source).get key = (source.get key).or (target.get key) := by
  have copied : ∀ (entries : List (κ × α)) (map : KeyedMap κ α),
      (entries.map Prod.fst).Nodup →
      (entries.foldl (fun map entry => map.set entry.1 entry.2) map).get key =
        (findEntry key entries).or (map.get key) := by
    intro entries
    induction entries with
    | nil =>
      intro map _
      rfl
    | cons entry rest ih =>
      intro map distinct
      have parts := List.nodup_cons.mp distinct
      rw [List.foldl_cons, ih _ parts.2, get_set, findEntry]
      by_cases isHead : entry.1 = key
      · have notLater : findEntry key rest = none :=
          @get_eq_none_of_notMem κ α _ key ⟨rest, parts.2⟩ (isHead ▸ parts.1)
        rw [if_pos isHead, if_pos isHead, notLater]
        rfl
      · rw [if_neg isHead, if_neg isHead]
  exact copied source.entries target source.distinct

end KeyedMap
