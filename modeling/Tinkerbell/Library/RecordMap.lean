import Mathlib.Data.List.Nodup
import Tinkerbell.Library.FirstMatch

/-!
Owns: lists of records with a key that are used as finite maps. A call writes a
value under a key: it changes the first record of the key, or appends one.

`writes_foldl` says what every sequence of calls leaves: no key twice, the keys in
the order in which they came first, and under each key what the last call wrote.
-/

namespace RecordMap

universe u v w x y

variable {α : Type u} {κ : Type v} {σ : Type w} [DecidableEq κ] (key : α → κ) (value : α → σ)

def lookup (records : List α) (k : κ) : Option σ :=
  (records.find? fun record => key record = k).map value

def lastWritten (initial : κ → Option σ) (calls : List (κ × σ)) (k : κ) : Option σ :=
  ((calls.filter fun call => call.1 = k).getLast?.map Prod.snd).or (initial k)

structure Writes (k : κ) (v : σ) (before after : List α) : Prop where
  keys : after.map key =
    if k ∈ before.map key then before.map key else before.map key ++ [k]
  same : lookup key value after k = some v
  other : ∀ other, other ≠ k → lookup key value after other = lookup key value before other

/-- The records after a sequence of calls are those of a map. -/
structure LikeMap (initial : List α) (calls : List (κ × σ)) (final : List α) : Prop where
  distinct : (final.map key).Nodup
  order : final.map key = (initial.map key ++ calls.map Prod.fst).eraseDups
  written : ∀ k, lookup key value final k = lastWritten (lookup key value initial) calls k

theorem eraseDups_of_nodup {keys : List κ} (distinct : keys.Nodup) : keys.eraseDups = keys := by
  induction keys with
  | nil => rfl
  | cons first rest ih =>
    obtain ⟨notLater, restDistinct⟩ := List.nodup_cons.mp distinct
    have keepsAll : rest.filter (fun other => !other == first) = rest := by
      apply List.filter_eq_self.mpr
      intro other member
      have different : other ≠ first := fun same => notLater (same ▸ member)
      simp [different]
    rw [List.eraseDups_cons, keepsAll, ih restDistinct]

variable {k : κ}

theorem eraseDups_append_cons_of_mem {earlier later : List κ} (known : k ∈ earlier) :
    (earlier ++ k :: later).eraseDups = (earlier ++ later).eraseDups := by
  rw [List.eraseDups_append, List.eraseDups_append]
  have dropped : (k :: later).removeAll earlier = later.removeAll earlier := by
    simp [List.removeAll, known]
  rw [dropped]

theorem lastWritten_nil (initial : κ → Option σ) (k : κ) :
    lastWritten initial [] k = initial k := rfl

theorem lastWritten_cons (initial after : κ → Option σ) (call : κ × σ) (calls : List (κ × σ))
    (same : after call.1 = some call.2)
    (other : ∀ other, other ≠ call.1 → after other = initial other) (k : κ) :
    lastWritten initial (call :: calls) k = lastWritten after calls k := by
  unfold lastWritten
  by_cases isKey : call.1 = k
  · subst isKey
    rw [List.filter_cons_of_pos (by simp), List.getLast?_cons, same]
    cases (calls.filter fun later => later.1 = call.1).getLast? with
    | none | some last => rfl
  · rw [List.filter_cons_of_neg (by simpa using isKey), other k (Ne.symm isKey)]

variable {key value}

theorem Writes.nodup {v : σ} {before after : List α} (writes : Writes key value k v before after)
    (distinct : (before.map key).Nodup) :
    (after.map key).Nodup := by
  rw [writes.keys]
  split
  · exact distinct
  · next isNew =>
    apply List.nodup_append.mpr
    refine ⟨distinct, List.nodup_singleton k, ?_⟩
    intro earlier isEarlier later isLater same
    rw [List.mem_singleton.mp isLater] at same
    exact isNew (same ▸ isEarlier)

theorem writes_foldl {τ : Type x} {γ : Type y} {records : τ → List α} {step : τ → γ → τ}
    {called : γ → κ × σ}
    (writes : ∀ state call, Writes key value (called call).1 (called call).2
      (records state) (records (step state call)))
    {initial : τ} (distinct : ((records initial).map key).Nodup) (calls : List γ) :
    LikeMap key value (records initial) (calls.map called)
      (records (calls.foldl step initial)) := by
  induction calls generalizing initial with
  | nil =>
    refine ⟨distinct, ?_, fun k => (lastWritten_nil _ k).symm⟩
    rw [List.map_nil, List.map_nil, List.append_nil, eraseDups_of_nodup distinct]
    rfl
  | cons call _ ih =>
    have first := writes initial call
    obtain ⟨finalDistinct, order, written⟩ := ih (first.nodup distinct)
    refine ⟨finalDistinct, ?_, ?_⟩
    · rw [List.foldl_cons, order, first.keys, List.map_cons, List.map_cons]
      split
      · next known => exact (eraseDups_append_cons_of_mem known).symm
      · rw [List.append_assoc]
        rfl
    · intro k
      rw [List.foldl_cons, written, List.map_cons]
      exact (lastWritten_cons _ _ _ _ first.same first.other k).symm

theorem writes_update {v : σ} {change : α → α} {fresh : α}
    (keepsKey : ∀ record, key record = k → key (change record) = k)
    (setsValue : ∀ record, key record = k → value (change record) = v) (isFresh : key fresh = k)
    (records : List α) :
    Writes key value k v records
      (FirstMatch.update (fun record => key record = k) change fresh records) where
  keys := by
    induction records with
    | nil => simp [FirstMatch.update, keepsKey fresh isFresh]
    | cons head rest ih =>
      rw [FirstMatch.update]
      by_cases isKey : key head = k
      · simp [isKey, keepsKey head isKey]
      · rw [if_neg (by simpa using isKey), List.map_cons, List.map_cons, ih]
        have notHead : k ∈ key head :: rest.map key ↔ k ∈ rest.map key := by
          simp [Ne.symm isKey]
        split
        · next known => rw [if_pos (notHead.mpr known)]
        · next isNew => rw [if_neg (fun known => isNew (notHead.mp known)), List.cons_append]
  same := by
    unfold lookup
    rw [FirstMatch.find?_update_same (by simpa using keepsKey) (by simpa using isFresh)]
    apply congrArg some
    apply setsValue
    cases found : records.find? fun record => key record = k with
    | none => exact isFresh
    | some => simpa using List.find?_some found
  other := by
    intro other different
    unfold lookup
    rw [FirstMatch.find?_update_other ?_ (by simpa using isFresh)]
    intro record isKey
    have keyed : key record = k := by simpa using isKey
    simp [keyed, keepsKey record keyed, different.symm]

end RecordMap
