import Mathlib.Data.List.Basic

/-!
Owns: lists of records in which the first record of a kind counts: changing
that record in place, or appending one when there is none, and splitting the
list there.
-/

namespace FirstMatch

universe u

variable {α : Type u}

def update (isKind : α → Bool) (change : α → α) (fresh : α) : List α → List α
  | [] => [change fresh]
  | head :: rest =>
    if isKind head then change head :: rest
    else head :: update isKind change fresh rest

variable {isKind : α → Bool}

variable {change : α → α} {fresh first : α} {records : List α} {isNarrow : α → Bool}

theorem find?_update_same (keeps : ∀ record, isKind record = true → isKind (change record) = true)
    (isFresh : isKind fresh = true) (records : List α) :
    (update isKind change fresh records).find? isKind =
      some (change ((records.find? isKind).getD fresh)) := by
  induction records with
  | nil => simp [update, keeps fresh isFresh]
  | cons head _ ih =>
    unfold update
    by_cases matched : isKind head = true
    · simp [matched, keeps head matched]
    · simp [matched, ih]

theorem find?_update_other {isOther : α → Bool}
    (apart : ∀ record, isKind record = true →
      isOther record = false ∧ isOther (change record) = false)
    (isFresh : isKind fresh = true) (records : List α) :
    (update isKind change fresh records).find? isOther = records.find? isOther := by
  induction records with
  | nil => simp [update, (apart fresh isFresh).2]
  | cons head _ ih =>
    unfold update
    by_cases matched : isKind head = true
    · simp [matched, (apart head matched).1, (apart head matched).2]
    · rw [if_neg matched, List.find?_cons, List.find?_cons, ih]

theorem split_of_findIdx? {position : Nat} (isPosition : records.findIdx? isKind = some position) :
    ∃ before found after, records = before ++ found :: after ∧ before.length = position ∧
      isKind found = true ∧ ∀ record ∈ before, isKind record = false := by
  obtain ⟨inside, isFound, noneBefore⟩ := List.findIdx?_eq_some_iff_getElem.mp isPosition
  refine ⟨records.take position, records[position], records.drop (position + 1), ?_, ?_, isFound,
    ?_⟩
  · rw [← List.drop_eq_getElem_cons inside, List.take_append_drop]
  · rw [List.length_take]
    omega
  · intro record member
    obtain ⟨index, below, rfl⟩ := List.mem_iff_getElem.mp member
    rw [List.length_take] at below
    simpa using noneBefore index (by omega)

theorem split_unique {before earlier : List α} {found : α} {after later : List α}
    (same : before ++ found :: after = earlier ++ first :: later) (isFound : isKind found = true)
    (isFirst : isKind first = true) (noneBefore : ∀ record ∈ before, isKind record = false)
    (noneEarlier : ∀ record ∈ earlier, isKind record = false) :
    before = earlier ∧ found = first ∧ after = later := by
  induction before generalizing earlier with
  | nil =>
    cases earlier with
    | nil => simpa using same
    | cons =>
      obtain ⟨rfl, _⟩ := List.cons.inj same
      have notFound := noneEarlier found List.mem_cons_self
      rw [isFound] at notFound
      cases notFound
  | cons head _ ih =>
    have notHead := noneBefore head List.mem_cons_self
    cases earlier with
    | nil =>
      obtain ⟨rfl, _⟩ := List.cons.inj same
      rw [isFirst] at notHead
      cases notHead
    | cons =>
      obtain ⟨rfl, sameRest⟩ := List.cons.inj same
      obtain ⟨rfl, rfl, rfl⟩ := ih sameRest
        (fun record member => noneBefore record (List.mem_cons_of_mem head member))
        (fun record member => noneEarlier record (List.mem_cons_of_mem head member))
      exact ⟨rfl, rfl, rfl⟩

theorem find?_of_narrower (narrower : ∀ record, isNarrow record = true → isKind record = true)
    (isFirst : records.find? isKind = some first) (accepted : isNarrow first = true) :
    records.find? isNarrow = some first := by
  obtain ⟨_, before, after, isSplit, noneBefore⟩ := List.find?_eq_some_iff_append.mp isFirst
  refine List.find?_eq_some_iff_append.mpr ⟨accepted, before, after, isSplit, ?_⟩
  intro record member
  have notKind := noneBefore record member
  by_contra isAccepted
  simp [narrower record (by simpa using isAccepted)] at notKind

theorem find?_same_iff (narrower : ∀ record, isNarrow record = true → isKind record = true)
    (records : List α) :
    (∃ record, records.find? isKind = some record ∧ records.find? isNarrow = some record) ↔
      ∃ record, records.find? isKind = some record ∧ isNarrow record = true := by
  constructor
  · rintro ⟨record, isFirst, isFound⟩
    exact ⟨record, isFirst, List.find?_some isFound⟩
  · rintro ⟨record, isFirst, accepted⟩
    exact ⟨record, isFirst, find?_of_narrower narrower isFirst accepted⟩

section KeepFirst

variable {β : Type} [DecidableEq β]

def keepFirst (isKind : α → Bool) (value : α → β) (blank : β) (current : β) (record : α) : β :=
  if isKind record = true ∧ current = blank then value record else current

def firstValue (isKind : α → Bool) (value : α → β) (blank : β) (records : List α) : β :=
  ((records.find? fun record => isKind record && value record ≠ blank).map value).getD blank

theorem foldl_keepFirst (isKind : α → Bool) (value : α → β) (blank current : β)
    (records : List α) :
    records.foldl (keepFirst isKind value blank) current =
      if current = blank then firstValue isKind value blank records else current := by
  induction records generalizing current with
  | nil =>
    by_cases isBlank : current = blank
    · rw [if_pos isBlank]
      exact isBlank
    · rw [if_neg isBlank]
      rfl
  | cons head _ ih =>
    rw [List.foldl_cons, ih, keepFirst]
    by_cases isBlank : current = blank
    · by_cases ofKind : isKind head = true
      · by_cases noValue : value head = blank
        · simp [firstValue, isBlank, ofKind, noValue]
        · simp [firstValue, isBlank, ofKind, noValue]
      · simp [firstValue, isBlank, ofKind]
    · simp [isBlank]

theorem firstValue_eq_iff {value : α → β} {blank : β}
    (narrower : ∀ record, isNarrow record = true → isKind record = true) (records : List α) :
    firstValue isKind value blank records = firstValue isNarrow value blank records ↔
      ∀ first, (records.find? fun record => isKind record && value record ≠ blank) = some first →
        isNarrow first = true ∨
          ∃ other, (records.find? fun record => isNarrow record && value record ≠ blank) =
            some other ∧ value other = value first := by
  have narrowerFilled : ∀ record, (isNarrow record && value record ≠ blank) = true →
      (isKind record && value record ≠ blank) = true := by
    intro record accepted
    obtain ⟨isOne, filled⟩ := Bool.and_eq_true_iff.mp accepted
    exact Bool.and_eq_true_iff.mpr ⟨narrower record isOne, filled⟩
  unfold firstValue
  cases isFirst : records.find? fun record => isKind record && value record ≠ blank with
  | none =>
    have noNarrow : (records.find? fun record => isNarrow record && value record ≠ blank) =
        none := by
      refine List.find?_eq_none.mpr ?_
      intro record member accepted
      exact List.find?_eq_none.mp isFirst record member (narrowerFilled record accepted)
    rw [noNarrow]
    refine iff_of_true rfl ?_
    intro first isSome
    cases isSome
  | some first =>
    have accepted := List.find?_some isFirst
    have filled := of_decide_eq_true (Bool.and_eq_true_iff.mp accepted).2
    constructor
    · intro sameValue found isSame
      cases isSame
      cases isOther : records.find? fun record => isNarrow record && value record ≠ blank with
      | none =>
        rw [isOther] at sameValue
        exact absurd sameValue filled
      | some other =>
        rw [isOther] at sameValue
        exact Or.inr ⟨other, rfl, sameValue.symm⟩
    · intro sameOrOther
      cases sameOrOther first rfl with
      | inl isOne =>
        have bothAccepted : (isNarrow first && value first ≠ blank) = true :=
          Bool.and_eq_true_iff.mpr ⟨isOne, decide_eq_true filled⟩
        rw [find?_of_narrower narrowerFilled isFirst bothAccepted]
      | inr hasSame =>
        obtain ⟨_, isOther, sameValue⟩ := hasSame
        rw [isOther]
        exact sameValue.symm

end KeepFirst

end FirstMatch
