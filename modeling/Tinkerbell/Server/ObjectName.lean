import Tinkerbell.Server.Enrollment

/-!
Owns: for which agent IDs `makeValidName` gives the name of a Kubernetes object.

Between the prefix and the truncation the stages do one thing to the trimmed agent
ID: every run of characters other than letters and digits becomes one hyphen, and a
run at the start is absorbed by the hyphen of the prefix. `squeezed` says so in one
recursion. The truncation alone can spoil the result: it leaves a hyphen at the end
when such a run begins at the last place kept.
-/

namespace Tinkerbell.Server

open ByteText

def squeezed : Bool → List Char → List Char
  | _, [] => []
  | afterHyphen, c :: rest =>
    if isAlphanumeric c then c :: squeezed false rest
    else if afterHyphen then squeezed true rest
    else '-' :: squeezed true rest

def width : Bool → List Char → Nat
  | _, [] => 0
  | afterHyphen, c :: rest =>
    if isAlphanumeric c then width false rest + 1
    else if afterHyphen then width true rest
    else width true rest + 1

/-- A run of characters other than letters and digits begins after `count` kept ones,
where the text before the name ends in a hyphen. -/
def BreaksAt (count : Nat) (name : List Char) : Prop :=
  ∃ before c after, name = before ++ c :: after ∧ before.getLast?.any isAlphanumeric = true ∧
    isAlphanumeric c = false ∧ width true before = count

variable {c : Char} {afterHyphen : Bool} {name : List Char} {count : Nat}

theorem ne_hyphen_of_isAlphanumeric (isLetter : isAlphanumeric c = true) : c ≠ '-' := by
  rintro rfl
  revert isLetter
  decide

theorem collapseHyphens_cons_ne (different : c ≠ '-') (rest : List Char) :
    collapseHyphens (c :: rest) = c :: collapseHyphens rest := by
  rw [collapseHyphens, if_neg]
  rintro ⟨same, _⟩
  exact different same

theorem replaceInvalid_cons_letter (isLetter : isAlphanumeric c = true) (rest : List Char) :
    replaceInvalid (c :: rest) = c :: replaceInvalid rest := by
  simp [replaceInvalid, isLetter]

private theorem replaceInvalid_cons_other (isOther : isAlphanumeric c = false) (rest : List Char) :
    replaceInvalid (c :: rest) = '-' :: replaceInvalid rest := by
  simp only [replaceInvalid, List.map_cons, isOther, Bool.false_or, decide_eq_true_eq]
  by_cases isHyphen : c = '-'
  · simp [isHyphen]
  · simp [isHyphen]

/-- Replacing and collapsing, behind a hyphen and elsewhere. The two cases go into
each other at every run of other characters. -/
theorem collapseHyphens_replaceInvalid (name : List Char) :
    collapseHyphens ('-' :: replaceInvalid name) = '-' :: squeezed true name ∧
      collapseHyphens (replaceInvalid name) = squeezed false name := by
  induction name with
  | nil => exact ⟨by simp [replaceInvalid, collapseHyphens, squeezed], rfl⟩
  | cons c _ ih =>
    obtain ⟨behindHyphen, elsewhere⟩ := ih
    cases isLetter : isAlphanumeric c with
    | true =>
      have different := ne_hyphen_of_isAlphanumeric isLetter
      rw [replaceInvalid_cons_letter isLetter]
      constructor
      · rw [collapseHyphens, if_neg (by simp [different]), collapseHyphens_cons_ne different,
          elsewhere]
        simp [squeezed, isLetter]
      · rw [collapseHyphens_cons_ne different, elsewhere]
        simp [squeezed, isLetter]
    | false =>
      rw [replaceInvalid_cons_other isLetter]
      constructor
      · rw [collapseHyphens, if_pos ⟨rfl, rfl⟩, behindHyphen]
        simp [squeezed, isLetter]
      · rw [behindHyphen]
        simp [squeezed, isLetter]

theorem mem_squeezed (member : c ∈ squeezed afterHyphen name) :
    isAlphanumeric c = true ∨ c = '-' := by
  induction name generalizing afterHyphen with
  | nil => cases member
  | cons _ _ ih =>
    unfold squeezed at member
    split at member
    · next isLetter =>
      rcases List.mem_cons.mp member with rfl | inRest
      · exact Or.inl isLetter
      · exact ih inRest
    · split at member
      · exact ih member
      · rcases List.mem_cons.mp member with rfl | inRest
        · exact Or.inr rfl
        · exact ih inRest

theorem head?_squeezed_true (name : List Char) : (squeezed true name).head? ≠ some '-' := by
  induction name with
  | nil => simp [squeezed]
  | cons _ _ ih =>
    unfold squeezed
    split
    · next isLetter =>
      intro isHyphen
      exact ne_hyphen_of_isAlphanumeric isLetter (Option.some.inj isHyphen)
    · exact ih

theorem consecutiveHyphens_cons_ne (different : c ≠ '-') (rest : List Char) :
    consecutiveHyphens (c :: rest) = consecutiveHyphens rest := by
  simp [consecutiveHyphens, different]

variable {rest : List Char}

theorem consecutiveHyphens_cons_hyphen (single : rest.head? ≠ some '-') :
    consecutiveHyphens ('-' :: rest) = consecutiveHyphens rest := by
  simp [consecutiveHyphens, single]

private theorem consecutiveHyphens_squeezed (afterHyphen : Bool) (name : List Char) :
    consecutiveHyphens (squeezed afterHyphen name) = false := by
  induction name generalizing afterHyphen with
  | nil => rfl
  | cons _ rest ih =>
    unfold squeezed
    split
    · next isLetter =>
      rw [consecutiveHyphens_cons_ne (ne_hyphen_of_isAlphanumeric isLetter)]
      exact ih false
    · split
      · exact ih true
      · rw [consecutiveHyphens_cons_hyphen (head?_squeezed_true rest)]
        exact ih true

theorem getLast?_squeezed (ends : name.getLast?.any isAlphanumeric = true) :
    (squeezed afterHyphen name).getLast? = name.getLast? := by
  induction name generalizing afterHyphen with
  | nil => cases ends
  | cons c rest ih =>
    cases rest with
    | nil =>
      have isLetter : isAlphanumeric c = true := ends
      simp [squeezed, isLetter]
    | cons next others =>
      have endsLater : (next :: others).getLast?.any isAlphanumeric = true := by
        rwa [List.getLast?_cons_cons] at ends
      have later : ∀ behind, (squeezed behind (next :: others)).getLast? =
          (next :: others).getLast? := fun behind => ih endsLater
      have kept : ∀ first behind, (first :: squeezed behind (next :: others)).getLast? =
          (next :: others).getLast? := by
        intro first behind
        rw [List.getLast?_cons, later behind, List.getLast?_cons]
        rfl
      unfold squeezed
      split
      · exact kept c false
      · split
        · exact later true
        · exact kept '-' true

def endsPlain (afterHyphen : Bool) (before : List Char) : Bool :=
  match before.getLast? with
  | none => !afterHyphen
  | some c => isAlphanumeric c

theorem endsPlain_cons (afterHyphen : Bool) (c : Char) (before : List Char) :
    endsPlain afterHyphen (c :: before) = endsPlain (!isAlphanumeric c) before := by
  unfold endsPlain
  rw [List.getLast?_cons]
  cases before.getLast? with
  | none => simp
  | some => rfl

/-- A run begins in the name, after `count` kept characters. -/
def RunBegins (afterHyphen : Bool) (count : Nat) (name : List Char) : Prop :=
  ∃ before c after, name = before ++ c :: after ∧ endsPlain afterHyphen before = true ∧
    isAlphanumeric c = false ∧ width afterHyphen before = count

private theorem runBegins_cons {head : Char} :
    RunBegins afterHyphen count (head :: rest) ↔
      (afterHyphen = false ∧ isAlphanumeric head = false ∧ count = 0) ∨
        ∃ before c after, rest = before ++ c :: after ∧
          endsPlain (!isAlphanumeric head) before = true ∧ isAlphanumeric c = false ∧
          width afterHyphen (head :: before) = count := by
  constructor
  · rintro ⟨before, c, after, split, plain, isOther, isCount⟩
    cases before with
    | nil =>
      obtain ⟨rfl, rfl⟩ := List.cons.inj split
      exact Or.inl ⟨by simpa [endsPlain] using plain, isOther, isCount.symm⟩
    | cons _ others =>
      obtain ⟨rfl, rfl⟩ := List.cons.inj split
      rw [endsPlain_cons] at plain
      exact Or.inr ⟨others, c, after, rfl, plain, isOther, isCount⟩
  · rintro (⟨rfl, isOther, rfl⟩ | ⟨before, c, after, rfl, plain, isOther, isCount⟩)
    · exact ⟨[], head, rest, rfl, rfl, isOther, rfl⟩
    · refine ⟨head :: before, c, after, rfl, ?_, isOther, isCount⟩
      rw [endsPlain_cons]
      exact plain

theorem getElem?_squeezed_hyphen (afterHyphen : Bool) (name : List Char) (position : Nat) :
    (squeezed afterHyphen name)[position]? = some '-' ↔ RunBegins afterHyphen position name := by
  induction name generalizing afterHyphen position with
  | nil => simp [squeezed, RunBegins]
  | cons head _ ih =>
    rw [runBegins_cons]
    cases isLetter : isAlphanumeric head with
    | true =>
      have different := ne_hyphen_of_isAlphanumeric isLetter
      cases position with
      | zero => simp [squeezed, width, isLetter, different]
      | succ position =>
        simp only [squeezed, width, isLetter, if_true, List.getElem?_cons_succ]
        rw [ih false position]
        simp [RunBegins]
    | false =>
      cases afterHyphen with
      | true =>
        simp only [squeezed, width, isLetter, Bool.false_eq_true, if_false, if_true]
        rw [ih true position]
        simp [RunBegins]
      | false =>
        cases position with
        | zero => simp [squeezed, isLetter]
        | succ position =>
          simp only [squeezed, width, isLetter, Bool.false_eq_true, if_false,
            List.getElem?_cons_succ]
          rw [ih true position]
          simp [RunBegins]

private theorem breaksAt_iff : BreaksAt count name ↔ RunBegins true count name := by
  have sameEnd : ∀ before, endsPlain true before = before.getLast?.any isAlphanumeric := by
    intro before
    unfold endsPlain
    cases before.getLast? <;> rfl
  simp only [BreaksAt, RunBegins, sameEnd]

theorem consecutiveHyphens_iff :
    consecutiveHyphens name = true ↔ ∃ before after, name = before ++ '-' :: '-' :: after := by
  induction name with
  | nil => simp [consecutiveHyphens]
  | cons c rest ih =>
    rw [consecutiveHyphens, Bool.or_eq_true, ih, decide_eq_true_eq]
    constructor
    · rintro (⟨rfl, second⟩ | ⟨before, after, rfl⟩)
      · cases rest with
        | nil => cases second
        | cons _ others =>
          cases second
          exact ⟨[], others, rfl⟩
      · exact ⟨c :: before, after, rfl⟩
    · rintro ⟨before, after, split⟩
      cases before with
      | nil =>
        obtain ⟨rfl, rfl⟩ := List.cons.inj split
        exact Or.inl ⟨rfl, rfl⟩
      | cons _ others =>
        obtain ⟨rfl, rfl⟩ := List.cons.inj split
        exact Or.inr ⟨others, after, rfl⟩

private theorem consecutiveHyphens_take (single : consecutiveHyphens name = false) (length : Nat) :
    consecutiveHyphens (name.take length) = false := by
  rw [← Bool.not_eq_true, consecutiveHyphens_iff] at single ⊢
  rintro ⟨before, after, split⟩
  apply single
  refine ⟨before, after ++ name.drop length, ?_⟩
  calc name = name.take length ++ name.drop length := (List.take_append_drop length name).symm
    _ = before ++ '-' :: '-' :: (after ++ name.drop length) := by
      rw [split]
      simp

def padEnd (name : List Char) : List Char :=
  if name.getLast?.any isAlphanumeric then name else name ++ ['e']

theorem getLast?_padEnd (name : List Char) : (padEnd name).getLast?.any isAlphanumeric = true := by
  unfold padEnd
  split
  · next ends => exact ends
  · rw [List.getLast?_concat]
    rfl

private theorem runBegins_padEnd :
    RunBegins afterHyphen count (padEnd name) ↔ RunBegins afterHyphen count name := by
  unfold padEnd
  split
  · rfl
  · constructor
    · rintro ⟨before, c, after, split, plain, isOther, isCount⟩
      cases after using List.reverseRecOn with
      | nil =>
        obtain ⟨_, rfl⟩ : name = before ∧ 'e' = c := by simpa using split
        cases isOther
      | append_singleton others last =>
        have whole : name ++ ['e'] = (before ++ c :: others) ++ [last] := by simpa using split
        obtain ⟨rfl, _⟩ := List.append_inj' whole rfl
        exact ⟨before, c, others, rfl, plain, isOther, isCount⟩
    · rintro ⟨before, c, after, rfl, plain, isOther, isCount⟩
      exact ⟨before, c, after ++ ['e'], by simp, plain, isOther, isCount⟩

section Leading

variable {stem : List Char} (isStem : ∀ c ∈ stem, isLowerOrDigit c = true)
include isStem

theorem isAlphanumeric_of_stem (member : c ∈ stem) : isAlphanumeric c = true := by
  simp [isAlphanumeric, isStem c member]

private theorem padEnds_stem (notEmpty : stem ≠ []) (notBlank : name ≠ []) :
    padEnds (stem ++ '-' :: name) = stem ++ '-' :: padEnd name := by
  obtain ⟨first, others, rfl⟩ := List.exists_cons_of_ne_nil notEmpty
  have isLetter := isAlphanumeric_of_stem isStem (List.mem_cons_self (a := first))
  have sameLast : (first :: others ++ '-' :: name).getLast? = name.getLast? := by
    rw [List.getLast?_append, List.getLast?_cons]
    cases isLast : name.getLast? with
    | none => exact absurd (List.getLast?_eq_none_iff.mp isLast) notBlank
    | some => rfl
  unfold padEnds padEnd
  simp only [List.cons_append, List.head?_cons, Option.any_some, isLetter, if_true] at sameLast ⊢
  rw [sameLast]
  split <;> simp

private theorem collapseHyphens_stem (name : List Char) :
    collapseHyphens (replaceInvalid (stem ++ '-' :: name)) = stem ++ '-' :: squeezed true name := by
  induction stem with
  | nil =>
    exact (collapseHyphens_replaceInvalid name).1
  | cons c _ ih =>
    have isLetter := isAlphanumeric_of_stem isStem (List.mem_cons_self (a := c))
    rw [List.cons_append, replaceInvalid_cons_letter isLetter,
      collapseHyphens_cons_ne (ne_hyphen_of_isAlphanumeric isLetter),
      ih fun other member => isStem other (List.mem_cons_of_mem c member)]
    rfl

end Leading

theorem toNat_lt_of_isAlphanumeric (isLetter : isAlphanumeric c = true) : c.toNat < 128 := by
  simp only [isAlphanumeric, isLowerOrDigit, Bool.or_eq_true, Bool.and_eq_true,
    decide_eq_true_eq, Char.le_def, UInt32.le_iff_toNat_le] at isLetter
  have lower : 'z'.val.toNat = 122 := rfl
  have digit : '9'.val.toNat = 57 := rfl
  have upper : 'Z'.val.toNat = 90 := rfl
  unfold Char.toNat
  omega

theorem isLowerOrDigit_toLower (isLetter : isAlphanumeric c = true) :
    isLowerOrDigit c.toLower = true := by
  have table : ∀ code : Fin 128, isAlphanumeric (Char.ofNat code) = true →
      isLowerOrDigit (Char.ofNat code).toLower = true := by
    decide +kernel
  have known := table ⟨c.toNat, toNat_lt_of_isAlphanumeric isLetter⟩
  simp only [Char.ofNat_toNat] at known
  exact known isLetter

private theorem toLower_of_isLowerOrDigit (isLower : isLowerOrDigit c = true) : c.toLower = c := by
  have table : ∀ code : Fin 128, isLowerOrDigit (Char.ofNat code) = true →
      (Char.ofNat code).toLower = Char.ofNat code := by
    decide +kernel
  have isLetter : isAlphanumeric c = true := by simp [isAlphanumeric, isLower]
  have known := table ⟨c.toNat, toNat_lt_of_isAlphanumeric isLetter⟩
  simp only [Char.ofNat_toNat] at known
  exact known isLower

theorem ne_hyphen_of_isLowerOrDigit (isLower : isLowerOrDigit c = true) : c ≠ '-' :=
  ne_hyphen_of_isAlphanumeric (by simp [isAlphanumeric, isLower])

theorem toLower_eq_hyphen (kept : isAlphanumeric c = true ∨ c = '-') :
    c.toLower = '-' ↔ c = '-' := by
  rcases kept with isLetter | rfl
  · have lower := ne_hyphen_of_isLowerOrDigit (isLowerOrDigit_toLower isLetter)
    simp [lower, ne_hyphen_of_isAlphanumeric isLetter]
  · decide

theorem consecutiveHyphens_map_toLower (kept : ∀ c ∈ name, isAlphanumeric c = true ∨ c = '-') :
    consecutiveHyphens (name.map Char.toLower) = consecutiveHyphens name := by
  induction name with
  | nil => rfl
  | cons c rest ih =>
    have sameRest := ih fun other member =>
      kept other (List.mem_cons_of_mem c member)
    have sameHead := toLower_eq_hyphen (kept c List.mem_cons_self)
    cases rest with
    | nil => simp [consecutiveHyphens]
    | cons next =>
      have sameNext := toLower_eq_hyphen (kept next (by simp))
      simp only [List.map_cons] at sameRest ⊢
      rw [consecutiveHyphens, sameRest]
      simp [consecutiveHyphens, sameHead, sameNext]

def objectName (stem name : List Char) : List Char :=
  stem ++ '-' :: (squeezed true (padEnd name)).map Char.toLower

section ObjectName

variable {stem : List Char}

private theorem mem_objectName (isStem : ∀ c ∈ stem, isLowerOrDigit c = true)
    (member : c ∈ objectName stem name) : isLowerOrDigit c = true ∨ c = '-' := by
  rcases List.mem_append.mp member with inStem | behind
  · exact Or.inl (isStem c inStem)
  · rcases List.mem_cons.mp behind with rfl | inName
    · exact Or.inr rfl
    · obtain ⟨_, inSqueezed, rfl⟩ := List.mem_map.mp inName
      rcases mem_squeezed inSqueezed with isLetter | rfl
      · exact Or.inl (isLowerOrDigit_toLower isLetter)
      · exact Or.inr rfl

theorem getLast?_objectName (stem name : List Char) :
    (objectName stem name).getLast?.any isLowerOrDigit = true := by
  have ends := getLast?_padEnd name
  have sameLast : (squeezed true (padEnd name)).getLast? = (padEnd name).getLast? :=
    getLast?_squeezed ends
  unfold objectName
  rw [List.getLast?_append, List.getLast?_cons, List.getLast?_map, sameLast]
  cases isLast : (padEnd name).getLast? with
  | none =>
    rw [isLast] at ends
    cases ends
  | some =>
    rw [isLast] at ends
    exact isLowerOrDigit_toLower ends

private theorem consecutiveHyphens_objectName (isStem : ∀ c ∈ stem, isLowerOrDigit c = true)
    (name : List Char) : consecutiveHyphens (objectName stem name) = false := by
  unfold objectName
  induction stem with
  | nil =>
    have kept : ∀ c ∈ squeezed true (padEnd name), isAlphanumeric c = true ∨ c = '-' :=
      fun c member => mem_squeezed member
    rw [List.nil_append, consecutiveHyphens_cons_hyphen, consecutiveHyphens_map_toLower kept]
    · exact consecutiveHyphens_squeezed true (padEnd name)
    · intro isHyphen
      rw [List.head?_map] at isHyphen
      obtain ⟨first, isFirst, lower⟩ := Option.map_eq_some_iff.mp isHyphen
      rw [toLower_eq_hyphen (kept first (List.mem_of_mem_head? isFirst))] at lower
      rw [lower] at isFirst
      exact head?_squeezed_true (padEnd name) isFirst
  | cons c _ ih =>
    have different := ne_hyphen_of_isLowerOrDigit (isStem c List.mem_cons_self)
    rw [List.cons_append, consecutiveHyphens_cons_ne different]
    exact ih fun other member => isStem other (List.mem_cons_of_mem c member)

theorem getElem?_objectName (name : List Char) {position : Nat}
    (behind : stem.length < position) :
    (objectName stem name)[position]? = some '-' ↔
      BreaksAt (position - (stem.length + 1)) name := by
  have split : position = stem.length + ((position - (stem.length + 1)) + 1) := by omega
  rw [breaksAt_iff, ← runBegins_padEnd, ← getElem?_squeezed_hyphen]
  unfold objectName
  rw [split, List.getElem?_append_right (by omega), Nat.add_sub_cancel_left,
    List.getElem?_cons_succ, List.getElem?_map, Option.map_eq_some_iff]
  have simpler : stem.length + (position - (stem.length + 1) + 1) - (stem.length + 1) =
      position - (stem.length + 1) := by omega
  rw [simpler]
  constructor
  · rintro ⟨c, isThere, lower⟩
    rw [toLower_eq_hyphen (mem_squeezed (List.mem_of_getElem? isThere))] at lower
    rw [← lower]
    exact isThere
  · intro isThere
    exact ⟨'-', isThere, by decide⟩

theorem getLast?_take_objectName {limit : Nat} (behind : stem.length + 1 < limit) :
    ((objectName stem name).take limit).getLast? = some '-' ↔
      BreaksAt (limit - 1 - (stem.length + 1)) name := by
  have lastPlace : stem.length < limit - 1 := by omega
  rw [List.getLast?_take, if_neg (by omega), ← getElem?_objectName name lastPlace]
  cases atLimit : (objectName stem name)[limit - 1]? with
  | some => rfl
  | none =>
    have ends := getLast?_objectName stem name
    constructor
    · intro isHyphen
      rw [Option.none_or] at isHyphen
      rw [isHyphen] at ends
      cases ends
    · intro impossible
      cases impossible

theorem makeValidName_stem (isStem : ∀ c ∈ stem, isLowerOrDigit c = true) (notEmpty : stem ≠ [])
    {name : String} (notBlank : trimSpace name.toList ≠ []) :
    makeValidName name (String.ofList (stem ++ ['-'])) =
      match isValid ((objectName stem (trimSpace name.toList)).take 63) with
      | some err => .error err
      | none => .ok (String.ofList ((objectName stem (trimSpace name.toList)).take 63)) := by
  obtain ⟨first, others, rfl⟩ := List.exists_cons_of_ne_nil notEmpty
  have startsPlain := ne_hyphen_of_isLowerOrDigit (isStem first List.mem_cons_self)
  have ends := getLast?_padEnd (trimSpace name.toList)
  have trimmed : trim (· = '-') (first :: others ++ '-' :: squeezed true
      (padEnd (trimSpace name.toList))) = first :: others ++ '-' :: squeezed true
        (padEnd (trimSpace name.toList)) := by
    apply trim_eq_self
    · intro c isFirst
      cases isFirst
      exact decide_eq_false startsPlain
    · rw [List.getLast?_append, List.getLast?_cons, getLast?_squeezed ends]
      cases isLast : (padEnd (trimSpace name.toList)).getLast? with
      | none =>
        rw [isLast] at ends
        cases ends
      | some =>
        rw [isLast] at ends
        intro c isEnd
        cases isEnd
        exact decide_eq_false (ne_hyphen_of_isAlphanumeric ends)
  have lowerStem : (first :: others).map Char.toLower = first :: others :=
    (List.map_congr_left fun c member => toLower_of_isLowerOrDigit (isStem c member)).trans
      (List.map_id _)
  unfold makeValidName objectName
  simp only [if_neg notBlank, String.toList_ofList, List.append_assoc, List.singleton_append]
  rw [padEnds_stem isStem notEmpty notBlank, collapseHyphens_stem isStem, trimmed,
    List.map_append, lowerStem, List.map_cons]
  rfl

end ObjectName

/-- The name of a Kubernetes object that starts with a prefix. -/
structure ValidObjectName (leading result : String) : Prop where
  notEmpty : 1 ≤ result.toList.length
  short : result.toList.length ≤ 63
  chars : ∀ c ∈ result.toList, isLowerOrDigit c = true ∨ c = '-'
  starts : result.toList.head?.any isLowerOrDigit = true
  ends : result.toList.getLast?.any isLowerOrDigit = true
  single : ¬∃ before after, result.toList = before ++ '-' :: '-' :: after
  leads : leading.toList <+: result.toList

theorem isValid_eq_none_iff :
    isValid name = none ↔ name ≠ [] ∧ name.length ≤ 63 ∧
      (name.head? ≠ some '-' ∧ name.getLast? ≠ some '-') ∧ consecutiveHyphens name = false ∧
      ∀ c ∈ name, isLowerOrDigit c = true ∨ c = '-' := by
  unfold isValid
  by_cases isEmpty : name = []
  · simp [isEmpty]
  · by_cases isLong : 63 < name.length
    · simp [isEmpty, isLong]
    · by_cases isEdge : name.head? = some '-' ∨ name.getLast? = some '-'
      · rw [if_neg isEmpty, if_neg isLong, if_pos isEdge]
        constructor
        · intro impossible
          cases impossible
        · rintro ⟨_, _, ⟨starts, ends⟩, _⟩
          rcases isEdge with isHead | isLast
          · exact absurd isHead starts
          · exact absurd isLast ends
      · have inner : name.head? ≠ some '-' ∧ name.getLast? ≠ some '-' := not_or.mp isEdge
        rw [if_neg isEmpty, if_neg isLong, if_neg isEdge]
        cases consecutiveHyphens name with
        | true => simp
        | false =>
          have allValid : (name.any fun c => !(isLowerOrDigit c || c = '-')) = false ↔
              ∀ c ∈ name, isLowerOrDigit c = true ∨ c = '-' := by
            simp only [List.any_eq_false, Bool.not_eq_true', Bool.not_eq_false,
              Bool.or_eq_true, decide_eq_true_eq]
          rw [← allValid]
          cases name.any fun c => !(isLowerOrDigit c || c = '-') with
          | true => simp
          | false => simp [isEmpty, inner, Nat.le_of_not_lt isLong]

section Truncated

variable {stem : List Char} (isStem : ∀ c ∈ stem, isLowerOrDigit c = true)
  (notEmpty : stem ≠ []) (isShort : stem.length ≤ 61)
include isStem notEmpty isShort

private theorem isValid_take_objectName (name : List Char) :
    isValid ((objectName stem name).take 63) = none ↔ ¬BreaksAt (61 - stem.length) name := by
  have isLast : ((objectName stem name).take 63).getLast? = some '-' ↔ _ :=
    getLast?_take_objectName (by omega)
  obtain ⟨first, others, rfl⟩ := List.exists_cons_of_ne_nil notEmpty
  have startsPlain := ne_hyphen_of_isLowerOrDigit (isStem first List.mem_cons_self)
  have place : 63 - 1 - ((first :: others).length + 1) = 61 - (first :: others).length := by omega
  rw [place] at isLast
  rw [isValid_eq_none_iff, ← isLast]
  constructor
  · rintro ⟨_, _, ⟨_, ends⟩, _⟩
    exact ends
  · intro ends
    refine ⟨by simp [objectName], List.length_take_le 63 _, ⟨?_, ends⟩, ?_, ?_⟩
    · simpa [objectName] using startsPlain
    · exact consecutiveHyphens_take (consecutiveHyphens_objectName isStem name) 63
    · intro c member
      exact mem_objectName isStem (List.mem_of_mem_take member)

private theorem validObjectName_take (valid : isValid ((objectName stem name).take 63) = none) :
    ValidObjectName (String.ofList (stem ++ ['-']))
      (String.ofList ((objectName stem name).take 63)) := by
  obtain ⟨someChar, short, ⟨_, ends⟩, single, chars⟩ := isValid_eq_none_iff.mp valid
  obtain ⟨first, others, rfl⟩ := List.exists_cons_of_ne_nil notEmpty
  refine ⟨?_, ?_, ?_, ?_, ?_, ?_, ?_⟩ <;> rw [String.toList_ofList]
  · exact List.length_pos_iff.mpr someChar
  · exact short
  · exact chars
  · simpa [objectName] using isStem first List.mem_cons_self
  · cases isLast : ((objectName (first :: others) name).take 63).getLast? with
    | none => exact absurd (List.getLast?_eq_none_iff.mp isLast) someChar
    | some last =>
      rcases chars last (List.mem_of_mem_getLast? isLast) with isLower | rfl
      · exact isLower
      · exact absurd isLast ends
  · rw [← consecutiveHyphens_iff, single]
    exact Bool.false_ne_true
  · rw [String.toList_ofList]
    apply List.prefix_take_iff.mpr
    refine ⟨⟨(squeezed true (padEnd name)).map Char.toLower, ?_⟩, ?_⟩
    · simp [objectName]
    · rw [List.length_append, List.length_singleton]
      omega

theorem makeValidName_valid_iff {name : String} (notBlank : trimSpace name.toList ≠ []) :
    (∃ result, makeValidName name (String.ofList (stem ++ ['-'])) = .ok result ∧
        ValidObjectName (String.ofList (stem ++ ['-'])) result) ↔
      ¬BreaksAt (61 - stem.length) (trimSpace name.toList) := by
  rw [makeValidName_stem isStem notEmpty notBlank,
    ← isValid_take_objectName isStem notEmpty isShort]
  cases valid : isValid ((objectName stem (trimSpace name.toList)).take 63) with
  | some => simp
  | none =>
    refine ⟨fun _ => rfl, fun _ => ⟨_, rfl, ?_⟩⟩
    exact validObjectName_take isStem notEmpty isShort valid

end Truncated

private theorem width_le_length (afterHyphen : Bool) (name : List Char) :
    width afterHyphen name ≤ name.length := by
  induction name generalizing afterHyphen with
  | nil => exact Nat.le_refl 0
  | cons _ _ ih =>
    have behindLetter := ih false
    have behindHyphen := ih true
    unfold width
    rw [List.length_cons]
    split
    · omega
    · split <;> omega

private theorem not_breaksAt_of_short (short : name.length ≤ count) : ¬BreaksAt count name := by
  rintro ⟨before, c, after, rfl, _, _, isCount⟩
  have kept := width_le_length true before
  rw [List.length_append, List.length_cons] at short
  omega

/-- An agent ID that is not blank gets a valid object name for discovery and enrollment
unless a run of characters other than letters and digits begins where the name is cut. -/
theorem agent_ids_get_valid_names_iff (name leading : String)
    (notBlank : trimSpace name.toList ≠ [])
    (isPrefix : leading = workflowPrefix ∨ leading = discoveryPrefix) :
    (∃ result, makeValidName name leading = .ok result ∧ ValidObjectName leading result) ↔
      ¬BreaksAt (62 - leading.toList.length) (trimSpace name.toList) := by
  have workflowStem : ∀ c ∈ "enrollment".toList, isLowerOrDigit c = true :=
    List.all_eq_true.mp (by decide)
  have discoveryStem : ∀ c ∈ "discovery".toList, isLowerOrDigit c = true :=
    List.all_eq_true.mp (by decide)
  rcases isPrefix with rfl | rfl
  · exact makeValidName_valid_iff workflowStem (by decide) (by decide) notBlank
  · exact makeValidName_valid_iff discoveryStem (by decide) (by decide) notBlank

theorem agent_ids_get_valid_names_iff_mac :
    ∃ result, makeValidName "02:AA:bb:00:00:01" workflowPrefix = .ok result ∧
      ValidObjectName workflowPrefix result :=
  (agent_ids_get_valid_names_iff "02:AA:bb:00:00:01" workflowPrefix (by decide)
    (Or.inl rfl)).mpr (not_breaksAt_of_short (by decide))

/-- The 63rd character of `enrollment-aaa…a-a` is the hyphen. -/
theorem hyphen_at_the_cut_refused :
    ¬∃ result, makeValidName (String.ofList (List.replicate 51 'a' ++ ['-', 'a']))
      workflowPrefix = .ok result ∧ ValidObjectName workflowPrefix result := by
  rintro ⟨result, made, _⟩
  cases made

end Tinkerbell.Server
