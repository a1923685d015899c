import Mathlib.Data.List.Perm.Basic
import Mathlib.Data.List.Sort
import Mathlib.Data.Multiset.ZeroCons

/-!
Owns: lists whose items are listed in any order and each in any of its variants,
sorted by a rank that depends on the variant, and read off one by one. `Canonical`
says that the reading is always the same.

The reading is canonical exactly when no item reads differently in another variant
and any two items that may come in either order read alike (`canonical_iff`). That
this suffices is an induction over the sorted list: the first item is found in the
other list behind items that it may both precede and follow.
-/

namespace SortedListing

universe u v w

variable {α : Type u} {κ : Type v} {β : Type w}

def Relists (same : α → α → Prop) (items listed : List α) : Prop :=
  ∃ reordered, reordered.Perm items ∧ List.Forall₂ same reordered listed

theorem Relists.of_perm {same : α → α → Prop} (refl : ∀ item, same item item)
    {items listed : List α} (perm : listed.Perm items) : Relists same items listed :=
  ⟨listed, perm, List.forall₂_same.mpr fun item _ => refl item⟩

theorem Relists.perm {same : α → α → Prop} {items listed other : List α}
    (relists : Relists same items listed) (perm : other.Perm listed) :
    Relists same items other := by
  obtain ⟨_, isReordered, variants⟩ := relists
  obtain ⟨again, others, isAgain⟩ := List.perm_comp_forall₂ perm variants.flip
  exact ⟨again, isAgain.trans isReordered, others.flip⟩

section Canonical

variable [LinearOrder κ] (same : α → α → Prop) (rank : α → κ) (result : α → Option β)

def Ordered (listed : List α) : Prop :=
  listed.Pairwise fun first second => rank first ≤ rank second

/-- Every sorted listing of the items reads the same. -/
def Canonical (items : List α) : Prop :=
  ∀ first second, Relists same items first → Relists same items second →
    Ordered rank first → Ordered rank second →
      first.filterMap result = second.filterMap result

/-- No item reads differently in another variant. -/
def Fixed (items : List α) : Prop :=
  ∀ item ∈ items, ∀ variant other, same item variant → same item other →
    result variant = result other

/-- Some variants of the two items may come in this order. -/
def MayPrecede (first second : α) : Prop :=
  ∃ variant other, same first variant ∧ same second other ∧ rank variant ≤ rank other

def ReadAlike (first second : α) : Prop :=
  ∀ variant other, same first variant → same second other →
    result variant = result other ∨ result variant = none ∨ result other = none

/-- Any two items that may come in either order read alike. -/
def Settled (items : List α) : Prop :=
  items.Pairwise fun first second =>
    MayPrecede same rank first second → MayPrecede same rank second first →
      ReadAlike same result first second

variable {same rank result}

variable {named listed items first : List α} {item other : α}

theorem forall₂_split {before after : List α}
    (variants : List.Forall₂ same (before ++ item :: after) named) :
    ∃ first variant last, named = first ++ variant :: last ∧
      List.Forall₂ same before first ∧ same item variant ∧ List.Forall₂ same after last := by
  induction before generalizing named with
  | nil =>
    obtain ⟨variant, last, isVariant, later, rfl⟩ := List.forall₂_cons_left_iff.mp variants
    exact ⟨[], variant, last, rfl, .nil, isVariant, later⟩
  | cons _ _ ih =>
    obtain ⟨headVariant, _, isHead, later, rfl⟩ := List.forall₂_cons_left_iff.mp variants
    obtain ⟨first, variant, last, rfl, earlier, isVariant, behind⟩ :=
      ih later
    exact ⟨headVariant :: first, variant, last, rfl, .cons isHead earlier, isVariant, behind⟩

theorem exists_of_mem_left (variants : List.Forall₂ same named listed) (member : item ∈ named) :
    ∃ variant ∈ listed, same item variant := by
  obtain ⟨_, _, rfl⟩ := List.append_of_mem member
  obtain ⟨first, variant, _, rfl, _, isVariant, _⟩ := forall₂_split variants
  exact ⟨variant, List.mem_append_right first List.mem_cons_self, isVariant⟩

theorem exists_of_mem_right (variants : List.Forall₂ same named listed) {variant : α}
    (member : variant ∈ listed) : ∃ item ∈ named, same item variant :=
  exists_of_mem_left variants.flip member

theorem filterMap_move {before after : List α}
    (alike : ∀ other ∈ before,
      result item = result other ∨ result item = none ∨ result other = none) :
    (before ++ item :: after).filterMap result = (item :: (before ++ after)).filterMap result := by
  induction before with
  | nil => rfl
  | cons _ _ ih =>
    obtain ⟨first, later⟩ := List.forall_mem_cons.mp alike
    rw [List.cons_append, List.filterMap_cons, ih later, List.cons_append,
      List.filterMap_cons, List.filterMap_cons, List.filterMap_cons]
    rcases first with same | noItem | noHead
    · rw [same]
    · rw [noItem]
    · rw [noHead]

theorem settled_symm (first second : α)
    (settled : MayPrecede same rank first second → MayPrecede same rank second first →
      ReadAlike same result first second) :
    MayPrecede same rank second first → MayPrecede same rank first second →
      ReadAlike same result second first := by
  intro reverse forward variant other isVariant isOther
  rcases settled forward reverse other variant isOther isVariant with equal | noOther | noVariant
  · exact Or.inl equal.symm
  · exact Or.inr (Or.inr noOther)
  · exact Or.inr (Or.inl noVariant)

variable {others rest passed last : List α} {moved : α}

theorem Settled.perm (perm : items.Perm others) (settled : Settled same rank result items) :
    Settled same rank result others :=
  (perm.pairwise_iff fun {first second} => settled_symm first second).mp settled

theorem filterMap_eq_of_settled {second : List α} (perm : named.Perm others)
    (isFirst : List.Forall₂ same named first) (isSecond : List.Forall₂ same others second)
    (firstOrdered : Ordered rank first) (secondOrdered : Ordered rank second)
    (fixed : Fixed same result named) (settled : Settled same rank result named) :
    first.filterMap result = second.filterMap result := by
  induction named generalizing first others second with
  | nil =>
    obtain rfl := List.nil_perm.mp perm
    cases isFirst
    cases isSecond
    rfl
  | cons item rest ih =>
    obtain ⟨variant, _, isVariant, restVariants, rfl⟩ :=
      List.forall₂_cons_left_iff.mp isFirst
    obtain ⟨before, after, rfl⟩ := List.append_of_mem (perm.subset List.mem_cons_self)
    obtain ⟨ahead, other, behind, rfl, isAhead, isOther, isBehind⟩ := forall₂_split isSecond
    have restPerm : rest.Perm (before ++ after) :=
      List.Perm.cons_inv (perm.trans List.perm_middle)
    obtain ⟨beforeItem, restOrdered⟩ := List.pairwise_cons.mp firstOrdered
    obtain ⟨settledItem, settledRest⟩ := List.pairwise_cons.mp settled
    have secondRest : Ordered rank (ahead ++ behind) :=
      secondOrdered.sublist ((List.Sublist.refl ahead).append (List.sublist_cons_self other _))
    have restFixed : Fixed same result rest := fun later member =>
      fixed later (List.mem_cons_of_mem item member)
    have alike : ∀ passed ∈ ahead,
        result other = result passed ∨ result other = none ∨ result passed = none := by
      intro passed isPassed
      obtain ⟨name, inBefore, isName⟩ := exists_of_mem_right isAhead isPassed
      have inRest : name ∈ rest :=
        restPerm.symm.subset (List.mem_append_left after inBefore)
      obtain ⟨inFirst, isInFirst, isSame⟩ := exists_of_mem_left restVariants inRest
      apply settledItem name inRest _ _ other passed isOther isName
      · exact ⟨variant, inFirst, isVariant, isSame, beforeItem inFirst isInFirst⟩
      · refine ⟨passed, other, isName, isOther, ?_⟩
        exact (List.pairwise_append.mp secondOrdered).2.2 passed isPassed other
          List.mem_cons_self
    have rests := ih restPerm restVariants
      (List.rel_append isAhead isBehind) restOrdered secondRest restFixed settledRest
    rw [filterMap_move alike, List.filterMap_cons, List.filterMap_cons, rests,
      fixed item List.mem_cons_self variant other isVariant isOther]

section Sorting

variable (rank)

instance totalRank : Std.Total fun first second : α => rank first ≤ rank second :=
  ⟨fun first second => le_total (rank first) (rank second)⟩

instance transRank : IsTrans α fun first second : α => rank first ≤ rank second :=
  ⟨fun _ _ _ => le_trans⟩

def sort (listed : List α) : List α :=
  listed.insertionSort fun first second => rank first ≤ rank second

theorem perm_sort (listed : List α) : (sort rank listed).Perm listed :=
  List.perm_insertionSort _ listed

theorem ordered_sort (listed : List α) : Ordered rank (sort rank listed) :=
  List.pairwise_insertionSort _ listed

theorem strict_sort (distinct : (listed.map rank).Nodup) :
    (sort rank listed).Pairwise fun first second => rank first < rank second := by
  have sameRanks := (perm_sort rank listed).map rank
  have apart := List.pairwise_map.mp (sameRanks.nodup_iff.mpr distinct)
  exact (ordered_sort rank listed).imp₂ (fun _ _ => lt_of_le_of_ne) apart

variable {rank}

theorem sort_of_ordered (ordered : Ordered rank listed) : sort rank listed = listed :=
  List.Pairwise.insertionSort_eq ordered

end Sorting

theorem eq_of_perm_filterMap_cons
    (perm : ((item :: rest).filterMap result).Perm ((other :: rest).filterMap result)) :
    result item = result other := by
  rw [List.filterMap_cons, List.filterMap_cons] at perm
  cases isItem : result item with
  | none =>
    cases isOther : result other with
    | none => rfl
    | some =>
      rw [isItem, isOther] at perm
      have length := perm.length_eq
      simp at length
  | some reading =>
    cases isOther : result other with
    | none =>
      rw [isItem, isOther] at perm
      have length := perm.length_eq
      simp at length
    | some otherReading =>
      rw [isItem, isOther] at perm
      have equal : reading ::ₘ (rest.filterMap result : Multiset β) =
          otherReading ::ₘ (rest.filterMap result : Multiset β) :=
        Multiset.coe_eq_coe.mpr perm
      exact congrArg some ((Multiset.cons_inj_left _).mp equal)

theorem Canonical.fixed (refl : ∀ item, same item item)
    (canonical : Canonical same rank result items) : Fixed same result items := by
  intro item member variant other isVariant isOther
  obtain ⟨before, after, rfl⟩ := List.append_of_mem member
  have listing : ∀ listed, same item listed →
      Relists same (before ++ item :: after) (sort rank (listed :: (before ++ after))) := by
    intro listed isListed
    refine Relists.perm ⟨item :: (before ++ after), List.perm_middle.symm, ?_⟩
      (perm_sort rank _)
    exact .cons isListed (List.forall₂_same.mpr fun item _ => refl item)
  have reads := canonical _ _ (listing variant isVariant) (listing other isOther)
    (ordered_sort rank _) (ordered_sort rank _)
  have perm := ((perm_sort rank (variant :: (before ++ after))).filterMap result).symm
  rw [reads] at perm
  exact eq_of_perm_filterMap_cons
    (perm.trans ((perm_sort rank (other :: (before ++ after))).filterMap result))

theorem eq_of_cons_eq_append {letter : β} {word : List β}
    (same : letter :: word = word ++ [letter]) : ∀ other ∈ word, other = letter := by
  induction word with
  | nil => simp
  | cons _ _ ih =>
    obtain ⟨rfl, later⟩ := List.cons.inj same
    intro other member
    rcases List.mem_cons.mp member with isHead | inRest
    · exact isHead
    · exact ih later other inRest

def insert (rank : α → κ) (item : α) (listed : List α) : List α :=
  listed.orderedInsert (fun first second => rank first ≤ rank second) item

theorem mem_insert : other ∈ insert rank item listed ↔ other = item ∨ other ∈ listed :=
  List.mem_orderedInsert _

theorem ordered_insert (ordered : Ordered rank listed) (item : α) :
    Ordered rank (insert rank item listed) :=
  List.Pairwise.orderedInsert item listed ordered

theorem perm_insert (item : α) (listed : List α) :
    (insert rank item listed).Perm (item :: listed) :=
  List.perm_orderedInsert _ item listed

theorem insert_split (rank : α → κ) (item : α) (listed : List α) :
    ∃ before after, listed = before ++ after ∧
      insert rank item listed = before ++ item :: after :=
  ⟨_, _, (List.takeWhile_append_dropWhile).symm, List.orderedInsert_eq_take_drop _ item listed⟩

theorem read_of_moved {reading : β}
    (isRead : result item = some reading) (isReadMoved : result moved = some reading)
    (same : (first ++ item :: (passed ++ last)).filterMap result =
      (first ++ (passed ++ moved :: last)).filterMap result) :
    ∀ other ∈ passed.filterMap result, other = reading := by
  apply eq_of_cons_eq_append
  simp only [List.filterMap_append, List.filterMap_cons, isRead, isReadMoved] at same
  have later := List.append_cancel_left same
  rw [List.append_cons, ← List.cons_append] at later
  exact List.append_cancel_right later

theorem read_of_passed (isPassed : other ∈ passed) (sameReading : result moved = result item)
    (same : (first ++ item :: (passed ++ last)).filterMap result =
      (first ++ (passed ++ moved :: last)).filterMap result) :
    result item = result other ∨ result item = none ∨ result other = none := by
  cases isRead : result item with
  | none => exact Or.inr (Or.inl rfl)
  | some =>
    cases isReadOther : result other with
    | none => exact Or.inr (Or.inr rfl)
    | some readingOther =>
      have all := read_of_moved isRead (sameReading.trans isRead) same
      have isMember := List.mem_filterMap.mpr ⟨other, isPassed, isReadOther⟩
      exact Or.inl (congrArg some (all readingOther isMember).symm)

theorem perm_insert_after (before after : List α) (between high : α) :
    (before ++ between :: insert rank high after).Perm
      (high :: (before ++ between :: after)) := by
  have toFront : (between :: insert rank high after).Perm (high :: between :: after) :=
    ((perm_insert high after).cons between).trans (List.Perm.swap high between after)
  exact (toFront.append_left before).trans List.perm_middle

section Between

variable {before after : List α} {between : α}
  (sorted : Ordered rank (before ++ between :: after))
include sorted

theorem ordered_insert_before {low : α} (above : rank low ≤ rank between) :
    Ordered rank (insert rank low before ++ between :: after) := by
  obtain ⟨beforeOrdered, laterOrdered, apart⟩ := List.pairwise_append.mp sorted
  refine List.pairwise_append.mpr ⟨ordered_insert beforeOrdered low, laterOrdered, ?_⟩
  intro first isFirst second isSecond
  rcases mem_insert.mp isFirst with rfl | inBefore
  · rcases List.mem_cons.mp isSecond with rfl | inAfter
    · exact above
    · exact above.trans ((List.pairwise_cons.mp laterOrdered).1 second inAfter)
  · exact apart first inBefore second isSecond

theorem ordered_insert_after {high : α} (below : rank between ≤ rank high) :
    Ordered rank (before ++ between :: insert rank high after) := by
  obtain ⟨beforeOrdered, laterOrdered, apart⟩ := List.pairwise_append.mp sorted
  obtain ⟨betweenFirst, afterOrdered⟩ := List.pairwise_cons.mp laterOrdered
  have fromBetween : ∀ second ∈ insert rank high after, rank between ≤ rank second := by
    intro second isSecond
    rcases mem_insert.mp isSecond with rfl | inAfter
    · exact below
    · exact betweenFirst second inAfter
  refine List.pairwise_append.mpr ⟨beforeOrdered,
    List.pairwise_cons.mpr ⟨fromBetween, ordered_insert afterOrdered high⟩, ?_⟩
  intro first isFirst second isSecond
  have toBetween := apart first isFirst between List.mem_cons_self
  rcases List.mem_cons.mp isSecond with rfl | inAfter
  · exact toBetween
  · exact toBetween.trans (fromBetween second inAfter)

end Between

section

variable (refl : ∀ item, same item item)
include refl

theorem Canonical.read_of_between
    (canonical : Canonical same rank result items) (perm : items.Perm (item :: other :: rest))
    {low high between : α} (isLow : same item low) (isHigh : same item high)
    (isBetween : same other between) (above : rank low ≤ rank between)
    (below : rank between ≤ rank high) :
    result low = result between ∨ result low = none ∨ result between = none := by
  -- Everything else stays in its place; the item comes once before and once after.
  have sorted := ordered_sort rank (between :: rest)
  have sortPerm := perm_sort rank (between :: rest)
  obtain ⟨before, after, isSplit⟩ :=
    List.append_of_mem (sortPerm.symm.subset List.mem_cons_self)
  rw [isSplit] at sorted sortPerm
  have listing : ∀ variant listed, same item variant →
      listed.Perm (variant :: (before ++ between :: after)) → Relists same items listed := by
    intro variant listed isVariant isPerm
    refine Relists.perm ⟨item :: other :: rest, perm.symm, ?_⟩
      (isPerm.trans (sortPerm.cons variant))
    exact .cons isVariant (.cons isBetween (List.forall₂_same.mpr fun item _ => refl item))
  have lowPerm : (insert rank low before ++ between :: after).Perm
      (low :: (before ++ between :: after)) :=
    (perm_insert low before).append_right _
  have reads := canonical _ _ (listing low _ isLow lowPerm)
    (listing high _ isHigh (perm_insert_after before after between high))
    (ordered_insert_before sorted above) (ordered_insert_after sorted below)
  have sameReading := canonical.fixed refl item (perm.symm.subset List.mem_cons_self) high low
    isHigh isLow
  obtain ⟨first, passed, rfl, isLowInsert⟩ := insert_split rank low before
  obtain ⟨crossed, last, rfl, isHighInsert⟩ := insert_split rank high after
  rw [isLowInsert, isHighInsert] at reads
  have moved : (first ++ low :: ((passed ++ between :: crossed) ++ last)).filterMap result =
      (first ++ ((passed ++ between :: crossed) ++ high :: last)).filterMap result := by
    simpa only [List.append_assoc, List.cons_append] using reads
  exact read_of_passed (List.mem_append_right passed List.mem_cons_self) sameReading moved

theorem Canonical.settled
    (canonical : Canonical same rank result items) : Settled same rank result items := by
  apply List.pairwise_iff_forall_sublist.mpr
  intro first second sublist
  obtain ⟨rest, perm⟩ := sublist.exists_perm_append
  have fixed := canonical.fixed refl
  have inFirst := fixed first (perm.symm.subset List.mem_cons_self)
  have inSecond := fixed second
    (perm.symm.subset (List.mem_cons_of_mem first List.mem_cons_self))
  rintro ⟨low, above, isLow, isAbove, lowFirst⟩ ⟨below, high, isBelow, isHigh, belowFirst⟩
    variant other isVariant isOther
  rw [inFirst variant low isVariant isLow, inSecond other below isOther isBelow]
  rcases le_total (rank low) (rank below) with between | between
  · exact canonical.read_of_between refl perm isLow isHigh isBelow between belowFirst
  · -- The second item has variants on both sides of the first one.
    have swapped := perm.trans (List.Perm.swap second first rest)
    rcases canonical.read_of_between refl swapped isBelow isAbove isLow between lowFirst with
      equal | noBelow | noLow
    · exact Or.inl equal.symm
    · exact Or.inr (Or.inr noBelow)
    · exact Or.inr (Or.inl noLow)

theorem canonical_iff (items : List α) :
    Canonical same rank result items ↔
      Fixed same result items ∧ Settled same rank result items := by
  constructor
  · intro canonical
    exact ⟨canonical.fixed refl, canonical.settled refl⟩
  · rintro ⟨fixed, settled⟩ first second ⟨named, namedPerm, isFirst⟩ ⟨others, othersPerm, isSecond⟩
      firstOrdered secondOrdered
    apply filterMap_eq_of_settled (namedPerm.trans othersPerm.symm) isFirst isSecond
      firstOrdered secondOrdered
    · exact fun item member => fixed item (namedPerm.subset member)
    · exact settled.perm namedPerm.symm

end

end Canonical

end SortedListing
