import Mathlib.Data.List.GetD
import Mathlib.Data.List.Lex
import Mathlib.Order.Lattice.Nat
import Tinkerbell.Library.SetMap
import Tinkerbell.Library.SortedListing
import Tinkerbell.Library.UrlPath

/-!
Owns: the directory listings of the metadata service, built from its data
endpoints, and what they describe.

Texts are byte lists, compared byte by byte. A loop over a Go map or set visits it
in any order, so building takes what the loop visited.
-/

namespace Tinkerbell.Tootles.StaticRoute

open ByteText (Bytes)
open UrlPath (slash segments joinSegments)

structure Route where
  endpoint : Bytes
  children : List Bytes
deriving DecidableEq

abbrev Builder := SetMap Bytes Bytes

def addComponents (split : List Bytes) : Nat → Builder → Builder
  | 0, b => b
  | index + 1, b =>
    let concat := joinSegments (split.take (index + 1))
    addComponents split index (b.add concat (split.getD (index + 1) []))

def fromEndpoint (b : Builder) (endpoint : Bytes) : Builder :=
  let endpoint := if [slash].isPrefixOf endpoint then endpoint else slash :: endpoint
  let split := segments endpoint
  addComponents split (split.length - 1) b

def rank (text : Bytes) : List Nat := text.map UInt8.toNat

def shownChild (b : Builder) (parent child : Bytes) : Bytes :=
  let asParent := joinSegments [parent, child]
  if b.hasKey asParent then child ++ [slash] else child

def buildRoute (b : Builder) (visit : Bytes × List Bytes) : Route :=
  ⟨visit.1, SortedListing.sort rank (visit.2.map (shownChild b visit.1))⟩

def build (b : Builder) (visited : List (Bytes × List Bytes)) : List Route :=
  SortedListing.sort (fun route => rank route.endpoint) (visited.map (buildRoute b))

/-- A path of non-empty segments, with or without a leading slash. -/
structure Endpoint where
  leadingSlash : Bool
  path : List Bytes
  notEmpty : path ≠ []
  isSegment : ∀ segment ∈ path, segment ≠ [] ∧ slash ∉ segment

def Endpoint.text (endpoint : Endpoint) : Bytes :=
  if endpoint.leadingSlash then slash :: joinSegments endpoint.path
  else joinSegments endpoint.path

def fromEndpoints (endpoints : List Endpoint) : Builder :=
  endpoints.foldl (fun b endpoint => fromEndpoint b endpoint.text) KeyedMap.empty

section Tree

variable {σ : Type}

/-- The segment comes next below the ancestor on some path. -/
def Child (paths : List (List σ)) (ancestor : List σ) (next : σ) : Prop :=
  ∃ path ∈ paths, ∃ rest, path = ancestor ++ next :: rest

def ProperAncestor (paths : List (List σ)) (ancestor : List σ) : Prop :=
  ∃ next, Child paths ancestor next

end Tree

def pathText (ancestor : List Bytes) : Bytes := ancestor.flatMap (slash :: ·)

/-- How a child is shown in the listing of its parent. -/
def Shown (paths : List (List Bytes)) (ancestor : List Bytes) (child text : Bytes) : Prop :=
  ProperAncestor paths (ancestor ++ [child]) ∧ text = child ++ [slash] ∨
    ¬ ProperAncestor paths (ancestor ++ [child]) ∧ text = child

/-- One route for each proper ancestor, in the order of their texts, which lists the next
segments below it, each once and in the order of their texts. -/
structure Describes (paths : List (List Bytes)) (routes : List Route) : Prop where
  sorted : routes.Pairwise fun first second => rank first.endpoint < rank second.endpoint
  endpoints : ∀ text, (∃ route ∈ routes, route.endpoint = text) ↔
    ∃ ancestor, ProperAncestor paths ancestor ∧ text = pathText ancestor
  childrenSorted : ∀ route ∈ routes,
    route.children.Pairwise fun first second => rank first < rank second
  children : ∀ route ∈ routes, ∀ ancestor, ProperAncestor paths ancestor →
    route.endpoint = pathText ancestor → ∀ text,
      text ∈ route.children ↔ ∃ child, Child paths ancestor child ∧ Shown paths ancestor child text

theorem joinSegments_cons (first : Bytes) (rest : List Bytes) :
    joinSegments (first :: rest) = first ++ pathText rest := by
  induction rest generalizing first with
  | nil => simp [joinSegments, pathText]
  | cons _ _ ih =>
    rw [joinSegments, ih]
    simp [pathText]

variable {first : Bytes} {b : Builder} {route : Route}

theorem segments_append_pathText {rest : List Bytes} (plain : slash ∉ first)
    (restPlain : ∀ segment ∈ rest, slash ∉ segment) :
    segments (first ++ pathText rest) = first :: rest := by
  induction rest generalizing first with
  | nil => simpa [pathText] using UrlPath.segments_plain plain
  | cons next later ih =>
    have isText : first ++ pathText (next :: later) =
        first ++ slash :: (next ++ pathText later) := by
      simp [pathText]
    rw [isText, UrlPath.segments_append, UrlPath.segments_plain plain,
      ih (restPlain next List.mem_cons_self)
        fun segment member => restPlain segment (List.mem_cons_of_mem next member)]
    rfl

theorem pathText_injective {first second : List Bytes}
    (plain : ∀ segment ∈ first, slash ∉ segment) (otherPlain : ∀ segment ∈ second, slash ∉ segment)
    (same : pathText first = pathText second) : first = second := by
  have ofFirst := segments_append_pathText (List.not_mem_nil (a := slash)) plain
  have ofSecond := segments_append_pathText (List.not_mem_nil (a := slash)) otherPlain
  rw [same] at ofFirst
  exact (List.cons.inj (ofFirst.symm.trans ofSecond)).2

theorem mem_addComponents (split : List Bytes) (index : Nat) (b : Builder) (key child : Bytes) :
    child ∈ (addComponents split index b).elementsAt key ↔
      child ∈ b.elementsAt key ∨ ∃ earlier < index,
        key = joinSegments (split.take (earlier + 1)) ∧ child = split.getD (earlier + 1) [] := by
  induction index generalizing b with
  | zero => simp [addComponents]
  | succ index ih =>
    rw [addComponents, ih, SetMap.mem_elementsAt_add]
    constructor
    · rintro ((isNew | isOld) | ⟨earlier, below, isEarlier⟩)
      · exact Or.inr ⟨index, Nat.lt_succ_self index, isNew⟩
      · exact Or.inl isOld
      · exact Or.inr ⟨earlier, Nat.lt_succ_of_lt below, isEarlier⟩
    · rintro (isOld | ⟨earlier, below, isEarlier⟩)
      · exact Or.inl (Or.inr isOld)
      · rcases Nat.lt_succ_iff_lt_or_eq.mp below with below | rfl
        · exact Or.inr ⟨earlier, below, isEarlier⟩
        · exact Or.inl (Or.inl isEarlier)

private theorem filled_addComponents (split : List Bytes) (index : Nat) (filled : SetMap.Filled b) :
    SetMap.Filled (addComponents split index b) := by
  induction index generalizing b with
  | zero => exact filled
  | succ _ ih => exact ih (filled.add _ _)

private theorem segments_of_endpoint (endpoint : Endpoint) :
    segments (if [slash].isPrefixOf endpoint.text then endpoint.text
      else slash :: endpoint.text) = [] :: endpoint.path := by
  obtain ⟨leadingSlash, path, notEmpty, isSegment⟩ := endpoint
  have plain : ∀ segment ∈ path, slash ∉ segment := fun segment member =>
    (isSegment segment member).2
  have isRooted : (slash :: joinSegments path) = [] ++ pathText path := by
    cases path with
    | nil => exact absurd rfl notEmpty
    | cons => simp [joinSegments_cons, pathText]
  have isSplit : segments (slash :: joinSegments path) = [] :: path := by
    rw [isRooted]
    exact segments_append_pathText List.not_mem_nil plain
  cases leadingSlash with
  | true => simpa [Endpoint.text] using isSplit
  | false =>
    have notRooted : [slash].isPrefixOf (joinSegments path) = false := by
      cases path with
      | nil => exact absurd rfl notEmpty
      | cons first =>
        cases first with
        | nil => exact absurd rfl (isSegment [] List.mem_cons_self).1
        | cons byte =>
          have notSlash : slash ≠ byte := by
            rintro rfl
            exact plain _ List.mem_cons_self List.mem_cons_self
          simp [joinSegments_cons, List.isPrefixOf, notSlash]
    simpa [Endpoint.text, notRooted] using isSplit

private theorem mem_fromEndpoint (endpoint : Endpoint) (b : Builder) (key child : Bytes) :
    child ∈ (fromEndpoint b endpoint.text).elementsAt key ↔
      child ∈ b.elementsAt key ∨ ∃ ancestor,
        (∃ rest, endpoint.path = ancestor ++ child :: rest) ∧ key = pathText ancestor := by
  unfold fromEndpoint
  dsimp only
  rw [segments_of_endpoint, mem_addComponents, List.length_cons, Nat.add_sub_cancel]
  refine or_congr_right ?_
  constructor
  · rintro ⟨earlier, below, isKey, isChild⟩
    refine ⟨endpoint.path.take earlier, ⟨endpoint.path.drop (earlier + 1), ?_⟩, ?_⟩
    · rw [isChild, List.getD_cons_succ, List.getD_eq_getElem _ _ below,
        List.getElem_cons_drop, List.take_append_drop]
    · rw [isKey, List.take_succ_cons, joinSegments_cons, List.nil_append]
  · rintro ⟨ancestor, ⟨rest, isPath⟩, isKey⟩
    refine ⟨ancestor.length, ?_, ?_, ?_⟩
    · rw [isPath, List.length_append, List.length_cons]
      omega
    · rw [isKey, isPath, List.take_succ_cons, List.take_left, joinSegments_cons, List.nil_append]
    · rw [isPath, List.getD_cons_succ, List.getD_append_right _ _ _ _ (Nat.le_refl _),
        Nat.sub_self]
      rfl

theorem mem_fromEndpoints (endpoints : List Endpoint) (key child : Bytes) :
    child ∈ (fromEndpoints endpoints).elementsAt key ↔
      ∃ ancestor, Child (endpoints.map (·.path)) ancestor child ∧ key = pathText ancestor := by
  have fromStart : ∀ b : Builder, child ∈ SetMap.elementsAt
      (endpoints.foldl (fun b endpoint => fromEndpoint b endpoint.text) b) key ↔
      child ∈ b.elementsAt key ∨
        ∃ ancestor, Child (endpoints.map (·.path)) ancestor child ∧ key = pathText ancestor := by
    induction endpoints with
    | nil => simp [Child]
    | cons _ _ ih =>
      intro b
      rw [List.foldl_cons, ih, mem_fromEndpoint, or_assoc]
      simp only [Child, List.map_cons, List.mem_cons, or_and_right, exists_or, exists_eq_left]
  rw [fromEndpoints, fromStart]
  exact or_iff_right List.not_mem_nil

private theorem filled_fromEndpoints (endpoints : List Endpoint) :
    SetMap.Filled (fromEndpoints endpoints) := by
  refine List.foldlRecOn endpoints _ SetMap.filled_empty ?_
  intro b filled endpoint _
  exact filled_addComponents _ _ filled

theorem hasKey_fromEndpoints (endpoints : List Endpoint) (key : Bytes) :
    (fromEndpoints endpoints).hasKey key = true ↔
      ∃ ancestor, ProperAncestor (endpoints.map (·.path)) ancestor ∧ key = pathText ancestor := by
  rw [filled_fromEndpoints endpoints key]
  simp only [mem_fromEndpoints]
  constructor
  · rintro ⟨child, ancestor, isChild, isKey⟩
    exact ⟨ancestor, ⟨child, isChild⟩, isKey⟩
  · rintro ⟨ancestor, ⟨child, isChild⟩, isKey⟩
    exact ⟨child, ancestor, isChild, isKey⟩

variable {ancestor : List Bytes} {child : Bytes} {paths : List (List Bytes)}
  {routes others : List Route}

theorem plain_of_child {endpoints : List Endpoint}
    (isChild : Child (endpoints.map (·.path)) ancestor child) :
    ∀ segment ∈ ancestor ++ [child], slash ∉ segment := by
  obtain ⟨_, isPath, rest, isSplit⟩ := isChild
  obtain ⟨endpoint, _, rfl⟩ := List.mem_map.mp isPath
  intro segment member
  refine (endpoint.isSegment segment ?_).2
  rw [isSplit, List.append_cons]
  exact List.mem_append_left rest member

private theorem joinSegments_pathText (ancestor : List Bytes) (child : Bytes) :
    joinSegments [pathText ancestor, child] = pathText (ancestor ++ [child]) := by
  simp [joinSegments, pathText]

theorem shown_shownChild {endpoints : List Endpoint}
    (isChild : Child (endpoints.map (·.path)) ancestor child) :
    Shown (endpoints.map (·.path)) ancestor child
      (shownChild (fromEndpoints endpoints) (pathText ancestor) child) := by
  have isParent : (fromEndpoints endpoints).hasKey (pathText (ancestor ++ [child])) = true ↔
      ProperAncestor (endpoints.map (·.path)) (ancestor ++ [child]) := by
    rw [hasKey_fromEndpoints]
    constructor
    · rintro ⟨other, ⟨next, isNext⟩, sameText⟩
      have otherPlain : ∀ segment ∈ other, slash ∉ segment := fun segment member =>
        plain_of_child isNext segment (List.mem_append_left [next] member)
      rw [pathText_injective (plain_of_child isChild) otherPlain sameText]
      exact ⟨next, isNext⟩
    · intro isAncestor
      exact ⟨ancestor ++ [child], isAncestor, rfl⟩
  unfold Shown shownChild
  rw [joinSegments_pathText]
  by_cases isAncestor : ProperAncestor (endpoints.map (·.path)) (ancestor ++ [child])
  · exact Or.inl ⟨isAncestor, if_pos (isParent.mpr isAncestor)⟩
  · exact Or.inr ⟨isAncestor, if_neg fun isKey => isAncestor (isParent.mp isKey)⟩

theorem Shown.unique {text other : Bytes} (shown : Shown paths ancestor child text)
    (otherShown : Shown paths ancestor child other) : text = other := by
  rcases shown with ⟨isAncestor, isText⟩ | ⟨notAncestor, isText⟩
  · rcases otherShown with ⟨-, isOther⟩ | ⟨notAncestor, -⟩
    · rw [isText, isOther]
    · exact absurd isAncestor notAncestor
  · rcases otherShown with ⟨isAncestor, -⟩ | ⟨-, isOther⟩
    · exact absurd isAncestor notAncestor
    · rw [isText, isOther]

private theorem shownChild_injective {parent second : Bytes} (plain : slash ∉ first)
    (otherPlain : slash ∉ second) (same : shownChild b parent first = shownChild b parent second) :
    first = second := by
  unfold shownChild at same
  dsimp only at same
  split at same
  · split at same
    · exact List.append_cancel_right same
    · refine absurd ?_ otherPlain
      rw [← same]
      exact List.mem_append_right first List.mem_cons_self
  · split at same
    · refine absurd ?_ plain
      rw [same]
      exact List.mem_append_right second List.mem_cons_self
    · exact same

theorem rank_injective : Function.Injective rank :=
  List.map_injective_iff.mpr fun _ _ => UInt8.toNat_inj.mp

section Build

variable {endpoints : List Endpoint} {visited : List (Bytes × List Bytes)}

variable {visit : Bytes × List Bytes}

private theorem mem_visit_iff (visits : SetMap.Visits (fromEndpoints endpoints) visited)
    (member : visit ∈ visited) (isAncestor : ProperAncestor (endpoints.map (·.path)) ancestor)
    (isKey : visit.1 = pathText ancestor) (child : Bytes) :
    child ∈ visit.2 ↔ Child (endpoints.map (·.path)) ancestor child := by
  rw [(visits.elements visit member).2, mem_fromEndpoints]
  constructor
  · rintro ⟨other, isChild, sameText⟩
    obtain ⟨next, isNext⟩ := isAncestor
    have same : ancestor = other := pathText_injective
      (fun segment inPath => plain_of_child isNext segment (List.mem_append_left [next] inPath))
      (fun segment inPath => plain_of_child isChild segment (List.mem_append_left [child] inPath))
      (isKey.symm.trans sameText)
    rw [same]
    exact isChild
  · intro isChild
    exact ⟨ancestor, isChild, isKey⟩

private theorem nodup_shown (visits : SetMap.Visits (fromEndpoints endpoints) visited)
    (member : visit ∈ visited) :
    ((visit.2.map (shownChild (fromEndpoints endpoints) visit.1)).map rank).Nodup := by
  refine List.Nodup.map rank_injective ?_
  refine List.Nodup.map_on ?_ (visits.elements visit member).1
  have plain : ∀ child ∈ visit.2, slash ∉ child := by
    intro child isMember
    obtain ⟨ancestor, isChild, -⟩ :=
      (mem_fromEndpoints ..).mp (((visits.elements visit member).2 child).mp isMember)
    exact plain_of_child isChild child (by simp)
  intro first isFirst second isSecond same
  exact shownChild_injective (plain first isFirst) (plain second isSecond) same

theorem mem_build_iff :
    route ∈ build b visited ↔ ∃ visit ∈ visited, buildRoute b visit = route := by
  rw [build, (SortedListing.perm_sort _ _).mem_iff, List.mem_map]

theorem describes_build (visits : SetMap.Visits (fromEndpoints endpoints) visited) :
    Describes (endpoints.map (·.path)) (build (fromEndpoints endpoints) visited) := by
  refine ⟨?_, ?_, ?_, ?_⟩
  · refine SortedListing.strict_sort _ ?_
    have distinct := visits.nodup.map rank_injective
    rw [List.map_map] at distinct ⊢
    exact distinct
  · intro text
    rw [← hasKey_fromEndpoints, ← visits.mem_keys_iff, List.mem_map]
    simp only [mem_build_iff]
    constructor
    · rintro ⟨route, ⟨visit, member, rfl⟩, isText⟩
      exact ⟨visit, member, isText⟩
    · rintro ⟨visit, member, isText⟩
      exact ⟨_, ⟨visit, member, rfl⟩, isText⟩
  · intro route isRoute
    obtain ⟨_, member, rfl⟩ := mem_build_iff.mp isRoute
    exact SortedListing.strict_sort rank (nodup_shown visits member)
  · intro route isRoute ancestor isAncestor isKey text
    obtain ⟨visit, member, rfl⟩ := mem_build_iff.mp isRoute
    have isVisitKey : visit.1 = pathText ancestor := isKey
    have isListed := mem_visit_iff visits member isAncestor isVisitKey
    rw [buildRoute, (SortedListing.perm_sort _ _).mem_iff, List.mem_map, isVisitKey]
    constructor
    · rintro ⟨child, isMember, rfl⟩
      have isChild := (isListed child).mp isMember
      exact ⟨child, isChild, shown_shownChild isChild⟩
    · rintro ⟨child, isChild, shown⟩
      exact ⟨child, (isListed child).mpr isChild, (shown_shownChild isChild).unique shown⟩

end Build

instance irreflRank {α : Type} (text : α → Bytes) :
    Std.Irrefl fun first second : α => rank (text first) < rank (text second) :=
  ⟨fun _ => lt_irrefl _⟩

instance antisymmRank {α : Type} (text : α → Bytes) :
    Std.Antisymm fun first second : α => rank (text first) < rank (text second) :=
  ⟨fun _ _ below above => absurd above (lt_asymm below)⟩

section

variable (describes : Describes paths routes) (describesOthers : Describes paths others)
include describes describesOthers

theorem Describes.children_eq {other : Route} (isRoute : route ∈ routes)
    (isOther : other ∈ others) (same : route.endpoint = other.endpoint) : route = other := by
  obtain ⟨ancestor, isAncestor, isText⟩ := (describes.endpoints _).mp ⟨route, isRoute, rfl⟩
  have sameChildren : route.children = other.children := by
    refine List.Pairwise.eq_of_mem_iff (describes.childrenSorted route isRoute)
      (describesOthers.childrenSorted other isOther) ?_
    intro text
    rw [describes.children route isRoute ancestor isAncestor isText,
      describesOthers.children other isOther ancestor isAncestor (same.symm.trans isText)]
  cases route with
  | mk =>
    cases other with
    | mk =>
      cases same
      cases sameChildren
      rfl

theorem Describes.subset (isRoute : route ∈ routes) :
    route ∈ others := by
  have isText := (describes.endpoints _).mp ⟨route, isRoute, rfl⟩
  obtain ⟨_, isOther, same⟩ := (describesOthers.endpoints _).mpr isText
  rw [describes.children_eq describesOthers isRoute isOther same.symm]
  exact isOther

theorem Describes.unique :
    routes = others := by
  refine List.Pairwise.eq_of_mem_iff describes.sorted describesOthers.sorted ?_
  intro route
  exact ⟨describes.subset describesOthers, describesOthers.subset describes⟩

end

theorem Describes.congr {others : List (List Bytes)} (same : ∀ path, path ∈ paths ↔ path ∈ others)
    (describes : Describes paths routes) :
    Describes others routes := by
  have sameChild : Child paths = Child others := by
    funext ancestor next
    simp only [Child, same]
  have sameAncestor : ProperAncestor paths = ProperAncestor others := by
    funext ancestor
    rw [ProperAncestor, ProperAncestor, sameChild]
  have sameShown : Shown paths = Shown others := by
    funext ancestor child text
    rw [Shown, Shown, sameAncestor]
  obtain ⟨sorted, endpoints, childrenSorted, children⟩ := describes
  rw [sameAncestor] at endpoints children
  rw [sameChild, sameShown] at children
  exact ⟨sorted, endpoints, childrenSorted, children⟩

/-- The listings describe the endpoints, whichever way the loops go, and are the same for
every list of the same endpoints. -/
theorem listings_describe_the_endpoints {endpoints : List Endpoint}
    {visited : List (Bytes × List Bytes)}
    (visits : SetMap.Visits (fromEndpoints endpoints) visited) :
    Describes (endpoints.map (·.path)) (build (fromEndpoints endpoints) visited) ∧
      ∀ (others : List Endpoint) (otherVisited : List (Bytes × List Bytes)),
        SetMap.Visits (fromEndpoints others) otherVisited →
        (∀ path, path ∈ endpoints.map (·.path) ↔ path ∈ others.map (·.path)) →
        build (fromEndpoints others) otherVisited = build (fromEndpoints endpoints) visited := by
  refine ⟨describes_build visits, ?_⟩
  intro others otherVisited otherVisits same
  exact (describes_build otherVisits).unique ((describes_build visits).congr same)

/-- The endpoints "foo", "foo/a" and "/foo/a", and two of them in another order. -/
theorem listings_describe_the_endpoints_nested :
    ∃ (endpoints others : List Endpoint) (routes : List Route),
      endpoints.map Endpoint.text = [[102, 111, 111], [102, 111, 111, 47, 97],
        [47, 102, 111, 111, 47, 97]] ∧
      others.map Endpoint.text = [[47, 102, 111, 111, 47, 97], [102, 111, 111]] ∧
      routes = [⟨[], [[102, 111, 111, 47]]⟩, ⟨[47, 102, 111, 111], [[97]]⟩] ∧
      Describes (endpoints.map (·.path)) routes ∧
      build (fromEndpoints others) (fromEndpoints others).inOrder = routes := by
  have isFoo : ∀ segment ∈ [[102, 111, 111]], segment ≠ [] ∧ slash ∉ segment := by decide
  have isNested : ∀ segment ∈ [[102, 111, 111], [97]], segment ≠ [] ∧ slash ∉ segment := by
    decide
  have found := listings_describe_the_endpoints (SetMap.visits_inOrder (fromEndpoints
    [⟨false, [[102, 111, 111]], List.cons_ne_nil _ _, isFoo⟩,
      ⟨false, [[102, 111, 111], [97]], List.cons_ne_nil _ _, isNested⟩,
      ⟨true, [[102, 111, 111], [97]], List.cons_ne_nil _ _, isNested⟩]))
  refine ⟨_, [⟨true, [[102, 111, 111], [97]], List.cons_ne_nil _ _, isNested⟩,
    ⟨false, [[102, 111, 111]], List.cons_ne_nil _ _, isFoo⟩], _, rfl, rfl,
    ?_, found.1, found.2 _ _ (SetMap.visits_inOrder _) ?_⟩
  · clear found
    decide +kernel +revert
  · intro path
    simp only [List.map_cons, List.map_nil, List.mem_cons, List.not_mem_nil, or_false]
    tauto

end Tinkerbell.Tootles.StaticRoute
