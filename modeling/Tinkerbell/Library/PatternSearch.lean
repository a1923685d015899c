import Mathlib.Data.List.Basic
import Mathlib.Data.List.Infix

/-!
Owns: the first occurrence of a pattern in a list, its replacement by a list of
the same length, and what becomes of both when the list is cut into pieces.

Replacing piece by piece gives what replacing in the whole list gives exactly
when there is no occurrence, or the first occurrence lies within one piece and
no other piece has one (`flatMap_replaceFirst_eq_iff`). The argument compares
the two results at the first place where the replacement differs from the
pattern.
-/

namespace PatternSearch

universe u

variable {α : Type u}

/-- The first occurrence of the pattern is at this position. -/
def FirstAt (pattern text : List α) (position : Nat) : Prop :=
  pattern <+: text.drop position ∧
    ∀ earlier, earlier < position → ¬pattern <+: text.drop earlier

variable [DecidableEq α]

def index (pattern : List α) : List α → Option Nat
  | [] => if pattern = [] then some 0 else none
  | head :: rest =>
    if pattern <+: head :: rest then some 0
    else (index pattern rest).map (· + 1)

def splice (text : List α) (position : Nat) (replacement : List α) : List α :=
  text.take position ++ replacement ++ text.drop (position + replacement.length)

def replaceFirst (pattern replacement text : List α) : List α :=
  match index pattern text with
  | none => text
  | some position => splice text position replacement

variable {text : List α} {position : Nat}

theorem index_eq_some_iff {pattern : List α} (nonempty : pattern ≠ []) :
    index pattern text = some position ↔ FirstAt pattern text position := by
  induction text generalizing position with
  | nil => simp [index, FirstAt, nonempty]
  | cons head rest ih =>
    unfold index
    by_cases here : pattern <+: head :: rest
    · rw [if_pos here]
      constructor
      · intro same
        cases same
        exact ⟨here, fun earlier below => absurd below (Nat.not_lt_zero earlier)⟩
      · rintro ⟨_, first⟩
        have isZero : position = 0 := by
          by_contra positive
          exact first 0 (by omega) here
        rw [isZero]
    · rw [if_neg here, Option.map_eq_some_iff]
      constructor
      · rintro ⟨later, found, rfl⟩
        obtain ⟨occurs, first⟩ := ih.mp found
        refine ⟨occurs, ?_⟩
        intro earlier below
        cases earlier with
        | zero => exact here
        | succ earlier => exact first earlier (by omega)
      · rintro ⟨occurs, first⟩
        cases position with
        | zero => exact absurd occurs here
        | succ later =>
          refine ⟨later, ih.mpr ⟨occurs, ?_⟩, rfl⟩
          intro earlier below
          exact first (earlier + 1) (by omega)

theorem index_eq_none_iff {pattern : List α} (nonempty : pattern ≠ []) :
    index pattern text = none ↔ ∀ position, ¬pattern <+: text.drop position := by
  induction text with
  | nil => simp [index, nonempty]
  | cons head rest ih =>
    unfold index
    by_cases here : pattern <+: head :: rest
    · rw [if_pos here]
      constructor
      · intro found
        cases found
      · intro absent
        exact absurd here (absent 0)
    · rw [if_neg here, Option.map_eq_none_iff, ih]
      constructor
      · intro absent position
        cases position with
        | zero => exact here
        | succ position => exact absent position
      · intro absent position
        exact absent (position + 1)

theorem exists_split {pattern : List α} (nonempty : pattern ≠ [])
    (found : index pattern text = some position) :
    ∃ before after, text = before ++ pattern ++ after ∧ before.length = position := by
  obtain ⟨occurs, _⟩ := (index_eq_some_iff nonempty).mp found
  obtain ⟨after, isAfter⟩ := occurs
  have inside : position ≤ text.length := by
    by_contra beyond
    have empty : text.drop position = [] := List.drop_eq_nil_of_le (by omega)
    rw [empty] at isAfter
    exact nonempty (List.append_eq_nil_iff.mp isAfter).1
  refine ⟨text.take position, after, ?_, ?_⟩
  · rw [List.append_assoc, isAfter, List.take_append_drop]
  · rw [List.length_take]
    omega

theorem infix_iff_found {pattern : List α} (nonempty : pattern ≠ []) (text : List α) :
    pattern <:+: text ↔ ∃ position, index pattern text = some position := by
  constructor
  · rintro ⟨before, after, isText⟩
    cases found : index pattern text with
    | some position => exact ⟨position, rfl⟩
    | none =>
      have absent := (index_eq_none_iff nonempty).mp found before.length
      rw [← isText, List.append_assoc, List.drop_left] at absent
      exact absurd (List.prefix_append _ _) absent
  · rintro ⟨position, found⟩
    obtain ⟨before, after, isText, _⟩ := exists_split nonempty found
    exact ⟨before, after, isText.symm⟩

theorem length_le_of_found {pattern : List α} (nonempty : pattern ≠ [])
    (found : index pattern text = some position) :
    position + pattern.length ≤ text.length := by
  obtain ⟨_, _, rfl, _⟩ := exists_split nonempty found
  simp only [List.length_append]
  omega

omit [DecidableEq α] in
theorem prefix_drop_append_left {pattern left right : List α}
    (inside : position + pattern.length ≤ left.length) :
    pattern <+: (left ++ right).drop position ↔ pattern <+: left.drop position := by
  rw [List.drop_append_of_le_length (by omega)]
  constructor
  · intro occurs
    apply List.prefix_of_prefix_length_le occurs (List.prefix_append _ _)
    rw [List.length_drop]
    omega
  · intro occurs
    exact occurs.trans (List.prefix_append _ _)

omit [DecidableEq α] in
theorem prefix_drop_append_right {pattern right : List α} (left : List α) (position : Nat) :
    pattern <+: (left ++ right).drop (left.length + position) ↔
      pattern <+: right.drop position := by
  rw [List.drop_append, List.drop_eq_nil_of_le (by omega), List.nil_append, Nat.add_sub_cancel_left]

theorem index_append_left {pattern left : List α} (nonempty : pattern ≠ [])
    (found : index pattern left = some position) (right : List α) :
    index pattern (left ++ right) = some position := by
  have inside := length_le_of_found nonempty found
  obtain ⟨occurs, first⟩ := (index_eq_some_iff nonempty).mp found
  rw [index_eq_some_iff nonempty]
  refine ⟨(prefix_drop_append_left inside).mpr occurs, ?_⟩
  intro earlier below
  rw [prefix_drop_append_left (by omega)]
  exact first earlier below

theorem index_append_right {pattern left right : List α} (nonempty : pattern ≠ []) :
    index pattern (left ++ right) = some (left.length + position) ↔
      (∀ earlier, earlier < left.length → ¬pattern <+: (left ++ right).drop earlier) ∧
        index pattern right = some position := by
  rw [index_eq_some_iff nonempty, index_eq_some_iff nonempty,
    FirstAt, FirstAt, prefix_drop_append_right left position]
  constructor
  · rintro ⟨occurs, first⟩
    refine ⟨?_, occurs, ?_⟩
    · intro earlier below
      exact first earlier (by omega)
    · intro earlier below
      rw [← prefix_drop_append_right left]
      exact first (left.length + earlier) (by omega)
  · rintro ⟨notLeft, occurs, first⟩
    refine ⟨occurs, ?_⟩
    intro earlier below
    by_cases inLeft : earlier < left.length
    · exact notLeft earlier inLeft
    · have later := first (earlier - left.length) (by omega)
      rw [← prefix_drop_append_right left] at later
      rw [show earlier = left.length + (earlier - left.length) by omega]
      exact later

theorem index_append_none {pattern left right : List α} (nonempty : pattern ≠ [])
    (absent : index pattern (left ++ right) = none) :
    index pattern left = none ∧ index pattern right = none := by
  constructor
  · cases found : index pattern left with
    | none => rfl
    | some =>
      rw [index_append_left nonempty found] at absent
      cases absent
  · rw [index_eq_none_iff nonempty] at absent ⊢
    intro position
    rw [← prefix_drop_append_right left]
    exact absent (left.length + position)

omit [DecidableEq α] in
theorem splice_split (before old after : List α) {replacement : List α}
    (fits : replacement.length ≤ old.length) :
    splice (before ++ old ++ after) before.length replacement =
      before ++ (replacement ++ old.drop replacement.length) ++ after := by
  have isBefore : (before ++ old ++ after).take before.length = before := by
    rw [List.append_assoc, List.take_left]
  have isAfter : (before ++ old ++ after).drop (before.length + replacement.length) =
      old.drop replacement.length ++ after := by
    rw [List.append_assoc, ← List.drop_drop, List.drop_left, List.drop_append_of_le_length fits]
  unfold splice
  rw [isBefore, isAfter]
  simp only [List.append_assoc]

omit [DecidableEq α] in
theorem length_splice {text replacement : List α} {position : Nat}
    (inside : position + replacement.length ≤ text.length) :
    (splice text position replacement).length = text.length := by
  unfold splice
  rw [List.length_append, List.length_append, List.length_take, List.length_drop]
  omega

omit [DecidableEq α] in
theorem getElem?_replaced {before old after replacement : List α}
    (sameLength : replacement.length = old.length) {place : Nat}
    (outside : place < before.length ∨ before.length + old.length ≤ place) :
    (before ++ replacement ++ after)[place]? = (before ++ old ++ after)[place]? := by
  rw [List.append_assoc, List.append_assoc]
  rcases outside with inBefore | inAfter
  · rw [List.getElem?_append_left inBefore, List.getElem?_append_left inBefore]
  · rw [List.getElem?_append_right (by omega), List.getElem?_append_right (by omega),
      List.getElem?_append_right (by omega), List.getElem?_append_right (by omega), sameLength]

section Replace

variable {pattern replacement : List α}

variable {text : List α} {position : Nat}

theorem replaceFirst_of_none (absent : index pattern text = none) :
    replaceFirst pattern replacement text = text := by
  unfold replaceFirst
  rw [absent]

variable (nonempty : pattern ≠ []) (sameLength : replacement.length = pattern.length)

include nonempty sameLength

theorem replaceFirst_split (found : index pattern text = some position) :
    ∃ before after, text = before ++ pattern ++ after ∧ before.length = position ∧
      replaceFirst pattern replacement text = before ++ replacement ++ after := by
  obtain ⟨before, after, isText, isLength⟩ := exists_split nonempty found
  refine ⟨before, after, isText, isLength, ?_⟩
  unfold replaceFirst
  rw [found]
  dsimp only
  rw [isText, ← isLength, splice_split before pattern after (by omega), sameLength,
    List.drop_length, List.append_nil]

theorem length_replaceFirst (text : List α) :
    (replaceFirst pattern replacement text).length = text.length := by
  cases found : index pattern text with
  | none => rw [replaceFirst_of_none found]
  | some =>
    obtain ⟨_, _, isText, _, replaced⟩ :=
      replaceFirst_split nonempty sameLength found
    rw [replaced, isText]
    simp [sameLength]

theorem getElem?_replaceFirst (found : index pattern text = some position) {place : Nat}
    (outside : place < position ∨ position + pattern.length ≤ place) :
    (replaceFirst pattern replacement text)[place]? = text[place]? := by
  obtain ⟨_, _, isText, isBefore, replaced⟩ :=
    replaceFirst_split nonempty sameLength found
  rw [← isBefore] at outside
  rw [replaced, isText]
  exact getElem?_replaced sameLength outside

theorem take_drop_replaceFirst (found : index pattern text = some position) :
    ((replaceFirst pattern replacement text).drop position).take pattern.length = replacement := by
  obtain ⟨_, _, _, isBefore, replaced⟩ :=
    replaceFirst_split nonempty sameLength found
  rw [replaced, List.append_assoc, ← isBefore, List.drop_left, List.take_left' sameLength]

theorem replaceFirst_self (same : replacement = pattern) (text : List α) :
    replaceFirst pattern replacement text = text := by
  cases found : index pattern text with
  | none => exact replaceFirst_of_none found
  | some =>
    obtain ⟨_, _, isText, _, replaced⟩ :=
      replaceFirst_split nonempty sameLength found
    rw [replaced, same, ← isText]

variable {left : List α}

theorem replaceFirst_append_left (found : index pattern left = some position) (right : List α) :
    replaceFirst pattern replacement (left ++ right) =
      replaceFirst pattern replacement left ++ right := by
  have inside := length_le_of_found nonempty found
  unfold replaceFirst
  rw [found, index_append_left nonempty found right]
  dsimp only
  unfold splice
  rw [List.take_append_of_le_length (by omega), List.drop_append_of_le_length (by omega)]
  simp

theorem replaceFirst_append_right {right : List α}
    (found : index pattern (left ++ right) = some (left.length + position)) :
    replaceFirst pattern replacement (left ++ right) =
      left ++ replaceFirst pattern replacement right := by
  have foundRight := ((index_append_right nonempty).mp found).2
  unfold replaceFirst
  rw [found, foundRight]
  dsimp only
  unfold splice
  rw [List.take_append, List.take_of_length_le (by omega), Nat.add_sub_cancel_left,
    List.drop_append, List.drop_eq_nil_of_le (by omega),
    show left.length + position + replacement.length - left.length =
      position + replacement.length by omega]
  simp

end Replace

omit [DecidableEq α] in
theorem exists_first_difference {first second : List α}
    (sameLength : second.length = first.length) (different : second ≠ first) :
    ∃ common left right firstRest secondRest, first = common ++ left :: firstRest ∧
      second = common ++ right :: secondRest ∧ left ≠ right := by
  classical
  induction first generalizing second with
  | nil => exact absurd (List.eq_nil_of_length_eq_zero sameLength) different
  | cons left firstRest ih =>
    cases second with
    | nil => cases sameLength
    | cons right secondRest =>
      by_cases same : left = right
      · subst same
        have restDiffers : secondRest ≠ firstRest := fun isRest =>
          different (congrArg (left :: ·) isRest)
        have restLength : secondRest.length = firstRest.length := by
          simpa using sameLength
        obtain ⟨common, x, y, firstTail, secondTail, isFirst, isSecond, differ⟩ :=
          ih restLength restDiffers
        refine ⟨left :: common, x, y, firstTail, secondTail, ?_, ?_, differ⟩
        · rw [isFirst, List.cons_append]
        · rw [isSecond, List.cons_append]
      · exact ⟨[], left, right, firstRest, secondRest, rfl, rfl, same⟩

omit [DecidableEq α] in
theorem take_through (before common after : List α) (next : α) :
    (before ++ (common ++ next :: after)).take (before.length + common.length + 1) =
      before ++ common ++ [next] := by
  rw [← List.append_assoc, ← List.length_append, List.take_append, List.take_of_length_le
    (by omega), Nat.add_sub_cancel_left]
  rfl

def WithinOne (pattern : List α) (pieces : List (List α)) : Prop :=
  ∃ before piece after position, pieces = before ++ piece :: after ∧
    index pattern piece = some position ∧
    index pattern pieces.flatten = some (before.flatten.length + position) ∧
    ∀ later ∈ after, index pattern later = none

section Pieces

variable {pattern replacement : List α} (nonempty : pattern ≠ [])

include nonempty

variable {piece : List α} {position : Nat}

theorem withinOne_of_found (found : index pattern piece = some position) (rest : List (List α)) :
    WithinOne pattern (piece :: rest) ↔ ∀ later ∈ rest, index pattern later = none := by
  have foundFirst : index pattern (piece :: rest).flatten = some position :=
    index_append_left nonempty found rest.flatten
  constructor
  · rintro ⟨before, read, after, at_, isPieces, foundRead, isFirst, noLater⟩
    cases before with
    | nil =>
      obtain ⟨rfl, rfl⟩ := List.cons.inj isPieces
      exact noLater
    | cons =>
      -- the piece would lie after the first occurrence
      obtain ⟨rfl, rfl⟩ := List.cons.inj isPieces
      have inside := length_le_of_found nonempty found
      have positive := List.length_pos_of_ne_nil nonempty
      rw [foundFirst, Option.some.injEq, List.flatten_cons, List.length_append] at isFirst
      omega
  · intro noLater
    refine ⟨[], piece, rest, position, rfl, found, ?_, noLater⟩
    simpa using foundFirst

variable {rest : List (List α)}

theorem withinOne_of_right (absent : index pattern piece = none)
    (found : index pattern (piece ++ rest.flatten) = some (piece.length + position)) :
    WithinOne pattern (piece :: rest) ↔ WithinOne pattern rest := by
  have foundRest := ((index_append_right nonempty).mp found).2
  constructor
  · rintro ⟨before, read, after, at_, isPieces, foundRead, isFirst, noLater⟩
    cases before with
    | nil =>
      obtain ⟨rfl, rfl⟩ := List.cons.inj isPieces
      rw [absent] at foundRead
      cases foundRead
    | cons _ before =>
      obtain ⟨rfl, rfl⟩ := List.cons.inj isPieces
      refine ⟨before, read, after, at_, rfl, foundRead, ?_, noLater⟩
      rw [List.flatten_cons, found, Option.some.injEq, List.flatten_cons,
        List.length_append] at isFirst
      rw [foundRest, Option.some.injEq]
      omega
  · rintro ⟨before, read, after, at_, rfl, foundRead, isFirst, noLater⟩
    refine ⟨piece :: before, read, after, at_, rfl, foundRead, ?_, noLater⟩
    rw [foundRest, Option.some.injEq] at isFirst
    rw [List.flatten_cons, found, List.flatten_cons, List.length_append, Option.some.injEq]
    omega

omit nonempty in
theorem not_withinOne_of_straddle (absent : index pattern piece = none)
    (found : index pattern (piece ++ rest.flatten) = some position)
    (begins : position < piece.length) : ¬WithinOne pattern (piece :: rest) := by
  rintro ⟨before, read, after, at_, isPieces, foundRead, isFirst, _⟩
  cases before with
  | nil =>
    obtain ⟨rfl, rfl⟩ := List.cons.inj isPieces
    rw [absent] at foundRead
    cases foundRead
  | cons =>
    obtain ⟨rfl, rfl⟩ := List.cons.inj isPieces
    rw [List.flatten_cons, found, Option.some.injEq, List.flatten_cons,
      List.length_append] at isFirst
    omega

variable (sameLength : replacement.length = pattern.length)

include sameLength

theorem replaceFirst_eq_self_iff (different : replacement ≠ pattern) :
    replaceFirst pattern replacement text = text ↔ index pattern text = none := by
  constructor
  · intro unchanged
    cases found : index pattern text with
    | none => rfl
    | some =>
      obtain ⟨_, _, isText, _, replaced⟩ :=
        replaceFirst_split nonempty sameLength found
      rw [unchanged, isText, List.append_left_inj, List.append_right_inj] at replaced
      exact absurd replaced.symm different
  · exact replaceFirst_of_none

theorem flatMap_replaceFirst_eq_flatten_iff (different : replacement ≠ pattern)
    (pieces : List (List α)) :
    pieces.flatMap (replaceFirst pattern replacement) = pieces.flatten ↔
      ∀ piece ∈ pieces, index pattern piece = none := by
  induction pieces with
  | nil => simp
  | cons piece _ ih =>
    rw [List.flatMap_cons, List.flatten_cons, List.forall_mem_cons, ← ih,
      ← replaceFirst_eq_self_iff nonempty sameLength different]
    constructor
    · intro same
      exact List.append_inj same (length_replaceFirst nonempty sameLength piece)
    · rintro ⟨samePiece, sameRest⟩
      rw [samePiece, sameRest]

section Difference

variable {common patternRest replacementRest : List α} {left right : α}
  (isPattern : pattern = common ++ left :: patternRest)
  (isReplacement : replacement = common ++ right :: replacementRest)

include isPattern isReplacement

variable {count : Nat}

theorem take_replaceFirst (short : count ≤ common.length) (text : List α) :
    (replaceFirst pattern replacement text).take count = text.take count := by
  cases found : index pattern text with
  | none => rw [replaceFirst_of_none found]
  | some =>
    obtain ⟨before, _, isText, _, replaced⟩ :=
      replaceFirst_split nonempty sameLength found
    have reaches : count ≤ (before ++ common).length := by
      rw [List.length_append]
      omega
    rw [replaced, isText, isPattern, isReplacement, ← List.append_assoc before,
      List.append_assoc (before ++ common), ← List.append_assoc before,
      List.append_assoc (before ++ common), List.take_append_of_le_length reaches,
      List.take_append_of_le_length reaches]

theorem take_flatMap_replaceFirst (short : count ≤ common.length) (pieces : List (List α)) :
    (pieces.flatMap (replaceFirst pattern replacement)).take count = pieces.flatten.take count := by
  induction pieces generalizing count with
  | nil => simp
  | cons _ _ ih =>
    rw [List.flatMap_cons, List.flatten_cons, List.take_append, List.take_append,
      length_replaceFirst nonempty sameLength,
      take_replaceFirst nonempty sameLength isPattern isReplacement short,
      ih (by omega)]

theorem straddle_missed (differ : left ≠ right)
    (found : index pattern (piece ++ rest.flatten) = some position)
    (begins : position < piece.length) :
    piece ++ rest.flatMap (replaceFirst pattern replacement) ≠
      replaceFirst pattern replacement (piece ++ rest.flatten) := by
  intro same
  obtain ⟨before, _, isText, _, replaced⟩ :=
    replaceFirst_split nonempty sameLength found
  have sameStart := congrArg (List.take (before.length + common.length + 1)) same
  have reads : (piece ++ rest.flatMap (replaceFirst pattern replacement)).take
      (before.length + common.length + 1) = before ++ common ++ [left] := by
    rw [List.take_append, take_flatMap_replaceFirst nonempty sameLength isPattern
      isReplacement (by omega), ← List.take_append, isText, isPattern, List.append_assoc,
      List.append_assoc, List.cons_append, take_through]
  have wanted : (replaceFirst pattern replacement (piece ++ rest.flatten)).take
      (before.length + common.length + 1) = before ++ common ++ [right] := by
    rw [replaced, isReplacement, List.append_assoc, List.append_assoc, List.cons_append,
      take_through]
  rw [reads, wanted, List.append_right_inj] at sameStart
  exact differ (List.cons.inj sameStart).1

end Difference

theorem flatMap_replaceFirst_eq_iff (different : replacement ≠ pattern)
    (pieces : List (List α)) :
    pieces.flatMap (replaceFirst pattern replacement) =
        replaceFirst pattern replacement pieces.flatten ↔
      index pattern pieces.flatten = none ∨ WithinOne pattern pieces := by
  induction pieces with
  | nil => simp [replaceFirst, index, nonempty]
  | cons piece rest ih =>
    rw [List.flatMap_cons, List.flatten_cons]
    cases foundPiece : index pattern piece with
    | some =>
      -- the whole is changed in this piece, so no other may change
      rw [replaceFirst_append_left nonempty sameLength foundPiece,
        List.append_right_inj,
        flatMap_replaceFirst_eq_flatten_iff nonempty sameLength different,
        withinOne_of_found nonempty foundPiece,
        index_append_left nonempty foundPiece]
      simp
    | none =>
      rw [replaceFirst_of_none foundPiece]
      cases foundWhole : index pattern (piece ++ rest.flatten) with
      | none =>
        have absentRest := (index_append_none nonempty foundWhole).2
        rw [replaceFirst_of_none foundWhole, List.append_right_inj]
        rw [replaceFirst_of_none absentRest, absentRest] at ih
        simpa using ih
      | some position =>
        by_cases begins : position < piece.length
        · obtain ⟨_, _, _, _, _, isPattern,
            isReplacement, differ⟩ := exists_first_difference sameLength different
          have missed := straddle_missed nonempty sameLength isPattern isReplacement
            differ foundWhole begins
          have outside := not_withinOne_of_straddle foundPiece foundWhole begins
          simp [missed, outside]
        · obtain ⟨later, rfl⟩ : ∃ later, position = piece.length + later :=
            ⟨position - piece.length, by omega⟩
          have foundRest := ((index_append_right nonempty).mp foundWhole).2
          rw [replaceFirst_append_right nonempty sameLength foundWhole,
            List.append_right_inj, ih,
            withinOne_of_right nonempty foundPiece foundWhole, foundRest]
          simp

end Pieces

end PatternSearch
