import Mathlib.Data.List.Basic
import Mathlib.Data.List.TakeWhile

/-!
Owns: a text cut behind each of its newlines, and that cutting it piece by piece
comes to the same.

A cut is known by its parts: complete lines, each with its only newline at the end,
and a rest without one (`split_eq`). Everything else follows from that.
-/

namespace LineSplit

universe u v

variable {α : Type u} {β : Type v} [DecidableEq α] [DecidableEq β]

def split (newline : α) : List α → List (List α) × List α
  | [] => ([], [])
  | head :: rest =>
    if head = newline then ([head] :: (split newline rest).1, (split newline rest).2)
    else
      match (split newline rest).1 with
      | [] => ([], head :: (split newline rest).2)
      | line :: later => ((head :: line) :: later, (split newline rest).2)

/-- A line with its only newline at the end. -/
def IsLine (newline : α) (line : List α) : Prop :=
  ∃ body, newline ∉ body ∧ line = body ++ [newline]

variable {newline : α}

variable {text : List α} {lines : List (List α)} {carriage : α} {limit : Nat}

theorem split_plain (plain : newline ∉ text) : split newline text = ([], text) := by
  induction text with
  | nil => rfl
  | cons _ _ ih =>
    rw [List.mem_cons, not_or] at plain
    rw [split, if_neg (Ne.symm plain.1), ih plain.2]

theorem split_line {body : List α} (plain : newline ∉ body) (rest : List α) :
    split newline (body ++ newline :: rest) =
      ((body ++ [newline]) :: (split newline rest).1, (split newline rest).2) := by
  induction body with
  | nil => rw [List.nil_append, split, if_pos rfl, List.nil_append]
  | cons _ _ ih =>
    rw [List.mem_cons, not_or] at plain
    rw [List.cons_append, split, if_neg (Ne.symm plain.1), ih plain.2]
    rfl

theorem split_eq {rest : List α} (areLines : ∀ line ∈ lines, IsLine newline line)
    (plain : newline ∉ rest) :
    split newline (lines.flatten ++ rest) = (lines, rest) := by
  induction lines with
  | nil => exact split_plain plain
  | cons line _ ih =>
    obtain ⟨_, bodyPlain, rfl⟩ := areLines line List.mem_cons_self
    have laterSplit := ih fun line member =>
      areLines line (List.mem_cons_of_mem _ member)
    rw [List.flatten_cons, List.append_assoc, List.append_assoc, List.singleton_append,
      split_line bodyPlain, laterSplit]

theorem exists_parts (newline : α) (text : List α) :
    ∃ (lines : List (List α)) (rest : List α), (∀ line ∈ lines, IsLine newline line) ∧
      newline ∉ rest ∧ text = lines.flatten ++ rest := by
  induction text with
  | nil => exact ⟨[], [], by simp, by simp, rfl⟩
  | cons head _ ih =>
    obtain ⟨lines, rest, areLines, plain, isTail⟩ := ih
    by_cases isNewline : head = newline
    · refine ⟨[newline] :: lines, rest, ?_, plain, by rw [isTail, isNewline]; rfl⟩
      rintro line (_ | ⟨_, member⟩)
      · exact ⟨[], List.not_mem_nil, rfl⟩
      · exact areLines line member
    · cases lines with
      | nil =>
        refine ⟨[], head :: rest, by simp, ?_, by rw [isTail]; rfl⟩
        rw [List.mem_cons, not_or]
        exact ⟨Ne.symm isNewline, plain⟩
      | cons line later =>
        refine ⟨(head :: line) :: later, rest, ?_, plain, by rw [isTail]; rfl⟩
        rintro other (_ | ⟨_, member⟩)
        · obtain ⟨body, bodyPlain, isLine⟩ := areLines line List.mem_cons_self
          refine ⟨head :: body, ?_, by rw [isLine]; rfl⟩
          rw [List.mem_cons, not_or]
          exact ⟨Ne.symm isNewline, bodyPlain⟩
        · exact areLines other (List.mem_cons_of_mem _ member)

theorem split_parts (newline : α) (text : List α) :
    (∀ line ∈ (split newline text).1, IsLine newline line) ∧
      newline ∉ (split newline text).2 ∧
      (split newline text).1.flatten ++ (split newline text).2 = text := by
  obtain ⟨_, _, areLines, plain, rfl⟩ := exists_parts newline text
  rw [split_eq areLines plain]
  exact ⟨areLines, plain, rfl⟩

theorem split_append (newline : α) (first second : List α) :
    split newline (first ++ second) =
      ((split newline first).1 ++ (split newline ((split newline first).2 ++ second)).1,
        (split newline ((split newline first).2 ++ second)).2) := by
  obtain ⟨firstLines, -, isFirst⟩ := split_parts newline first
  obtain ⟨laterLines, plain, isLater⟩ := split_parts newline ((split newline first).2 ++ second)
  have isWhole : first ++ second = ((split newline first).1 ++
      (split newline ((split newline first).2 ++ second)).1).flatten ++
        (split newline ((split newline first).2 ++ second)).2 := by
    rw [List.flatten_append, List.append_assoc, isLater, ← List.append_assoc, isFirst]
  conv_lhs => rw [isWhole]
  refine split_eq ?_ plain
  intro line member
  exact (List.mem_append.mp member).elim (firstLines line) (laterLines line)

/-- Cutting comes to the same before and after letters are encoded, if only the newline's
code has a newline, and nothing else. -/
theorem split_flatMap {encode : α → List β} {code : β} (isNewline : encode newline = [code])
    (isOther : ∀ letter, letter ≠ newline → code ∉ encode letter) (text : List α) :
    split code (text.flatMap encode) =
      ((split newline text).1.map (·.flatMap encode), (split newline text).2.flatMap encode) := by
  have plainCode : ∀ part : List α, newline ∉ part → code ∉ part.flatMap encode := by
    intro part plain member
    obtain ⟨letter, isLetter, isCode⟩ := List.mem_flatMap.mp member
    refine isOther letter ?_ isCode
    rintro rfl
    exact plain isLetter
  obtain ⟨areLines, plain, isText⟩ := split_parts newline text
  have isEncoded : text.flatMap encode = ((split newline text).1.map (·.flatMap encode)).flatten ++
      (split newline text).2.flatMap encode := by
    conv_lhs => rw [← isText, List.flatMap_append]
    simp [List.flatMap_def, List.map_flatten, List.flatten_flatten, Function.comp_def]
  rw [isEncoded]
  refine split_eq ?_ (plainCode _ plain)
  intro encoded isMapped
  obtain ⟨line, member, rfl⟩ := List.mem_map.mp isMapped
  obtain ⟨body, bodyPlain, rfl⟩ := areLines line member
  refine ⟨body.flatMap encode, plainCode body bodyPlain, ?_⟩
  rw [List.flatMap_append, List.flatMap_singleton, isNewline]

def dropCarriage (carriage : α) (line : List α) : List α :=
  if line.getLast? = some carriage then line.dropLast else line

/-- The lines of a text without their ends, up to the first that does not fit the buffer; a
last line needs no newline. -/
def scan (newline carriage : α) (limit : Nat) (text : List α) : List (List α) :=
  let (lines, rest) := split newline text
  let lines := lines.map List.dropLast ++ if rest = [] then [] else [rest]
  (lines.takeWhile fun line => line.length < limit).map (dropCarriage carriage)

theorem length_lt_of_mem_scan {line : List α} (member : line ∈ scan newline carriage limit text) :
    line.length < limit := by
  obtain ⟨scanned, isScanned, rfl⟩ := List.mem_map.mp member
  have accepted := List.mem_takeWhile_imp isScanned
  have fits : scanned.length < limit := of_decide_eq_true accepted
  unfold dropCarriage
  split
  · exact Nat.lt_of_le_of_lt (List.dropLast_sublist scanned).length_le fits
  · exact fits

theorem scan_flatten (plain : ∀ line ∈ lines, newline ∉ line)
    (fits : ∀ line ∈ lines, line.length < limit) (noCarriage : ∀ line ∈ lines, carriage ∉ line) :
    scan newline carriage limit (lines.map (· ++ [newline])).flatten = lines := by
  have isSplit : split newline (lines.map (· ++ [newline])).flatten =
      (lines.map (· ++ [newline]), []) := by
    have areLines : ∀ ended ∈ lines.map (· ++ [newline]), IsLine newline ended := by
      intro ended member
      obtain ⟨line, isLine, rfl⟩ := List.mem_map.mp member
      exact ⟨line, plain line isLine, rfl⟩
    have parts := split_eq areLines List.not_mem_nil
    rwa [List.append_nil] at parts
  have unended : (lines.map (· ++ [newline])).map List.dropLast = lines := by
    simp [Function.comp_def]
  have allFit : lines.takeWhile (fun line => line.length < limit) = lines := by
    refine List.takeWhile_eq_self_iff.mpr ?_
    intro line member
    exact decide_eq_true (fits line member)
  unfold scan
  rw [isSplit]
  dsimp only
  rw [if_pos rfl, List.append_nil, unended, allFit]
  conv_rhs => rw [← List.map_id lines]
  refine List.map_congr_left ?_
  intro line member
  refine if_neg fun endsInCarriage => ?_
  exact noCarriage line member (List.mem_of_getLast? endsInCarriage)

end LineSplit
