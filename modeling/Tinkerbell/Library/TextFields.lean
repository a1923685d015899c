import Tinkerbell.Library.ByteText

/-!
Owns: white space in UTF-8 texts, trimming it, and the fields between it.

A text is a list of bytes. White space is an ASCII blank, or the two or three bytes
of one of the other blanks of Unicode. The first of those bytes never stands inside
another character, so a scan from byte to byte finds the same blanks as one from
character to character. `marks` says of every byte whether it is part of a blank.

A word is a text that is a field of its own. Fields are words (`isWord_of_mem_fields`),
and words joined by blanks come back as the fields (`fields_unwords`).
-/

namespace TextFields

open ByteText

/-- Tab, newline, vertical tab, form feed, carriage return, blank. -/
def isAsciiSpace (byte : UInt8) : Bool :=
  byte = 9 || byte = 10 || byte = 11 || byte = 12 || byte = 13 || byte = 32

/-- U+1680, U+2000 to U+200A, U+2028, U+2029, U+202F, U+205F and U+3000. -/
def isWideSpace (first second third : UInt8) : Bool :=
  (first = 225 && second = 154 && third = 128) ||
    (first = 226 && second = 128 &&
      ((128 ≤ third && third ≤ 138) || third = 168 || third = 169 || third = 175)) ||
    (first = 226 && second = 129 && third = 159) ||
    (first = 227 && second = 128 && third = 128)

def spaceLength : Bytes → Nat
  | [] => 0
  | first :: rest =>
    if isAsciiSpace first then 1
    else
      match rest with
      | [] => 0
      | second :: rest =>
        -- U+0085 and U+00A0
        if first = 194 ∧ (second = 133 ∨ second = 160) then 2
        else
          match rest with
          | [] => 0
          | third :: _ => if isWideSpace first second third then 3 else 0

/-- Every byte with whether it is part of a blank; `skip` bytes of one are still to come. -/
def marks : Nat → Bytes → List (UInt8 × Bool)
  | _, [] => []
  | skip + 1, byte :: rest => (byte, true) :: marks skip rest
  | 0, byte :: rest =>
    match spaceLength (byte :: rest) with
    | 0 => (byte, false) :: marks 0 rest
    | skip + 1 => (byte, true) :: marks skip rest

def trimSpace (text : Bytes) : Bytes :=
  (trim (·.2) (marks 0 text)).map (·.1)

def pieces : List (UInt8 × Bool) → List Bytes
  | [] => [[]]
  | (_, true) :: rest => [] :: pieces rest
  | (byte, false) :: rest =>
    match pieces rest with
    | [] => [[byte]]
    | piece :: later => (byte :: piece) :: later

def fields (text : Bytes) : List Bytes := (pieces (marks 0 text)).filter (· ≠ [])

variable {text : Bytes} {first second third byte : UInt8} {words : List Bytes}

theorem spaceLength_append (isSpace : spaceLength text ≠ 0) (rest : Bytes) :
    spaceLength (text ++ rest) ≠ 0 := by
  rcases text with _ | ⟨first, _ | ⟨second, _ | ⟨third, later⟩⟩⟩
  · exact absurd rfl isSpace
  · by_cases isBlank : isAsciiSpace first = true
    · simp [spaceLength, isBlank]
    · simp [spaceLength, isBlank] at isSpace
  · by_cases isBlank : isAsciiSpace first = true
    · simp [spaceLength, isBlank]
    · by_cases isNarrow : first = 194 ∧ (second = 133 ∨ second = 160)
      · simp only [List.cons_append, spaceLength, if_neg isBlank, if_pos isNarrow]
        decide
      · simp [spaceLength, isBlank, isNarrow] at isSpace
  · exact isSpace

theorem high_of_isWideSpace (isWide : isWideSpace first second third = true) :
    128 ≤ second ∧ 128 ≤ third := by
  simp only [isWideSpace, Bool.or_eq_true, Bool.and_eq_true, decide_eq_true_eq] at isWide
  rcases isWide with ((⟨⟨-, rfl⟩, rfl⟩ | ⟨⟨-, rfl⟩, isThird⟩) | ⟨⟨-, rfl⟩, rfl⟩) | ⟨⟨-, rfl⟩, rfl⟩
  · decide
  · refine ⟨by decide, ?_⟩
    rcases isThird with ((⟨isHigh, -⟩ | rfl) | rfl) | rfl
    · exact isHigh
    · decide
    · decide
    · decide
  · decide
  · decide

theorem notWide_ascii_third (isAscii : third < 128) : isWideSpace first second third = false := by
  refine Bool.eq_false_iff.mpr fun isWide => ?_
  exact UInt8.not_lt.mpr (high_of_isWideSpace isWide).2 isAscii

theorem notWide_ascii_second (isAscii : second < 128) : isWideSpace first second third = false := by
  refine Bool.eq_false_iff.mpr fun isWide => ?_
  exact UInt8.not_lt.mpr (high_of_isWideSpace isWide).1 isAscii

theorem spaceLength_append_ascii (notEmpty : text ≠ []) (notSpace : spaceLength text = 0)
    (isAscii : byte < 128) (rest : Bytes) :
    spaceLength (text ++ byte :: rest) = 0 := by
  have notNarrow : ¬ (byte = 133 ∨ byte = 160) := by
    rintro (rfl | rfl)
    · exact absurd isAscii (by decide)
    · exact absurd isAscii (by decide)
  rcases text with _ | ⟨first, _ | ⟨second, _ | ⟨third, later⟩⟩⟩
  · exact absurd rfl notEmpty
  · by_cases isBlank : isAsciiSpace first = true
    · simp [spaceLength, isBlank] at notSpace
    · cases rest with
      | nil => simp [spaceLength, isBlank, notNarrow]
      | cons => simp [spaceLength, isBlank, notNarrow, notWide_ascii_second isAscii]
  · by_cases isBlank : isAsciiSpace first = true
    · simp [spaceLength, isBlank] at notSpace
    · by_cases isNarrow : first = 194 ∧ (second = 133 ∨ second = 160)
      · simp only [spaceLength, if_neg isBlank, if_pos isNarrow] at notSpace
        cases notSpace
      · simp [spaceLength, isBlank, isNarrow, notWide_ascii_third isAscii]
  · exact notSpace

theorem marks_space (isBlank : isAsciiSpace byte = true) (rest : Bytes) :
    marks 0 (byte :: rest) = (byte, true) :: marks 0 rest := by
  have isLength : spaceLength (byte :: rest) = 1 := by
    rw [spaceLength.eq_def]
    dsimp only
    rw [if_pos isBlank]
  rw [marks, isLength]

theorem marks_plain {rest : Bytes} (notSpace : spaceLength (byte :: rest) = 0) :
    marks 0 (byte :: rest) = (byte, false) :: marks 0 rest := by
  rw [marks, notSpace]

variable (skip : Nat) (marked : List (UInt8 × Bool))

theorem map_fst_marks (text : Bytes) : (marks skip text).map (·.1) = text := by
  induction text generalizing skip with
  | nil => cases skip <;> rfl
  | cons _ _ ih =>
    cases skip with
    | succ => rw [marks, List.map_cons, ih]
    | zero =>
      rw [marks]
      split
      · rw [List.map_cons, ih]
      · rw [List.map_cons, ih]

/-- No byte of the text is part of a blank. -/
def Plain (text : Bytes) : Prop := marks 0 text = text.map (·, false)

structure IsWord (text : Bytes) : Prop where
  notEmpty : text ≠ []
  plain : Plain text

theorem plain_cons_iff {rest : Bytes} :
    Plain (byte :: rest) ↔ spaceLength (byte :: rest) = 0 ∧ Plain rest := by
  unfold Plain
  rw [marks]
  split
  · next isLength =>
    rw [List.map_cons, List.cons.injEq]
    exact ⟨fun same => ⟨isLength, same.2⟩, fun same => ⟨rfl, same.2⟩⟩
  · next _ isLength =>
    rw [isLength, List.map_cons, List.cons.injEq]
    constructor
    · intro same
      cases same.1
    · intro same
      cases same.1

theorem marks_append_ascii (plain : Plain text) (isAscii : byte < 128) (rest : Bytes) :
    marks 0 (text ++ byte :: rest) = text.map (·, false) ++ marks 0 (byte :: rest) := by
  induction text with
  | nil => rfl
  | cons head tail ih =>
    obtain ⟨notSpace, tailPlain⟩ := plain_cons_iff.mp plain
    have stillNot := spaceLength_append_ascii (List.cons_ne_nil head tail) notSpace isAscii rest
    rw [List.cons_append] at stillNot ⊢
    rw [marks_plain stillNot, ih tailPlain]
    rfl

theorem pieces_plain (text : Bytes) : pieces (text.map (·, false)) = [text] := by
  induction text with
  | nil => rfl
  | cons _ _ ih => rw [List.map_cons, pieces, ih]

theorem pieces_append_mark (text : Bytes) (byte : UInt8) (rest : List (UInt8 × Bool)) :
    pieces (text.map (·, false) ++ (byte, true) :: rest) = text :: pieces rest := by
  induction text with
  | nil => rfl
  | cons _ _ ih =>
    rw [List.map_cons, List.cons_append, pieces, ih]

theorem pieces_ne_nil : pieces marked ≠ [] := by
  cases marked with
  | nil => exact List.cons_ne_nil _ _
  | cons head =>
    obtain ⟨_, isSpace⟩ := head
    cases isSpace with
    | true => exact List.cons_ne_nil _ _
    | false =>
      rw [pieces]
      split
      · exact List.cons_ne_nil _ _
      · exact List.cons_ne_nil _ _

theorem first_piece {marked : List (UInt8 × Bool)} {piece : Bytes} {later : List Bytes}
    (isPieces : pieces marked = piece :: later) : ∃ rest, marked.map (·.1) = piece ++ rest := by
  induction marked generalizing piece later with
  | nil =>
    cases isPieces
    exact ⟨[], rfl⟩
  | cons head tail ih =>
    obtain ⟨_, isSpace⟩ := head
    cases isSpace with
    | true =>
      cases isPieces
      exact ⟨_, rfl⟩
    | false =>
      rw [pieces] at isPieces
      cases isTail : pieces tail with
      | nil => exact absurd isTail (pieces_ne_nil tail)
      | cons =>
        rw [isTail] at isPieces
        cases isPieces
        obtain ⟨rest, isText⟩ := ih isTail
        exact ⟨rest, by rw [List.map_cons, isText, List.cons_append]⟩

theorem plain_of_mem_pieces (text : Bytes) :
    ∀ piece ∈ pieces (marks skip text), Plain piece := by
  induction text generalizing skip with
  | nil =>
    intro piece member
    cases List.mem_singleton.mp member
    rfl
  | cons byte rest ih =>
    have behindMark : ∀ skip, ∀ piece ∈ pieces ((byte, true) :: marks skip rest), Plain piece := by
      intro skip piece member
      rcases List.mem_cons.mp member with rfl | isLater
      · rfl
      · exact ih skip piece isLater
    cases skip with
    | succ skip => exact behindMark skip
    | zero =>
      rw [marks]
      split
      · next notSpace =>
        rw [pieces]
        cases isRest : pieces (marks 0 rest) with
        | nil => exact absurd isRest (pieces_ne_nil _)
        | cons piece =>
          have restPlain := ih 0
          rw [isRest] at restPlain
          intro other member
          rcases List.mem_cons.mp member with rfl | isLater
          · refine plain_cons_iff.mpr ⟨?_, restPlain piece List.mem_cons_self⟩
            obtain ⟨after, isText⟩ := first_piece isRest
            rw [map_fst_marks] at isText
            by_contra isSpace
            refine spaceLength_append isSpace after ?_
            rw [List.cons_append, ← isText]
            exact notSpace
          · exact restPlain other (List.mem_cons_of_mem _ isLater)
      · next skip _ => exact behindMark skip

theorem isWord_of_mem_fields {field : Bytes} (member : field ∈ fields text) : IsWord field := by
  obtain ⟨isPiece, notEmpty⟩ := List.mem_filter.mp member
  exact ⟨of_decide_eq_true notEmpty, plain_of_mem_pieces 0 text field isPiece⟩

theorem notMem_of_plain (plain : Plain text) (isBlank : isAsciiSpace byte = true) :
    byte ∉ text := by
  induction text with
  | nil => exact List.not_mem_nil
  | cons _ _ ih =>
    obtain ⟨notSpace, restPlain⟩ := plain_cons_iff.mp plain
    intro member
    rcases List.mem_cons.mp member with rfl | isLater
    · rw [spaceLength.eq_def] at notSpace
      dsimp only at notSpace
      rw [if_pos isBlank] at notSpace
      cases notSpace
    · exact ih restPlain isLater

def unwords (words : List Bytes) : Bytes := [32].intercalate words

theorem unwords_cons_cons (first second : Bytes) (rest : List Bytes) :
    unwords (first :: second :: rest) = first ++ 32 :: unwords (second :: rest) := by
  simp [unwords, List.intercalate]

theorem unwords_singleton (word : Bytes) : unwords [word] = word := by
  simp [unwords, List.intercalate]

theorem marks_unwords_cons_cons {first : Bytes} (isWord : IsWord first) (second : Bytes)
    (rest : List Bytes) :
    marks 0 (unwords (first :: second :: rest)) =
      first.map (·, false) ++ (32, true) :: marks 0 (unwords (second :: rest)) := by
  rw [unwords_cons_cons, marks_append_ascii isWord.plain (by decide), marks_space (by decide)]

theorem fields_unwords (areWords : ∀ word ∈ words, IsWord word) :
    fields (unwords words) = words := by
  unfold fields
  induction words with
  | nil => rfl
  | cons first rest ih =>
    have isFirst := areWords first List.mem_cons_self
    have isKept : decide (first ≠ []) = true := decide_eq_true isFirst.notEmpty
    cases rest with
    | nil =>
      rw [unwords_singleton, isFirst.plain, pieces_plain]
      exact List.filter_cons_of_pos isKept
    | cons =>
      have isRest := ih fun word member =>
        areWords word (List.mem_cons_of_mem _ member)
      rw [marks_unwords_cons_cons isFirst, pieces_append_mark, List.filter_cons, if_pos isKept,
        isRest]

theorem notMem_unwords (areWords : ∀ word ∈ words, IsWord word) (isBlank : isAsciiSpace byte = true)
    (notBlank : byte ≠ 32) :
    byte ∉ unwords words := by
  induction words with
  | nil => exact List.not_mem_nil
  | cons first rest ih =>
    have notFirst := notMem_of_plain (areWords first List.mem_cons_self).plain isBlank
    cases rest with
    | nil =>
      rw [unwords_singleton]
      exact notFirst
    | cons =>
      rw [unwords_cons_cons, List.mem_append, List.mem_cons]
      have notLater := ih fun word member =>
        areWords word (List.mem_cons_of_mem _ member)
      exact not_or.mpr ⟨notFirst, not_or.mpr ⟨notBlank, notLater⟩⟩

theorem trimSpace_eq_self (first : ∀ mark ∈ (marks 0 text).head?, mark.2 = false)
    (last : ∀ mark ∈ (marks 0 text).getLast?, mark.2 = false) : trimSpace text = text := by
  rw [trimSpace, trim_eq_self first last, map_fst_marks]

section

variable (areWords : ∀ word ∈ words, IsWord word)
include areWords

theorem head?_marks_unwords :
    ∀ mark ∈ (marks 0 (unwords words)).head?, mark.2 = false := by
  cases words with
  | nil =>
    intro mark isHead
    cases isHead
  | cons first rest =>
    have isFirst := areWords first List.mem_cons_self
    have begins : ∃ later, marks 0 (unwords (first :: rest)) = first.map (·, false) ++ later := by
      cases rest with
      | nil => exact ⟨[], by rw [unwords_singleton, isFirst.plain, List.append_nil]⟩
      | cons second others => exact ⟨_, marks_unwords_cons_cons isFirst second others⟩
    obtain ⟨_, isMarked⟩ := begins
    rw [isMarked]
    cases first with
    | nil => exact absurd rfl isFirst.notEmpty
    | cons =>
      intro mark isHead
      cases isHead
      rfl

theorem getLast?_marks_unwords :
    ∀ mark ∈ (marks 0 (unwords words)).getLast?, mark.2 = false := by
  induction words with
  | nil =>
    intro mark isLast
    cases isLast
  | cons first rest ih =>
    have isFirst := areWords first List.mem_cons_self
    cases rest with
    | nil =>
      rw [unwords_singleton, isFirst.plain]
      intro mark isLast
      obtain ⟨byte, -, rfl⟩ := List.mem_map.mp (List.mem_of_getLast? isLast)
      rfl
    | cons second others =>
      have restWords : ∀ word ∈ second :: others, IsWord word := fun word member =>
        areWords word (List.mem_cons_of_mem _ member)
      have notEmpty : marks 0 (unwords (second :: others)) ≠ [] := by
        intro isEmpty
        have isText := map_fst_marks 0 (unwords (second :: others))
        rw [isEmpty, List.map_nil] at isText
        have noFields := fields_unwords restWords
        rw [← isText] at noFields
        cases noFields
      rw [marks_unwords_cons_cons isFirst, List.append_cons,
        List.getLast?_append_of_ne_nil _ notEmpty]
      exact ih restWords

theorem trimSpace_unwords :
    trimSpace (unwords words) = unwords words :=
  trimSpace_eq_self (head?_marks_unwords areWords) (getLast?_marks_unwords areWords)

end

theorem length_marks (text : Bytes) : (marks skip text).length = text.length := by
  rw [← List.length_map (·.1), map_fst_marks]

theorem length_trimSpace_le (text : Bytes) : (trimSpace text).length ≤ text.length := by
  rw [trimSpace, List.length_map, ← length_marks 0 text]
  exact (trim_isInfix _ _).length_le

def total : List Bytes → Nat
  | [] => 0
  | piece :: later => piece.length + 1 + total later

theorem total_pieces :
    total (pieces marked) = marked.length + 1 := by
  induction marked with
  | nil => rfl
  | cons head rest ih =>
    obtain ⟨_, isSpace⟩ := head
    cases isSpace with
    | true =>
      rw [pieces, total, ih, List.length_cons, List.length_nil]
      omega
    | false =>
      rw [pieces]
      cases isRest : pieces rest with
      | nil => exact absurd isRest (pieces_ne_nil rest)
      | cons =>
        rw [isRest, total] at ih
        rw [total, List.length_cons, List.length_cons]
        omega

theorem total_filter_le (kept : Bytes → Bool) (list : List Bytes) :
    total (list.filter kept) ≤ total list := by
  induction list with
  | nil => exact Nat.le_refl 0
  | cons =>
    rw [List.filter_cons]
    split
    · rw [total, total]
      omega
    · rw [total]
      omega

theorem length_two_fields_le {first second : Bytes} {rest : List Bytes}
    (isFields : fields text = first :: second :: rest) :
    (unwords [first, second]).length ≤ text.length := by
  have bounded := total_filter_le (· ≠ []) (pieces (marks 0 text))
  rw [total_pieces, length_marks, ← fields, isFields, total, total] at bounded
  rw [unwords_cons_cons, unwords_singleton, List.length_append, List.length_cons]
  omega

end TextFields
