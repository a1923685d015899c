import Tinkerbell.Library.ByteText

/-!
Owns: texts as JSON string literals, written as the standard encoder writes them
(with its escapes for HTML, and the replacement character for bytes that are not
UTF-8) and read back.

The main fact is `unquote_quote`: what is written for a valid UTF-8 text reads back
as that text. Both directions go character by character, with the rest of the text
free, so the fact is an induction over the characters.
-/

namespace JsonString

open ByteText

def encode (characters : List Char) : Bytes := characters.flatMap String.utf8EncodeChar

def decodeRune (text : Bytes) : Option Char := text.toByteArray.utf8DecodeChar? 0

def hex (digit : Nat) : UInt8 := UInt8.ofNat (if digit < 10 then 48 + digit else 87 + digit)

def htmlSafe (byte : UInt8) : Bool :=
  32 ≤ byte && byte ≠ 34 && byte ≠ 92 && byte ≠ 60 && byte ≠ 62 && byte ≠ 38

def quoteByte (byte : UInt8) : Bytes :=
  if htmlSafe byte then [byte]
  else
    match byte with
    | 92 => [92, 92]
    | 34 => [92, 34]
    | 8 => [92, 98]
    | 12 => [92, 102]
    | 10 => [92, 110]
    | 13 => [92, 114]
    | 9 => [92, 116]
    | _ => [92, 117, 48, 48, hex (byte.toNat / 16), hex (byte.toNat % 16)]

def replacement : Bytes := [92, 117, 102, 102, 102, 100]

def quoteRune (rune : Char) : Bytes :=
  if rune = Char.ofNat 8232 ∨ rune = Char.ofNat 8233 then
    [92, 117, 50, 48, 50, hex (rune.toNat % 16)]
  else String.utf8EncodeChar rune

def quoteFrom : Nat → Bytes → Bytes
  | _, [] => []
  | skip + 1, _ :: rest => quoteFrom skip rest
  | 0, byte :: rest =>
    if byte < 128 then quoteByte byte ++ quoteFrom 0 rest
    else
      match decodeRune (byte :: rest) with
      | none => replacement ++ quoteFrom 0 rest
      | some rune => quoteRune rune ++ quoteFrom (rune.utf8Size - 1) rest

def quote (text : Bytes) : Bytes := 34 :: quoteFrom 0 text ++ [34]

/-- The character of four hexadecimal digits; one half of a surrogate pair is none. -/
def unhexRune (first second third fourth : UInt8) : Option Char := do
  let first ← unhex first
  let second ← unhex second
  let third ← unhex third
  let fourth ← unhex fourth
  let code := ((first * 16 + second) * 16 + third) * 16 + fourth
  if code.isValidChar then some (Char.ofNat code) else none

def unescape (byte : UInt8) : Option UInt8 :=
  match byte with
  | 34 => some 34
  | 92 => some 92
  | 47 => some 47
  | 98 => some 8
  | 102 => some 12
  | 110 => some 10
  | 114 => some 13
  | 116 => some 9
  | _ => none

/-- Read a literal up to its closing quote, which has to be the last byte. The bytes above
127 are taken as they stand: a literal is valid UTF-8. -/
def unquoteFrom : Bytes → Option Bytes
  | [] => none
  | byte :: rest =>
    if byte = 34 then if rest = [] then some [] else none
    else if byte = 92 then
      match rest with
      | [] => none
      | escaped :: rest =>
        if escaped = 117 then
          match rest with
          | first :: second :: third :: fourth :: rest =>
            (unhexRune first second third fourth).bind fun rune =>
              (unquoteFrom rest).map (String.utf8EncodeChar rune ++ ·)
          | _ => none
        else (unescape escaped).bind fun byte => (unquoteFrom rest).map (byte :: ·)
    else if byte < 32 then none
    else (unquoteFrom rest).map (byte :: ·)

def unquote : Bytes → Option Bytes
  | [] => none
  | byte :: rest => if byte = 34 then unquoteFrom rest else none

variable {byte : UInt8} {rune : Char}

theorem unquoteFrom_plain (notQuote : byte ≠ 34) (notEscape : byte ≠ 92) (notControl : ¬ byte < 32)
    (rest : Bytes) :
    unquoteFrom (byte :: rest) = (unquoteFrom rest).map (byte :: ·) := by
  rw [unquoteFrom.eq_def]
  dsimp only
  rw [if_neg notQuote, if_neg notEscape, if_neg notControl]

theorem unquoteFrom_escape {escaped : UInt8} (notUnicode : escaped ≠ 117)
    (isByte : unescape escaped = some byte) (rest : Bytes) :
    unquoteFrom (92 :: escaped :: rest) = (unquoteFrom rest).map (byte :: ·) := by
  rw [unquoteFrom.eq_def]
  dsimp only
  rw [if_neg (by decide), if_pos rfl, if_neg notUnicode, isByte, Option.bind_some]

theorem unquoteFrom_unicode {first second third fourth : UInt8}
    (isRune : unhexRune first second third fourth = some rune) (rest : Bytes) :
    unquoteFrom (92 :: 117 :: first :: second :: third :: fourth :: rest) =
      (unquoteFrom rest).map (String.utf8EncodeChar rune ++ ·) := by
  rw [unquoteFrom, if_neg (by decide), if_pos rfl, if_pos rfl, isRune, Option.bind_some]

theorem quoteByte_cases : ∀ byte : UInt8, byte < 128 →
    (quoteByte byte = [byte] ∧ byte ≠ 34 ∧ byte ≠ 92 ∧ ¬ byte < 32) ∨
      (∃ escaped, quoteByte byte = [92, escaped] ∧ escaped ≠ 117 ∧
        unescape escaped = some byte) ∨
      ∃ first second third fourth rune,
        quoteByte byte = [92, 117, first, second, third, fourth] ∧
        unhexRune first second third fourth = some rune ∧
        String.utf8EncodeChar rune = [byte] := by
  have all : ∀ value : Fin 128,
      let byte := UInt8.ofNat value.val
      (quoteByte byte = [byte] ∧ byte ≠ 34 ∧ byte ≠ 92 ∧ ¬ byte < 32) ∨
        (quoteByte byte = [92, (quoteByte byte).getD 1 0] ∧ (quoteByte byte).getD 1 0 ≠ 117 ∧
          unescape ((quoteByte byte).getD 1 0) = some byte) ∨
        quoteByte byte = [92, 117, 48, 48, hex (byte.toNat / 16), hex (byte.toNat % 16)] ∧
          unhexRune 48 48 (hex (byte.toNat / 16)) (hex (byte.toNat % 16)) =
            some (Char.ofNat value.val) ∧
          String.utf8EncodeChar (Char.ofNat value.val) = [byte] := by
    decide +kernel
  intro byte isAscii
  have found := all ⟨byte.toNat, UInt8.lt_iff_toNat_lt.mp isAscii⟩
  rw [UInt8.ofNat_toNat] at found
  rcases found with isPlain | isEscaped | isUnicode
  · exact Or.inl isPlain
  · exact Or.inr (Or.inl ⟨_, isEscaped⟩)
  · exact Or.inr (Or.inr ⟨48, 48, _, _, _, isUnicode⟩)

theorem unquoteFrom_quoteByte (isAscii : byte < 128) (rest : Bytes) :
    unquoteFrom (quoteByte byte ++ rest) = (unquoteFrom rest).map (byte :: ·) := by
  rcases quoteByte_cases byte isAscii with
    ⟨isText, notQuote, notEscape, notControl⟩ | ⟨escaped, isText, notUnicode, isByte⟩ |
    ⟨first, second, third, fourth, rune, isText, isRune, isByte⟩
  · rw [isText]
    exact unquoteFrom_plain notQuote notEscape notControl rest
  · rw [isText]
    exact unquoteFrom_escape notUnicode isByte rest
  · have isRead := unquoteFrom_unicode isRune rest
    rw [isByte] at isRead
    rw [isText]
    exact isRead

theorem unquoteFrom_high {bytes : Bytes} (high : ∀ byte ∈ bytes, 128 ≤ byte) (rest : Bytes) :
    unquoteFrom (bytes ++ rest) = (unquoteFrom rest).map (bytes ++ ·) := by
  induction bytes with
  | nil => simp
  | cons byte _ ih =>
    have isHigh := UInt8.le_iff_toNat_le.mp (high byte List.mem_cons_self)
    have notQuote : byte ≠ 34 := by
      rintro rfl
      exact absurd isHigh (by decide)
    have notEscape : byte ≠ 92 := by
      rintro rfl
      exact absurd isHigh (by decide)
    have notControl : ¬ byte < 32 := by
      intro isControl
      have isLow := UInt8.lt_iff_toNat_lt.mp isControl
      exact absurd (Nat.lt_of_le_of_lt isHigh isLow) (by decide)
    rw [List.cons_append, unquoteFrom_plain notQuote notEscape notControl,
      ih fun byte member => high byte (List.mem_cons_of_mem _ member),
      Option.map_map]
    rfl

theorem utf8EncodeChar_ascii (isAscii : rune.toNat < 128) :
    String.utf8EncodeChar rune = [UInt8.ofNat rune.toNat] := by
  have small : rune.val.toNat ≤ 127 := Nat.le_of_lt_succ isAscii
  rw [String.utf8EncodeChar, if_pos small]
  rfl

theorem low_ofNat {value : Nat} (low : value < 128) : UInt8.ofNat value < 128 := by
  have bounded : value < UInt8.size := Nat.lt_trans low (by decide)
  rw [UInt8.lt_iff_toNat_lt, UInt8.toNat_ofNat_of_lt' bounded]
  exact low

theorem high_ofNat {value : Nat} (high : 128 ≤ value) (bounded : value < 256) :
    128 ≤ UInt8.ofNat value := by
  rw [UInt8.le_iff_toNat_le, UInt8.toNat_ofNat_of_lt' bounded]
  exact high

theorem high_utf8EncodeChar (notAscii : ¬ rune.toNat < 128) :
    ∀ byte ∈ String.utf8EncodeChar rune, 128 ≤ byte := by
  have large : ¬ rune.val.toNat ≤ 127 := by
    intro small
    exact notAscii (Nat.lt_succ_of_le small)
  rw [String.utf8EncodeChar, if_neg large]
  split
  · simp only [List.forall_mem_cons]
    exact ⟨high_ofNat (by omega) (by omega), high_ofNat (by omega) (by omega),
      List.forall_mem_nil _⟩
  · split
    · simp only [List.forall_mem_cons]
      exact ⟨high_ofNat (by omega) (by omega), high_ofNat (by omega) (by omega),
        high_ofNat (by omega) (by omega), List.forall_mem_nil _⟩
    · simp only [List.forall_mem_cons]
      exact ⟨high_ofNat (by omega) (by omega), high_ofNat (by omega) (by omega),
        high_ofNat (by omega) (by omega), high_ofNat (by omega) (by omega), List.forall_mem_nil _⟩

theorem notMem_utf8EncodeChar (isAscii : byte < 128) (apart : rune.toNat ≠ byte.toNat) :
    byte ∉ String.utf8EncodeChar rune := by
  intro member
  by_cases isLow : rune.toNat < 128
  · rw [utf8EncodeChar_ascii isLow, List.mem_singleton] at member
    have bounded : rune.toNat < UInt8.size := Nat.lt_trans isLow (by decide)
    refine apart ?_
    rw [member, UInt8.toNat_ofNat_of_lt' bounded]
  · exact UInt8.not_lt.mpr (high_utf8EncodeChar isLow byte member) isAscii

theorem decodeRune_utf8EncodeChar (rune : Char) (rest : Bytes) :
    decodeRune (String.utf8EncodeChar rune ++ rest) = some rune := by
  have isDecoded := @List.utf8DecodeChar?_utf8Encode_singleton_append rest.toByteArray rune
  rw [List.utf8Encode, List.flatMap_singleton, ← List.toByteArray_append] at isDecoded
  exact isDecoded

theorem quoteFrom_skip (skipped rest : Bytes) :
    quoteFrom skipped.length (skipped ++ rest) = quoteFrom 0 rest := by
  induction skipped with
  | nil => rfl
  | cons _ _ ih =>
    exact ih

def quoteChar (rune : Char) : Bytes :=
  if rune.toNat < 128 then quoteByte (UInt8.ofNat rune.toNat) else quoteRune rune

theorem quoteFrom_utf8EncodeChar (rune : Char) (rest : Bytes) :
    quoteFrom 0 (String.utf8EncodeChar rune ++ rest) = quoteChar rune ++ quoteFrom 0 rest := by
  unfold quoteChar
  by_cases isAscii : rune.toNat < 128
  · rw [if_pos isAscii, utf8EncodeChar_ascii isAscii, List.singleton_append, quoteFrom,
      if_pos (low_ofNat isAscii)]
  · have isDecoded := decodeRune_utf8EncodeChar rune rest
    have high := high_utf8EncodeChar isAscii
    have isLength := String.length_utf8EncodeChar rune
    rw [if_neg isAscii]
    cases isBytes : String.utf8EncodeChar rune with
    | nil =>
      rw [isBytes] at isLength
      exact absurd isLength.symm (Nat.ne_of_gt rune.utf8Size_pos)
    | cons byte =>
      rw [isBytes] at isDecoded high isLength
      have notLow : ¬ byte < 128 := UInt8.not_lt.mpr (high byte List.mem_cons_self)
      rw [List.cons_append] at isDecoded ⊢
      rw [quoteFrom, if_neg notLow, isDecoded]
      dsimp only
      rw [← isLength, List.length_cons, Nat.add_sub_cancel, quoteFrom_skip]

theorem quoteFrom_encode (characters : List Char) :
    quoteFrom 0 (encode characters) = characters.flatMap quoteChar := by
  induction characters with
  | nil => rfl
  | cons _ _ ih =>
    rw [encode, List.flatMap_cons, quoteFrom_utf8EncodeChar, ← encode, ih, List.flatMap_cons]

theorem unquoteFrom_quoteChar (rune : Char) (rest : Bytes) :
    unquoteFrom (quoteChar rune ++ rest) =
      (unquoteFrom rest).map (String.utf8EncodeChar rune ++ ·) := by
  unfold quoteChar
  split
  · next isAscii =>
    rw [unquoteFrom_quoteByte (low_ofNat isAscii), utf8EncodeChar_ascii isAscii]
    rfl
  · next notAscii =>
    unfold quoteRune
    split
    · next isSeparator =>
      refine unquoteFrom_unicode ?_ rest
      rcases isSeparator with rfl | rfl
      · decide
      · decide
    · exact unquoteFrom_high (high_utf8EncodeChar notAscii) rest

theorem unquote_quote (characters : List Char) :
    unquote (quote (encode characters)) = some (encode characters) := by
  have readBack : unquoteFrom (characters.flatMap quoteChar ++ [34]) =
      some (encode characters) := by
    induction characters with
    | nil => rfl
    | cons _ _ ih =>
      rw [List.flatMap_cons, List.append_assoc, unquoteFrom_quoteChar, ih]
      rfl
  rw [quote, List.cons_append, unquote, if_pos rfl, quoteFrom_encode, readBack]

end JsonString
