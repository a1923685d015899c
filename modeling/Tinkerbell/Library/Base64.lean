import Mathlib.Algebra.Group.Nat.Defs
import Tinkerbell.Library.ByteText

/-!
Owns: the standard base64 encoding with padding, and reading the URL encoding
without. Three bytes become four characters; a reader skips line ends and refuses
anything else outside of the alphabet, a last group that is not complete, and
text behind the padding.

What is encoded is read back (`decode_encode`).
-/

namespace Base64

open ByteText (Bytes)

def padding : UInt8 := 61

def character (value : Nat) : UInt8 :=
  if value < 26 then UInt8.ofNat (65 + value)
  else if value < 52 then UInt8.ofNat (97 + (value - 26))
  else if value < 62 then UInt8.ofNat (48 + (value - 52))
  else if value = 62 then 43
  else 47

def valueOf (byte : UInt8) : Option Nat :=
  if 65 ≤ byte ∧ byte ≤ 90 then some (byte.toNat - 65)
  else if 97 ≤ byte ∧ byte ≤ 122 then some (byte.toNat - 97 + 26)
  else if 48 ≤ byte ∧ byte ≤ 57 then some (byte.toNat - 48 + 52)
  else if byte = 43 then some 62
  else if byte = 47 then some 63
  else none

def word (first second third : UInt8) : Nat :=
  first.toNat * 65536 + second.toNat * 256 + third.toNat

def sextet (number position : Nat) : Nat := number / 64 ^ (3 - position) % 64

def octet (number position : Nat) : UInt8 := UInt8.ofNat (number / 256 ^ (2 - position) % 256)

def digit (number position : Nat) : UInt8 := character (sextet number position)

def encode : Bytes → Bytes
  | [] => []
  | [first] =>
    let number := word first 0 0
    [digit number 0, digit number 1, padding, padding]
  | [first, second] =>
    let number := word first second 0
    [digit number 0, digit number 1, digit number 2, padding]
  | first :: second :: third :: rest =>
    let number := word first second third
    digit number 0 :: digit number 1 :: digit number 2 :: digit number 3 :: encode rest

def join (first second third fourth : Nat) : Nat :=
  first * 262144 + second * 4096 + third * 64 + fourth

def decodeGroups : Bytes → Option Bytes
  | [] => some []
  | first :: second :: third :: fourth :: rest =>
    if fourth = padding then
      if rest ≠ [] then none
      else if third = padding then do
        let number := join (← valueOf first) (← valueOf second) 0 0
        some [octet number 0]
      else do
        let number := join (← valueOf first) (← valueOf second) (← valueOf third) 0
        some [octet number 0, octet number 1]
    else do
      let number := join (← valueOf first) (← valueOf second) (← valueOf third) (← valueOf fourth)
      let later ← decodeGroups rest
      some (octet number 0 :: octet number 1 :: octet number 2 :: later)
  | _ => none

def isLineEnd (byte : UInt8) : Bool := byte = 10 || byte = 13

def decode (text : Bytes) : Option Bytes := decodeGroups (text.filter fun byte => !isLineEnd byte)

/-- The text filled up to whole groups. -/
def pad (text : Bytes) : Bytes := text ++ List.replicate ((4 - text.length % 4) % 4) padding

/-- The characters `-` and `_` of the URL alphabet as those of the standard one. -/
def ofUrl (text : Bytes) : Bytes :=
  text.map fun byte => if byte = 45 then 43 else if byte = 95 then 47 else byte

def decodeRawUrl (text : Bytes) : Option Bytes :=
  let kept := text.filter fun byte => !isLineEnd byte
  if kept.any (· ∈ [43, 47, padding]) then none else decodeGroups (ofUrl (pad kept))

theorem character_reads_back :
    ∀ value < 64, valueOf (character value) = some value ∧
      character value ≠ padding ∧ isLineEnd (character value) = false := by
  decide

variable (number : Nat) (first : UInt8) (bytes : Bytes) (second : UInt8) (position : Nat)

theorem sextet_lt : sextet number position < 64 :=
  Nat.mod_lt _ (by decide)

@[simp] theorem valueOf_digit : valueOf (digit number position) = some (sextet number position) :=
  (character_reads_back _ (sextet_lt number position)).1

@[simp] theorem digit_ne_padding : digit number position ≠ padding :=
  (character_reads_back _ (sextet_lt number position)).2.1

@[simp] theorem digit_not_lineEnd : isLineEnd (digit number position) = false :=
  (character_reads_back _ (sextet_lt number position)).2.2

theorem word_lt (third : UInt8) : word first second third < 16777216 := by
  have firstBound := first.toNat_lt
  have secondBound := second.toNat_lt
  have thirdBound := third.toNat_lt
  unfold word
  omega

theorem join_sextets {number : Nat} (small : number < 16777216) :
    join (sextet number 0) (sextet number 1) (sextet number 2) (sextet number 3) = number := by
  simp only [join, sextet]
  omega

theorem octet_eq {number position : Nat} {byte : UInt8}
    (isByte : number / 256 ^ (2 - position) % 256 = byte.toNat) : octet number position = byte := by
  rw [octet, isByte]
  exact UInt8.ofNat_toNat

theorem octets_word (third : UInt8) :
    octet (word first second third) 0 = first ∧ octet (word first second third) 1 = second ∧
      octet (word first second third) 2 = third := by
  have firstBound := first.toNat_lt
  have secondBound := second.toNat_lt
  have thirdBound := third.toNat_lt
  refine ⟨octet_eq ?_, octet_eq ?_, octet_eq ?_⟩
  all_goals
    simp only [word]
    omega

theorem sextets_padded :
    sextet (word first second 0) 3 = 0 ∧ sextet (word first 0 0) 2 = 0 ∧
      sextet (word first 0 0) 3 = 0 := by
  simp only [sextet, word, UInt8.toNat_zero]
  omega

theorem decodeGroups_encode : decodeGroups (encode bytes) = some bytes := by
  fun_induction encode bytes with
  | case1 => rfl
  | case2 first number =>
    have whole := join_sextets (word_lt first 0 0)
    rw [(sextets_padded first 0).2.1, (sextets_padded first 0).2.2] at whole
    simp [decodeGroups, number, whole, (octets_word first 0 0).1]
  | case3 first second number =>
    have whole := join_sextets (word_lt first second 0)
    rw [(sextets_padded first second).1] at whole
    have octets := octets_word first second 0
    simp [decodeGroups, number, whole, octets.1, octets.2.1]
  | case4 first second third rest number ih =>
    have octets := octets_word first second third
    simp [decodeGroups, number, join_sextets (word_lt first second third), octets.1, octets.2.1,
      octets.2.2, ih]

theorem encode_no_lineEnd : ∀ byte ∈ encode bytes, isLineEnd byte = false := by
  have pad : isLineEnd padding = false := rfl
  fun_induction encode bytes with
  | case1 => simp
  | case2 first number | case3 first second number => simp [pad]
  | case4 first second third rest number ih =>
    simpa using ih

theorem decode_encode : decode (encode bytes) = some bytes := by
  have kept : (encode bytes).filter (fun byte => !isLineEnd byte) = encode bytes :=
    List.filter_eq_self.mpr fun byte member => by simp [encode_no_lineEnd bytes byte member]
  rw [decode, kept]
  exact decodeGroups_encode bytes

end Base64
