import Mathlib.Data.List.DropRight
import Mathlib.Data.List.TakeWhile

/-!
Owns: texts as lists of bytes, the value of their digits, and what is done at the ends of a
text of any kind: dropping what it starts and ends with, and cutting it at the last separator.
-/

namespace ByteText

abbrev Bytes := List UInt8

def isDigit (byte : UInt8) : Bool := 48 ≤ byte && byte ≤ 57

def unhex (byte : UInt8) : Option Nat :=
  if 48 ≤ byte ∧ byte ≤ 57 then some (byte.toNat - 48)
  else if 97 ≤ byte ∧ byte ≤ 102 then some (byte.toNat - 97 + 10)
  else if 65 ≤ byte ∧ byte ≤ 70 then some (byte.toNat - 65 + 10)
  else none

variable {α : Type}

def trim (dropped : α → Bool) (text : List α) : List α :=
  (text.dropWhile dropped).rdropWhile dropped

section Trim

variable (dropped : α → Bool) (text : List α)

theorem trim_isInfix : trim dropped text <:+: text := by
  have isPrefix := List.rdropWhile_prefix dropped (text.dropWhile dropped)
  exact isPrefix.isInfix.trans (List.dropWhile_suffix _).isInfix

theorem head?_trim : ∀ first ∈ (trim dropped text).head?, dropped first = false := by
  intro first isFirst
  obtain ⟨rest, isFront⟩ := List.rdropWhile_prefix dropped (text.dropWhile dropped)
  have kept : (text.dropWhile dropped).head? = some first := by
    rw [← isFront, List.head?_append]
    exact congrArg (Option.or · rest.head?) isFirst
  have stopped := List.head?_dropWhile_not dropped text
  rwa [kept] at stopped

theorem getLast?_trim : ∀ last ∈ (trim dropped text).getLast?, dropped last = false := by
  intro last isLast
  have notEmpty : trim dropped text ≠ [] := List.ne_nil_of_mem (List.mem_of_getLast? isLast)
  have stopped := List.rdropWhile_last_not dropped (text.dropWhile dropped) notEmpty
  rw [Option.mem_def, List.getLast?_eq_some_getLast notEmpty] at isLast
  rw [← Option.some.inj isLast]
  exact Bool.eq_false_iff.mpr stopped

variable {dropped text}

theorem trim_eq_self (starts : ∀ first ∈ text.head?, dropped first = false)
    (ends : ∀ last ∈ text.getLast?, dropped last = false) : trim dropped text = text := by
  have kept : text.dropWhile dropped = text := by
    cases text with
    | nil => rfl
    | cons first => exact List.dropWhile_cons_of_neg (Bool.eq_false_iff.mp (starts first rfl))
  rw [trim, kept, List.rdropWhile_eq_self_iff]
  intro notEmpty isDropped
  rw [ends _ (List.getLast?_eq_some_getLast notEmpty)] at isDropped
  cases isDropped

end Trim

variable [DecidableEq α]

def cutLast (separator : α) (text : List α) : Option (List α × List α) :=
  match text.reverse.dropWhile (· ≠ separator) with
  | [] => none
  | _ :: before => some (before.reverse, (text.reverse.takeWhile (· ≠ separator)).reverse)

variable {separator : α}

theorem passes_of_notMem {text : List α}
    (absent : separator ∉ text) : ∀ element ∈ text, decide (element ≠ separator) = true := by
  intro element member
  exact decide_eq_true fun same => absent (same ▸ member)

theorem cutLast_append (before : List α) {after : List α}
    (absent : separator ∉ after) :
    cutLast separator (before ++ separator :: after) = some (before, after) := by
  have passes := passes_of_notMem (fun member => absent (List.mem_reverse.mp member))
  have reversed : (before ++ separator :: after).reverse =
      after.reverse ++ separator :: before.reverse := by simp
  unfold cutLast
  rw [reversed, List.dropWhile_append_of_pos passes, List.takeWhile_append_of_pos passes]
  simp

theorem notMem_of_cutLast {text before after : List α}
    (cut : cutLast separator text = some (before, after)) :
    separator ∉ after ∧ ∀ element ∈ after, element ∈ text := by
  unfold cutLast at cut
  split at cut
  · cases cut
  · cases cut
    constructor
    · intro member
      have passes := List.mem_takeWhile_imp (List.mem_reverse.mp member)
      simp at passes
    · intro element member
      have inText := (List.takeWhile_subset _) (List.mem_reverse.mp member)
      exact List.mem_reverse.mp inText

end ByteText
