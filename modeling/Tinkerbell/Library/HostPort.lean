import Tinkerbell.Library.ByteText

/-!
Owns: addresses written as a host, a colon and a port, with brackets around a
host that has colons of its own: taking them apart and putting them together.

A host without brackets and a port that was taken from an address come back
from the text they are joined to (`splitHostPort_joinHostPort`).
-/

namespace HostPort

open ByteText

def missingPort : String := "missing port in address"

def tooManyColons : String := "too many colons in address"

def splitBracketed (inner port : List Char) : Except String (List Char × List Char) :=
  match inner.dropWhile (· ≠ ']') with
  | [] => .error "missing ']' in address"
  | _ :: rest =>
    if rest = [] then .error missingPort
    -- The colon behind the bracket has to be the last one.
    else if rest ≠ ':' :: port then
      .error (if rest.head? = some ':' then tooManyColons else missingPort)
    else if '[' ∈ inner then .error "unexpected '[' in address"
    else if ']' ∈ rest then .error "unexpected ']' in address"
    else .ok (inner.takeWhile (· ≠ ']'), port)

/-- Take an address apart: the port starts behind the last colon, and a host with
colons stands in brackets right before it. -/
def splitHostPort (text : List Char) : Except String (List Char × List Char) :=
  match cutLast ':' text with
  | none => .error missingPort
  | some (before, port) =>
    if text.head? = some '[' then splitBracketed (text.drop 1) port
    else if ':' ∈ before then .error tooManyColons
    else if '[' ∈ text then .error "unexpected '[' in address"
    else if ']' ∈ text then .error "unexpected ']' in address"
    else .ok (before, port)

def joinHostPort (host port : List Char) : List Char :=
  if ':' ∈ host then '[' :: (host ++ ']' :: ':' :: port) else host ++ ':' :: port

/-- What can stand behind the last colon. -/
structure IsPort (port : List Char) : Prop where
  colon : ':' ∉ port
  opening : '[' ∉ port
  closing : ']' ∉ port

variable {port host : List Char}

theorem isPort_of_bracketed {inner found : List Char} (colon : ':' ∉ port)
    (splits : splitBracketed inner port = .ok (host, found)) : found = port ∧ IsPort port := by
  unfold splitBracketed at splits
  split at splits
  · cases splits
  · next _ dropped =>
    split at splits
    · cases splits
    · split at splits
      · cases splits
      · next behind =>
        split at splits
        · cases splits
        · next opening =>
          split at splits
          · cases splits
          · next closing =>
            cases splits
            have isRest := not_not.mp behind
            have inInner : ∀ char ∈ port, char ∈ inner := by
              intro char member
              apply List.dropWhile_subset (· ≠ ']')
              rw [dropped, isRest]
              simp [member]
            rw [isRest] at closing
            exact ⟨rfl, colon, fun member => opening (inInner _ member),
              fun member => closing (List.mem_cons_of_mem _ member)⟩

theorem isPort_of_split {text : List Char} (splits : splitHostPort text = .ok (host, port)) :
    IsPort port := by
  unfold splitHostPort at splits
  split at splits
  · cases splits
  · next _ _ cut =>
    obtain ⟨colon, inText⟩ := notMem_of_cutLast cut
    split at splits
    · obtain ⟨rfl, isPort⟩ := isPort_of_bracketed colon splits
      exact isPort
    · split at splits
      · cases splits
      · split at splits
        · cases splits
        · next opening =>
          split at splits
          · cases splits
          · next closing =>
            cases splits
            exact ⟨colon, fun member => opening (inText _ member),
              fun member => closing (inText _ member)⟩

theorem splitBracketed_of_host (opening : '[' ∉ host)
    (closing : ']' ∉ host) (isPort : IsPort port) :
    splitBracketed (host ++ ']' :: ':' :: port) port = .ok (host, port) := by
  have passes := passes_of_notMem closing
  unfold splitBracketed
  rw [List.dropWhile_append_of_pos passes, List.takeWhile_append_of_pos passes]
  simp [opening, isPort.opening, isPort.closing]

theorem splitHostPort_joinHostPort (opening : '[' ∉ host) (closing : ']' ∉ host)
    (isPort : IsPort port) :
    splitHostPort (joinHostPort host port) = .ok (host, port) := by
  by_cases colons : ':' ∈ host
  · have cut : cutLast ':' ('[' :: (host ++ ']' :: ':' :: port)) =
        some ('[' :: (host ++ [']']), port) := by
      rw [← cutLast_append ('[' :: (host ++ [']'])) isPort.colon]
      simp
    unfold splitHostPort joinHostPort
    rw [if_pos colons, cut]
    exact splitBracketed_of_host opening closing isPort
  · unfold splitHostPort joinHostPort
    rw [if_neg colons, cutLast_append host isPort.colon]
    dsimp only
    have plain : (host ++ ':' :: port).head? ≠ some '[' := by
      cases host with
      | nil => simp
      | cons =>
        intro bracket
        exact opening (by simp [Option.some.inj bracket])
    rw [if_neg plain, if_neg colons, if_neg (by simp [opening, isPort.opening]),
      if_neg (by simp [closing, isPort.closing])]

theorem joinHostPort_injective {left right : List Char} (isPort : IsPort port)
    (leftPlain : '[' ∉ left ∧ ']' ∉ left) (rightPlain : '[' ∉ right ∧ ']' ∉ right)
    (same : joinHostPort left port = joinHostPort right port) : left = right := by
  have splits := splitHostPort_joinHostPort leftPlain.1 leftPlain.2 isPort
  rw [same, splitHostPort_joinHostPort rightPlain.1 rightPlain.2 isPort] at splits
  cases splits
  rfl

end HostPort
