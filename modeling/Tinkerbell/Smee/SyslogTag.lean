import Tinkerbell.Library.FirstMatch
import Tinkerbell.Smee.Syslog

/-!
Owns: what the parser makes of the tag of a legacy message, and that the three
fields it leaves hold the whole body.

The scan stops at the first byte that no tag has. Each of its exits is a split of
the body, and the split gives the body back: the tag, the process id in brackets if
one is closed, a colon and a blank if they follow, and the text.
-/

namespace Tinkerbell.Smee.Syslog

def bracketed : Option (List UInt8) → List UInt8
  | none => []
  | some procid => 91 :: procid ++ [93]

/-- A body is made of the fields that were read from it. -/
structure Reassembles (body : List UInt8) (app procid msg : Option (List UInt8)) : Prop where
  whole : ∃ separator, (separator = [] ∨ separator = [58, 32]) ∧
    body = bytesOf app ++ bracketed procid ++ separator ++ bytesOf msg
  tagBytes : ∀ byte ∈ bytesOf app, isTagByte byte = true
  unset_iff : app = none ↔ ∀ byte ∈ body, isTagByte byte = true

theorem trimStart_split (bytes start : List UInt8) :
    ∃ separator, (separator = [] ∨ separator = start) ∧
      bytes = separator ++ trimStart bytes start := by
  unfold trimStart
  split
  · next isStart =>
    refine ⟨start, Or.inr rfl, ?_⟩
    obtain ⟨_, isBytes⟩ := isStart
    rw [← isBytes, List.drop_left]
  · exact ⟨[], Or.inl rfl, rfl⟩

theorem parsePid_split {bytes : List UInt8} (opened : bytes.head? = some 91) :
    ∃ procid rest, parsePid bytes = .ok (procid, rest) ∧ bytes = bracketed procid ++ rest := by
  obtain ⟨inner, rfl⟩ := List.head?_eq_some_iff.mp opened
  unfold parsePid
  rw [sliceFrom_eq (by simp)]
  simp only [bind, Except.bind, List.drop_one, List.tail_cons]
  cases isPosition : inner.findIdx? (· == 93) with
  | none => exact ⟨none, 91 :: inner, rfl, rfl⟩
  | some position =>
    obtain ⟨procid, _, rest, rfl, isLength, isClosing, _⟩ :=
      FirstMatch.split_of_findIdx? isPosition
    rw [eq_of_beq isClosing]
    have isTaken : ((91 :: (procid ++ 93 :: rest)).take (1 + position)).drop 1 = procid := by
      rw [Nat.add_comm, List.take_succ_cons, List.drop_one, List.tail_cons, ← isLength,
        List.take_left]
    have isDropped : (91 :: (procid ++ 93 :: rest)).drop (1 + position + 1) = rest := by
      rw [Nat.add_comm 1 position, List.drop_succ_cons, ← isLength, ← List.drop_drop,
        List.drop_left, List.drop_one, List.tail_cons]
    have inside : 1 + position + 1 ≤ (91 :: (procid ++ 93 :: rest)).length := by
      rw [List.length_cons, List.length_append, List.length_cons]
      omega
    refine ⟨some procid, rest, ?_, ?_⟩
    · dsimp only
      rw [slice_eq (by omega) (by omega), sliceFrom_eq inside, isTaken, isDropped]
    · show _ = 91 :: (procid ++ [93]) ++ rest
      rw [List.cons_append, List.append_assoc, List.singleton_append]

theorem parseLegacyTag_stopped {parsed : Parsed} {app later : List UInt8} {byte : UInt8}
    (isBody : bytesOf parsed.msg = app ++ byte :: later)
    (isTag : ∀ earlier ∈ app, isTagByte earlier = true) (notTag : isTagByte byte = false) :
    parseLegacyTag parsed =
      if byte = 91 then do
        let (procid, rest) ← parsePid (byte :: later)
        .ok
          { parsed with
            app := some app
            procid
            msg := some (trimStart rest [58, 32]) }
      else
        .ok
          { parsed with
            app := some app
            msg := some (trimStart (byte :: later) [58, 32]) } := by
  have isPosition : (app ++ byte :: later).findIdx? (fun byte => !isTagByte byte) =
      some app.length := by
    rw [List.findIdx?_append, List.findIdx?_eq_none_iff.mpr (by simpa using isTag),
      List.findIdx?_cons, if_pos (by simpa using notTag)]
    simp
  have isByte : at? (app ++ byte :: later) app.length = .ok byte := by
    rw [at?, List.getElem?_append_right (Nat.le_refl _), Nat.sub_self]
    rfl
  unfold parseLegacyTag
  dsimp only
  rw [isBody, isPosition]
  dsimp only
  rw [isByte, slice_eq (Nat.zero_le _) (by simp), sliceFrom_eq (by simp), List.take_left,
    List.drop_left]
  rfl

theorem reassembles_of_split {body app rest : List UInt8} {procid : Option (List UInt8)}
    {byte : UInt8} (isMember : byte ∈ body) (notTag : isTagByte byte = false)
    (isTag : ∀ earlier ∈ app, isTagByte earlier = true)
    (isBody : body = app ++ bracketed procid ++ rest) :
    Reassembles body (some app) procid (some (trimStart rest [58, 32])) where
  whole := by
    obtain ⟨separator, isSeparator, isRest⟩ := trimStart_split rest [58, 32]
    refine ⟨separator, isSeparator, ?_⟩
    show body = app ++ bracketed procid ++ separator ++ trimStart rest [58, 32]
    rw [List.append_assoc _ separator, ← isRest, isBody]
  tagBytes := isTag
  unset_iff := by
    refine iff_of_false nofun ?_
    intro allTag
    rw [allTag byte isMember] at notTag
    cases notTag

/-- The parser of the tag loses no text. -/
theorem legacy_tag_loses_nothing (parsed : Parsed) (noProcid : parsed.procid = none) :
    ∃ result, parseLegacyTag parsed = .ok result ∧
      Reassembles (bytesOf parsed.msg) result.app result.procid result.msg := by
  cases isPosition : (bytesOf parsed.msg).findIdx? (fun byte => !isTagByte byte) with
  | none =>
    have allTag : ∀ byte ∈ bytesOf parsed.msg, isTagByte byte = true := by
      simpa using List.findIdx?_eq_none_iff.mp isPosition
    unfold parseLegacyTag
    dsimp only
    rw [isPosition]
    refine ⟨_, rfl, ⟨[], Or.inl rfl, rfl⟩, ?_, iff_of_true rfl allTag⟩
    exact fun byte member => absurd member List.not_mem_nil
  | some =>
    obtain ⟨app, byte, later, isBody, _, isOther, tagBefore⟩ :=
      FirstMatch.split_of_findIdx? isPosition
    have notTag : isTagByte byte = false := by simpa using isOther
    have isTag : ∀ earlier ∈ app, isTagByte earlier = true := by simpa using tagBefore
    have isMember : byte ∈ bytesOf parsed.msg := by
      rw [isBody]
      exact List.mem_append_right app List.mem_cons_self
    rw [parseLegacyTag_stopped isBody isTag notTag]
    split
    · next isBracket =>
      obtain ⟨_, _, isPid, isLater⟩ := @parsePid_split (byte :: later) (by
        rw [isBracket]
        rfl)
      rw [isPid]
      refine ⟨_, rfl, reassembles_of_split isMember notTag isTag ?_⟩
      rw [isBody, isLater, List.append_assoc]
    · refine ⟨_, rfl, ?_⟩
      rw [noProcid]
      apply reassembles_of_split isMember notTag isTag
      rw [isBody, bracketed, List.append_nil]

/-- `su[12: x` has a bracket that is never closed, which stays in the text. -/
theorem legacy_tag_loses_nothing_unclosed :
    ∃ result, parseLegacyTag
        { cleared ⟨0, 0⟩ with msg := some [115, 117, 91, 49, 50, 58, 32, 120] } = .ok result ∧
      Reassembles [115, 117, 91, 49, 50, 58, 32, 120] result.app result.procid result.msg :=
  legacy_tag_loses_nothing { cleared ⟨0, 0⟩ with
    msg := some [115, 117, 91, 49, 50, 58, 32, 120] } rfl

end Tinkerbell.Smee.Syslog
