import Tinkerbell.Library.ByteText
import Tinkerbell.Library.PatternSearch

/-!
Owns: the copy loop that patches a boot image on its way to the client, and how
its output depends on the way the image arrives.

The loop looks for the magic string in each read by itself.
-/

namespace Tinkerbell.Smee.Iso

open ByteText PatternSearch

/-- The part of the handler's patch settings the copy loop reads. -/
structure Patch where
  magicString : Bytes

def Patch.magicStrPadding (patch : Patch) : Bytes :=
  List.replicate patch.magicString.length 32

inductive ReadError where
  | eof
  | canceled
  | other (text : String)

inductive CopyError where
  | read (error : ReadError)
  | write (text : String)
  | shortWrite

/-- One turn of the loop: what `src.Read` gave, of any length its buffer allows,
and what `dst.Write` answers if it is called. -/
structure Turn where
  read : Bytes
  readError : Option ReadError
  taken : Nat
  writeError : Option String

/-- What the writer took, the count the loop keeps of it, and how the loop ended;
`ended = none` while it still reads. -/
structure Progress where
  output : Bytes
  written : Nat
  ended : Option (Option CopyError)

def copyInto (target : Bytes) (start : Nat) (source : Bytes) : Bytes :=
  splice target start (source.take (target.length - start))

def patchRead (patch : Patch) (isoPatch read : Bytes) : Bytes :=
  match index patch.magicString read with
  | none => read
  | some start => copyInto (copyInto read start patch.magicStrPadding) start isoPatch

def afterRead : Option ReadError → Option (Option CopyError)
  | none => none
  | some .eof => some none
  | some error => some (some (.read error))

def copyFrom (patch : Patch) (isoPatch : Bytes) (progress : Progress) :
    List Turn → Progress
  | [] => progress
  | turn :: later =>
    if turn.read = [] then
      match afterRead turn.readError with
      | some result => { progress with ended := some result }
      | none => copyFrom patch isoPatch progress later
    else
      let patched := patchRead patch isoPatch turn.read
      let next : Progress :=
        { progress with
          output := progress.output ++ patched.take turn.taken
          written := progress.written + turn.taken }
      match turn.writeError with
      | some text => { next with ended := some (some (.write text)) }
      | none =>
        if turn.read.length ≠ turn.taken then
          { next with ended := some (some .shortWrite) }
        else
          match afterRead turn.readError with
          | some result => { next with ended := some result }
          | none => copyFrom patch isoPatch next later

def copy (patch : Patch) (isoPatch : Bytes) (turns : List Turn) : Progress :=
  copyFrom patch isoPatch ⟨[], 0, none⟩ turns

theorem copyInto_split (before old after : Bytes) {source : Bytes}
    (fits : source.length ≤ old.length) :
    copyInto (before ++ old ++ after) before.length source =
      before ++ (source ++ old.drop source.length) ++ after := by
  unfold copyInto
  rw [List.take_of_length_le, splice_split before old after fits]
  simp only [List.length_append]
  omega

def replacement (patch : Patch) (isoPatch : Bytes) : Bytes :=
  isoPatch ++ patch.magicStrPadding.drop isoPatch.length

section Replacement

variable {patch : Patch} {isoPatch : Bytes}
  (short : isoPatch.length ≤ patch.magicString.length)

include short

theorem length_replacement : (replacement patch isoPatch).length = patch.magicString.length := by
  unfold replacement Patch.magicStrPadding
  rw [List.length_append, List.length_drop, List.length_replicate]
  omega

theorem patchRead_eq (nonempty : patch.magicString ≠ []) (read : Bytes) :
    patchRead patch isoPatch read =
      replaceFirst patch.magicString (replacement patch isoPatch) read := by
  cases found : index patch.magicString read with
  | none =>
    rw [replaceFirst_of_none found]
    unfold patchRead
    rw [found]
  | some =>
    obtain ⟨before, after, isRead, isStart, replaced⟩ :=
      replaceFirst_split nonempty (length_replacement short) found
    rw [replaced]
    unfold patchRead
    rw [found]
    have samePadding : patch.magicStrPadding.length = patch.magicString.length :=
      List.length_replicate
    dsimp only
    rw [isRead, ← isStart, copyInto_split before _ after (by omega), samePadding,
      List.drop_length, List.append_nil, copyInto_split before _ after (by omega)]
    rfl

end Replacement

/-- The writer takes every byte it is given. -/
def Turn.TakesAll (turn : Turn) : Prop :=
  turn.taken = turn.read.length ∧ turn.writeError = none

inductive Complete : List Turn → Prop
  | last {turn : Turn} (ends : turn.readError = some .eof) (takesAll : turn.TakesAll) :
      Complete [turn]
  | more {turn : Turn} {later : List Turn} (readsOn : turn.readError = none)
      (takesAll : turn.TakesAll) (complete : Complete later) : Complete (turn :: later)

def reads (turns : List Turn) : List (Bytes) :=
  turns.map Turn.read

def oneRead (stream : Bytes) : List Turn :=
  [⟨stream, some .eof, stream.length, none⟩]

theorem complete_oneRead (stream : Bytes) : Complete (oneRead stream) :=
  .last rfl ⟨rfl, rfl⟩

section Loop

variable {patch : Patch} {isoPatch : Bytes}
  (nonempty : patch.magicString ≠ [])
  (short : isoPatch.length ≤ patch.magicString.length)

include nonempty short

theorem copyFrom_takesAll {turn : Turn} (takesAll : turn.TakesAll) (progress : Progress)
    (later : List Turn) :
    copyFrom patch isoPatch progress (turn :: later) =
      let next : Progress :=
        { progress with
          output := progress.output ++
            replaceFirst patch.magicString (replacement patch isoPatch) turn.read
          written := progress.written + turn.read.length }
      match afterRead turn.readError with
      | some result => { next with ended := some result }
      | none => copyFrom patch isoPatch next later := by
  obtain ⟨takes, noError⟩ := takesAll
  have sameLength := length_replacement short
  rw [copyFrom]
  by_cases empty : turn.read = []
  · have absent : index patch.magicString [] = none := by simp [index, nonempty]
    rw [if_pos empty, empty, replaceFirst_of_none absent]
    simp
  · have whole : (replaceFirst patch.magicString (replacement patch isoPatch)
        turn.read).take turn.read.length =
        replaceFirst patch.magicString (replacement patch isoPatch) turn.read := by
      apply List.take_of_length_le
      rw [length_replaceFirst nonempty sameLength]
    rw [if_neg empty, noError, takes, patchRead_eq short nonempty]
    simp [whole]

theorem copyFrom_complete {turns : List Turn} (complete : Complete turns)
    (progress : Progress) :
    copyFrom patch isoPatch progress turns =
      { output := progress.output ++ (reads turns).flatMap
          (replaceFirst patch.magicString (replacement patch isoPatch))
        written := progress.written + (reads turns).flatten.length
        ended := some none } := by
  induction complete generalizing progress with
  | last ends takesAll =>
    rw [copyFrom_takesAll nonempty short takesAll, ends]
    simp [afterRead, reads]
  | more readsOn takesAll _ ih =>
    rw [copyFrom_takesAll nonempty short takesAll, readsOn]
    simp only [afterRead]
    rw [ih]
    simp [reads, Nat.add_assoc]

theorem copy_complete {turns : List Turn} (complete : Complete turns) :
    copy patch isoPatch turns =
      { output := (reads turns).flatMap
          (replaceFirst patch.magicString (replacement patch isoPatch))
        written := (reads turns).flatten.length
        ended := some none } := by
  unfold copy
  rw [copyFrom_complete nonempty short complete]
  simp

theorem copy_oneRead (stream : Bytes) :
    (copy patch isoPatch (oneRead stream)).output =
      replaceFirst patch.magicString (replacement patch isoPatch) stream := by
  rw [copy_complete nonempty short (complete_oneRead stream)]
  simp [reads, oneRead]

end Loop

/-- What the client gets is what one read of the whole image gives exactly when
the patch is the magic string itself, the image has no magic string, or the first
one lies within one read and no later read has another. -/
theorem copy_chunk_independent_iff (patch : Patch) (isoPatch : Bytes)
    (turns : List Turn) (nonempty : patch.magicString ≠ [])
    (short : isoPatch.length ≤ patch.magicString.length) (complete : Complete turns) :
    (copy patch isoPatch turns).output =
        (copy patch isoPatch (oneRead (reads turns).flatten)).output ↔
      replacement patch isoPatch = patch.magicString ∨
        index patch.magicString (reads turns).flatten = none ∨
        WithinOne patch.magicString (reads turns) := by
  have sameLength := length_replacement short
  rw [copy_oneRead nonempty short, copy_complete nonempty short complete]
  by_cases same : replacement patch isoPatch = patch.magicString
  · have unchanged : replaceFirst patch.magicString (replacement patch isoPatch) = id :=
      funext (replaceFirst_self nonempty sameLength same)
    rw [unchanged]
    simp [same]
  · rw [flatMap_replaceFirst_eq_iff nonempty sameLength same]
    simp [same]

def magicPatch : Patch :=
  ⟨[109, 97, 103, 105, 99]⟩

def readTurn (read : Bytes) (readError : Option ReadError) : Turn :=
  ⟨read, readError, read.length, none⟩

theorem copy_chunk_independent_iff_whole :
    (copy magicPatch [112] [readTurn [1, 109, 97, 103, 105, 99] none,
        readTurn [2] (some .eof)]).output =
      (copy magicPatch [112] (oneRead [1, 109, 97, 103, 105, 99, 2])).output :=
  (copy_chunk_independent_iff magicPatch [112]
    [readTurn [1, 109, 97, 103, 105, 99] none, readTurn [2] (some .eof)]
    (by decide) (by decide) (.more rfl ⟨rfl, rfl⟩ (.last rfl ⟨rfl, rfl⟩))).mpr
    (Or.inr (Or.inr ⟨[], [1, 109, 97, 103, 105, 99], [[2]], 1, rfl, by decide, by decide,
      by decide⟩))

/-- Cut in two, the magic string reaches the client as it is. -/
theorem straddling_magic_unpatched :
    (copy magicPatch [112] [readTurn [1, 109, 97] none,
        readTurn [103, 105, 99, 2] (some .eof)]).output =
      [1, 109, 97, 103, 105, 99, 2] ∧
    (copy magicPatch [112] (oneRead [1, 109, 97, 103, 105, 99, 2])).output =
      [1, 112, 32, 32, 32, 32, 2] := by
  decide

end Tinkerbell.Smee.Iso
