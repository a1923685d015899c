import Tinkerbell.Controller.Hardware
import Tinkerbell.Library.TransitionSystem
import Tinkerbell.Library.VersionedSlot

/-!
Owns: `setAllowPXE` next to others who write, delete and create the Hardware it toggles,
as `toggleHardware` calls it: with a Hardware that was read before.

A read may return any version that was ever stored, as from a cache that is behind. An
update is accepted only against the stored version. One whose answer is lost is stored as
well, but returns an error; such updates are kept apart from those that were accepted.
-/

variable {read : Except String Hardware} {attempt : Nat}

namespace Tinkerbell.Controller.Toggle

open Api TransitionSystem

variable {ρ : Type}

/-- A Hardware with the fields that are left out of `Hardware`. -/
structure StoredHardware (ρ : Type) where
  hardware : Hardware
  others : ρ
deriving DecidableEq

def StoredHardware.setPXE (allowPXE : Bool) (object : StoredHardware ρ) : StoredHardware ρ :=
  { object with hardware := setHardwarePXE allowPXE object.hardware }

def InterfacePXE (allowPXE : Bool) (before after : Interface) : Prop :=
  after = { before with
    netboot := some { before.netboot.getD {} with allowPXE := some allowPXE } }

structure OnlyPXE (allowPXE : Bool) (before after : StoredHardware ρ) : Prop where
  interfaces : List.Forall₂ (InterfacePXE allowPXE) before.hardware.spec.interfaces
    after.hardware.spec.interfaces
  elsewhere : after = { before with hardware := { before.hardware with
    spec := { before.hardware.spec with interfaces := after.hardware.spec.interfaces } } }

inductive Phase (ρ : Type) where
  /-- The read of `toggleHardware` is next. -/
  | starting
  /-- The read after a conflict is next. -/
  | reading (attempt : Nat)
  /-- The update is next. -/
  | updating (attempt : Nat) (held : Versioned (StoredHardware ρ))
  | returned (error : Option String)
deriving DecidableEq

structure Write (ρ : Type) where
  (replaced stored : StoredHardware ρ)

/-- `reads` and `replies` are the answers to the reads and to the updates, `accepted` the
updates that were accepted, `lost` those that were stored under an error. -/
structure World (ρ : Type) where
  slot : Slot (StoredHardware ρ)
  phase : Phase ρ := .starting
  reads : List (Except String Hardware) := []
  replies : List UpdateReply := []
  (accepted lost : List (Write ρ) := [])

inductive Refusal where
  | conflict
  | failed (err : String)

def Refusal.reply : Refusal → UpdateReply
  | .conflict => .conflict
  | .failed err => .failed err

inductive Event (ρ : Type) where
  | write (object : StoredHardware ρ)
  | delete
  | read (snapshot : Versioned (StoredHardware ρ))
  | readFails (err : String)
  | update
  | updateFails (refusal : Refusal)
  | updateLost (err : String)

def hardwareNotFound (wf : Workflow) (err : String) : String :=
  "hardware not found: name=" ++ wf.spec.hardwareRef ++ "; namespace=" ++ wf.namespace ++
    ", error: " ++ err

theorem hardwareFrom_error (wf : Workflow) (err : String) :
    hardwareFrom wf (.error err) = .error (hardwareNotFound wf err) := by
  unfold hardwareFrom hardwareNotFound
  dsimp only

def afterRefusal (limit attempt : Nat) : Refusal → Phase ρ
  | .conflict =>
    if limit ≤ attempt then
      .returned (some ("error updating allow pxe after " ++ toString attempt ++
        " retries: conflict"))
    else .reading (attempt + 1)
  | .failed err => .returned (some ("error updating allow pxe: " ++ err))

def World.refused (world : World ρ) (limit attempt : Nat) (refusal : Refusal) : World ρ :=
  { world with
    phase := afterRefusal limit attempt refusal
    replies := world.replies ++ [refusal.reply] }

section Steps

variable [DecidableEq ρ] (wf : Workflow) (allowPXE : Bool) (limit : Nat)

def step (world : World ρ) : Event ρ → World ρ
  | .write object => { world with slot := world.slot.put object }
  | .delete => { world with slot := world.slot.delete }
  | .read snapshot =>
    if snapshot ∈ world.slot.history then
      match world.phase with
      | .starting =>
        { world with
          phase := if 1 ≤ limit then .updating 1 snapshot else .returned none
          reads := world.reads ++ [.ok snapshot.value.hardware] }
      | .reading attempt =>
        { world with
          phase := .updating attempt snapshot
          reads := world.reads ++ [.ok snapshot.value.hardware] }
      | _ => world
    else world
  | .readFails err =>
    match world.phase with
    | .starting | .reading _ =>
      { world with
        phase := .returned (some (hardwareNotFound wf err))
        reads := world.reads ++ [.error err] }
    | _ => world
  | .update =>
    match world.phase with
    | .updating attempt held =>
      match world.slot.update held (held.value.setPXE allowPXE) with
      | some (replaced, next) =>
        { world with
          slot := next
          phase := .returned none
          replies := world.replies ++ [.accepted]
          accepted := world.accepted ++ [⟨replaced, held.value.setPXE allowPXE⟩] }
      | none =>
        world.refused limit attempt
          (if world.slot.stored.isSome then .conflict else .failed "not found")
    | _ => world
  | .updateFails refusal =>
    match world.phase with
    | .updating attempt _ => world.refused limit attempt refusal
    | _ => world
  | .updateLost err =>
    match world.phase with
    | .updating attempt held =>
      match world.slot.update held (held.value.setPXE allowPXE) with
      | some (replaced, slot) =>
        { world.refused limit attempt (.failed err) with
          slot
          lost := world.lost ++ [⟨replaced, held.value.setPXE allowPXE⟩] }
      | none => world.refused limit attempt (.failed err)
    | _ => world

/-- What a step can do. -/
inductive Effect (world : World ρ) : World ρ → Prop where
  | others (slot : Slot (StoredHardware ρ))
      (grows : ∀ past ∈ world.slot.history, past ∈ slot.history) :
      Effect world { world with slot }
  | firstRead (snapshot : Versioned (StoredHardware ρ)) (isPhase : world.phase = .starting)
      (wasStored : snapshot ∈ world.slot.history) :
      Effect world
        { world with
          phase := if 1 ≤ limit then .updating 1 snapshot else .returned none
          reads := world.reads ++ [.ok snapshot.value.hardware] }
  | firstReadFails (err : String) (isPhase : world.phase = .starting) :
      Effect world
        { world with
          phase := .returned (some (hardwareNotFound wf err))
          reads := world.reads ++ [.error err] }
  | readAgain (attempt : Nat) (snapshot : Versioned (StoredHardware ρ))
      (isPhase : world.phase = .reading attempt) (wasStored : snapshot ∈ world.slot.history) :
      Effect world
        { world with
          phase := .updating attempt snapshot
          reads := world.reads ++ [.ok snapshot.value.hardware] }
  | readAgainFails (attempt : Nat) (err : String) (isPhase : world.phase = .reading attempt) :
      Effect world
        { world with
          phase := .returned (some (hardwareNotFound wf err))
          reads := world.reads ++ [.error err] }
  | updated (attempt : Nat) (held : Versioned (StoredHardware ρ))
      (replaced : StoredHardware ρ) (next : Slot (StoredHardware ρ))
      (isPhase : world.phase = .updating attempt held)
      (isUpdate : world.slot.update held (held.value.setPXE allowPXE) = some (replaced, next)) :
      Effect world
        { world with
          slot := next
          phase := .returned none
          replies := world.replies ++ [.accepted]
          accepted := world.accepted ++ [⟨replaced, held.value.setPXE allowPXE⟩] }
  | refused (attempt : Nat) (held : Versioned (StoredHardware ρ)) (refusal : Refusal)
      (isPhase : world.phase = .updating attempt held) :
      Effect world (world.refused limit attempt refusal)
  | lost (attempt : Nat) (held : Versioned (StoredHardware ρ)) (err : String)
      (replaced : StoredHardware ρ) (slot : Slot (StoredHardware ρ))
      (isPhase : world.phase = .updating attempt held)
      (isUpdate : world.slot.update held (held.value.setPXE allowPXE) = some (replaced, slot)) :
      Effect world
        { world.refused limit attempt (.failed err) with
          slot
          lost := world.lost ++ [⟨replaced, held.value.setPXE allowPXE⟩] }

theorem Effect.unchanged (world : World ρ) : Effect wf allowPXE limit world world :=
  .others world.slot fun _ member => member

theorem step_effect (world : World ρ) (event : Event ρ) :
    Effect wf allowPXE limit world (step wf allowPXE limit world event) := by
  cases event with
  | write object => exact .others _ (world.slot.history_subset_put object)
  | delete => exact .others _ fun _ member => member
  | read snapshot =>
    simp only [step]
    split
    · next wasStored =>
      split
      · next isPhase => exact .firstRead snapshot isPhase wasStored
      · next attempt isPhase => exact .readAgain attempt snapshot isPhase wasStored
      · exact .unchanged wf allowPXE limit world
    · exact .unchanged wf allowPXE limit world
  | readFails err =>
    simp only [step]
    split
    · next isPhase => exact .firstReadFails err isPhase
    · next attempt isPhase => exact .readAgainFails attempt err isPhase
    · exact .unchanged wf allowPXE limit world
  | update =>
    simp only [step]
    split
    · next attempt held isPhase =>
      split
      · next replaced next isUpdate =>
        exact .updated attempt held replaced next isPhase isUpdate
      · exact .refused attempt held _ isPhase
    · exact .unchanged wf allowPXE limit world
  | updateFails refusal =>
    simp only [step]
    split
    · next attempt held isPhase => exact .refused attempt held refusal isPhase
    · exact .unchanged wf allowPXE limit world
  | updateLost err =>
    simp only [step]
    split
    · next attempt held isPhase =>
      split
      · next replaced slot isUpdate => exact .lost attempt held err replaced slot isPhase isUpdate
      · exact .refused attempt held _ isPhase
    · exact .unchanged wf allowPXE limit world

end Steps

structure Counted (limit attempt : Nat) (world : World ρ) : Prop where
  within : attempt ≤ limit
  replies : world.replies.length + 1 = attempt
  accepted : world.accepted = []

/-- The invariant of a run. -/
def Sound (allowPXE : Bool) (limit : Nat) (world : World ρ) : Prop :=
  match world.phase with
  | .starting => world.accepted = [] ∧ world.replies = [] ∧ world.reads = []
  | .reading attempt =>
    Counted limit attempt world ∧ world.reads.length + 1 = attempt ∧ world.reads.length ≠ 0
  | .updating attempt held =>
    Counted limit attempt world ∧ world.reads.length = attempt ∧
      held ∈ world.slot.history
  | .returned none =>
    world.replies.length ≤ limit ∧
      ∃ replaced, world.accepted = [⟨replaced, replaced.setPXE allowPXE⟩]
  | .returned (some _) => world.replies.length ≤ limit ∧ world.accepted = []

theorem setPXE_onlyPXE (allowPXE : Bool) (object : StoredHardware ρ) :
    OnlyPXE allowPXE object (object.setPXE allowPXE) where
  interfaces := by
    apply List.forall₂_map_right_iff.mpr
    apply List.forall₂_same.mpr
    intro iface _
    unfold InterfacePXE setInterfacePXE
    cases iface.netboot with
    | none | some netboot => rfl
  elsewhere := rfl

variable {held : Versioned (StoredHardware ρ)}

theorem sound_refused {allowPXE : Bool} {limit : Nat} {world : World ρ} (refusal : Refusal)
    (isPhase : world.phase = .updating attempt held) (sound : Sound allowPXE limit world) :
    Sound allowPXE limit (world.refused limit attempt refusal) := by
  simp only [Sound, isPhase] at sound
  obtain ⟨⟨within, isCount, noneAccepted⟩, isReads, _⟩ := sound
  have isNext : (world.replies ++ [refusal.reply]).length = attempt := by
    rw [List.length_append, List.length_singleton, isCount]
  have asked : (world.replies ++ [refusal.reply]).length ≤ limit := by
    rw [isNext]
    exact within
  unfold World.refused
  cases refusal with
  | failed =>
    exact ⟨asked, noneAccepted⟩
  | conflict =>
    by_cases last : limit ≤ attempt
    · simp only [Sound, afterRefusal, last, if_true]
      exact ⟨asked, noneAccepted⟩
    · simp only [Sound, afterRefusal, last, if_false]
      exact ⟨⟨by omega, congrArg (· + 1) isNext, noneAccepted⟩, congrArg (· + 1) isReads, by omega⟩

theorem sound_effect {wf : Workflow} [DecidableEq ρ] {allowPXE : Bool} {limit : Nat}
    (positive : 0 < limit) {world next : World ρ} (sound : Sound allowPXE limit world)
    (effect : Effect wf allowPXE limit world next) : Sound allowPXE limit next := by
  cases effect with
  | others _ grows =>
    cases isPhase : world.phase with
    | starting => simpa only [Sound, isPhase] using sound
    | reading =>
      simp only [Sound, isPhase] at sound ⊢
      exact ⟨⟨sound.1.within, sound.1.replies, sound.1.accepted⟩, sound.2⟩
    | updating _ held =>
      simp only [Sound, isPhase] at sound ⊢
      obtain ⟨counted, isReads, wasStored⟩ := sound
      exact ⟨⟨counted.within, counted.replies, counted.accepted⟩, isReads, grows held wasStored⟩
    | returned error => cases error <;> simpa only [Sound, isPhase] using sound
  | firstRead _ isPhase wasStored =>
    simp only [Sound, isPhase] at sound
    obtain ⟨noneAccepted, noReplies, noReads⟩ := sound
    rw [if_pos (Nat.succ_le_of_lt positive)]
    refine ⟨⟨positive, ?_, noneAccepted⟩, ?_, wasStored⟩
    · simp only [noReplies, List.length_nil]
    · simp only [noReads, List.nil_append, List.length_singleton]
  | firstReadFails _ isPhase =>
    simp only [Sound, isPhase] at sound ⊢
    exact ⟨by simp only [sound.2.1, List.length_nil, Nat.zero_le], sound.1⟩
  | readAgain _ _ isPhase wasStored =>
    simp only [Sound, isPhase] at sound ⊢
    obtain ⟨counted, isReads, _⟩ := sound
    refine ⟨⟨counted.within, counted.replies, counted.accepted⟩, ?_, wasStored⟩
    rw [List.length_append, List.length_singleton]
    exact isReads
  | readAgainFails _ _ isPhase =>
    simp only [Sound, isPhase] at sound ⊢
    obtain ⟨⟨_, _, noneAccepted⟩, _⟩ := sound
    exact ⟨by omega, noneAccepted⟩
  | updated _ held replaced _ isPhase isUpdate =>
    simp only [Sound, isPhase] at sound ⊢
    obtain ⟨⟨within, isCount, noneAccepted⟩, _, wasStored⟩ := sound
    -- The version that was read is the one that is replaced.
    obtain ⟨rfl, _, _⟩ := Slot.update_eq_some wasStored isUpdate
    refine ⟨?_, held.value, ?_⟩
    · rw [List.length_append, List.length_singleton, isCount]
      exact within
    · rw [noneAccepted, List.nil_append]
  | refused _ _ refusal isPhase => exact sound_refused refusal isPhase sound
  | lost _ _ err _ _ isPhase => exact sound_refused (.failed err) isPhase sound

/-- A run keeps, besides `Sound`, whatever each effect on a sound world keeps. -/
theorem run_keeps [DecidableEq ρ] {wf : Workflow} {allowPXE : Bool} {limit : Nat}
    (positive : 0 < limit) {property : World ρ → Prop}
    (kept : ∀ {world next : World ρ}, Sound allowPXE limit world → property world →
      Effect wf allowPXE limit world next → property next)
    {slot : Slot (StoredHardware ρ)} (initially : property { slot }) (events : List (Event ρ)) :
    Sound allowPXE limit (run (step wf allowPXE limit) { slot } events) ∧
      property (run (step wf allowPXE limit) { slot } events) := by
  refine run_invariant (?_ : ∀ (world : World ρ) (event : Event ρ),
    Sound allowPXE limit world ∧ property world → True → _) ⟨⟨rfl, rfl, rfl⟩, initially⟩
    (meets_of_forall fun _ _ => trivial)
  rintro world event ⟨sound, holds⟩ _
  have effect := step_effect wf allowPXE limit world event
  exact ⟨sound_effect positive sound effect, kept sound holds effect⟩

/-- Whatever others do meanwhile: when `setAllowPXE` returns no error, one update of its
own was accepted, and it changed `allowPXE` on the interfaces of the object it replaced
and nothing else; when it returns an error, none was; and it asks for no more updates
than it has attempts. -/
theorem toggle_loses_no_edit [DecidableEq ρ] (wf : Workflow) (allowPXE : Bool) (limit : Nat)
    (positive : 0 < limit) (slot : Slot (StoredHardware ρ)) (events : List (Event ρ)) :
    ((run (step wf allowPXE limit) { slot := slot } events).phase = .returned none →
        ∃ write, (run (step wf allowPXE limit) { slot := slot } events).accepted = [write] ∧
          OnlyPXE allowPXE write.replaced write.stored) ∧
      (∀ err, (run (step wf allowPXE limit) { slot := slot } events).phase =
          .returned (some err) →
        (run (step wf allowPXE limit) { slot := slot } events).accepted = []) ∧
      (run (step wf allowPXE limit) { slot := slot } events).replies.length ≤ limit := by
  have sound := (run_keeps positive (fun _ _ _ => trivial) trivial events :
    Sound allowPXE limit (run (step wf allowPXE limit) { slot } events) ∧ True).1
  generalize run (step wf allowPXE limit) { slot } events = world at sound
  refine ⟨?_, ?_, ?_⟩
  · intro isPhase
    simp only [Sound, isPhase] at sound
    obtain ⟨_, replaced, isAccepted⟩ := sound
    exact ⟨_, isAccepted, setPXE_onlyPXE allowPXE replaced⟩
  · intro err isPhase
    simp only [Sound, isPhase] at sound
    exact sound.2
  · unfold Sound at sound
    split at sound
    · simp only [sound.2.1, List.length_nil, Nat.zero_le]
    · have := sound.1.within
      have := sound.1.replies
      omega
    · have := sound.1.within
      have := sound.1.replies
      omega
    · exact sound.1
    · exact sound.1

def machine (edits : Nat) : StoredHardware Nat where
  hardware :=
    { name := "machine"
      «namespace» := "tinkerbell"
      spec := { interfaces := [{ dhcp := some { mac := "00:00:00:00:00:01" } }] } }
  others := edits

/-- Somebody edits the Hardware between the read and the first update. -/
theorem toggle_loses_no_edit_between_read_and_update :
    (run (step { name := "wf", «namespace» := "tinkerbell" } true 4)
        { slot := Slot.empty.store (machine 0) }
        [.read ⟨machine 0, 1⟩, .write (machine 1), .update, .read ⟨machine 1, 2⟩,
          .update]).phase = .returned none ∧
      ∃ write, (run (step { name := "wf", «namespace» := "tinkerbell" } true 4)
          { slot := Slot.empty.store (machine 0) }
          [.read ⟨machine 0, 1⟩, .write (machine 1), .update, .read ⟨machine 1, 2⟩,
            .update]).accepted = [write] ∧
        OnlyPXE true write.replaced write.stored := by
  have returned : (run (step { name := "wf", «namespace» := "tinkerbell" } true 4)
      { slot := Slot.empty.store (machine 0) }
      [.read ⟨machine 0, 1⟩, .write (machine 1), .update, .read ⟨machine 1, 2⟩,
        .update]).phase = .returned none := by decide
  exact ⟨returned, (toggle_loses_no_edit _ true 4 (by decide) _ _).1 returned⟩

/-- At most one update is stored under an error, and with it the call is over. -/
def LostSound (allowPXE : Bool) (world : World ρ) : Prop :=
  match world.phase with
  | .returned (some _) => world.lost.length ≤ 1 ∧
      ∀ write ∈ world.lost, OnlyPXE allowPXE write.replaced write.stored
  | _ => world.lost = []

section Lost

variable {wf : Workflow} {allowPXE : Bool} {limit : Nat} {world next : World ρ}

theorem lostSound_of_none (none : world.lost = []) : LostSound allowPXE world := by
  unfold LostSound
  split
  · simp [none]
  · exact none

theorem lostSound_effect [DecidableEq ρ] (sound : Sound allowPXE limit world)
    (lost : LostSound allowPXE world) (effect : Effect wf allowPXE limit world next) :
    LostSound allowPXE next := by
  cases effect with
  | others => exact lost
  | firstRead _ isPhase | firstReadFails _ isPhase | readAgain _ _ isPhase
  | readAgainFails _ _ isPhase | updated _ _ _ _ isPhase | refused _ _ _ isPhase =>
    simp only [LostSound, isPhase] at lost
    exact lostSound_of_none lost
  | lost _ held _ _ _ isPhase isUpdate =>
    simp only [Sound, LostSound, isPhase] at sound lost
    obtain ⟨rfl, _, _⟩ := Slot.update_eq_some sound.2.2 isUpdate
    rw [lost, List.nil_append]
    exact ⟨Nat.le_refl 1, List.forall_mem_singleton.mpr (setPXE_onlyPXE allowPXE held.value)⟩

end Lost

/-- Whatever others do and whichever answers are lost: when `setAllowPXE` returns no error, no
update was stored under an error; otherwise at most one was, and it changed `allowPXE` only. -/
theorem lost_update_changes_only_pxe [DecidableEq ρ] (wf : Workflow) (allowPXE : Bool)
    {limit : Nat} (positive : 0 < limit) (slot : Slot (StoredHardware ρ))
    (events : List (Event ρ)) :
    LostSound allowPXE (run (step wf allowPXE limit) { slot } events) :=
  (run_keeps positive lostSound_effect (lostSound_of_none rfl) events).2

section Loop

variable (wf : Workflow) (allowPXE : Bool) (limit : Nat)

/-- The read of the Hardware and the loop of `setAllowPXE` behind it. -/
def readAndSet (first : Except String Hardware) (attempts : Nat → UpdateAttempt) :
    Option Hardware × Option String :=
  match hardwareFrom wf first with
  | .error err => (none, some err)
  | .ok hardware => setAllowPXELoop wf attempts allowPXE limit 1 (some hardware)

/-- The first attempt has the Hardware already: the later ones read it again. -/
def readOf (first : Except String Hardware) (attempts : Nat → UpdateAttempt) :
    Nat → Except String Hardware
  | 0 => first
  | index + 1 => (attempts (index + 2)).read

/-- These are the answers that a run has met so far. -/
structure Agrees (first : Except String Hardware) (attempts : Nat → UpdateAttempt)
    (reads : List (Except String Hardware)) (replies : List UpdateReply) : Prop where
  reads : ∀ index read, reads[index]? = some read → readOf first attempts index = read
  replies : ∀ index reply, replies[index]? = some reply → (attempts (index + 1)).update = reply

def unfinished (first : Except String Hardware) (attempts : Nat → UpdateAttempt)
    (world : World ρ) : Option Hardware × Option String :=
  match world.phase with
  | .starting => readAndSet wf allowPXE limit first attempts
  | .reading attempt =>
    setAllowPXELoop wf attempts allowPXE (limit + 1 - attempt) attempt none
  | .updating attempt held =>
    setAllowPXELoop wf attempts allowPXE (limit + 1 - attempt) attempt
      (some held.value.hardware)
  | .returned error => (world.accepted.head?.map fun write => write.stored.hardware, error)

/-- What the run has not done yet is what the loop still does with the same answers. -/
def Follows (world : World ρ) : Prop :=
  ∀ first attempts, Agrees first attempts world.reads world.replies →
    readAndSet wf allowPXE limit first attempts = unfinished wf allowPXE limit first attempts world

variable {wf allowPXE limit} {first : Except String Hardware} {attempts : Nat → UpdateAttempt}
  {world next : World ρ}

theorem forall_getElem?_concat {α : Type} {list : List α} {last : α} {property : Nat → α → Prop}
    (all : ∀ index value, (list ++ [last])[index]? = some value → property index value) :
    (∀ index value, list[index]? = some value → property index value) ∧
      property list.length last := by
  refine ⟨?_, all _ _ (by simp)⟩
  intro index value isValue
  have inside := (List.getElem?_eq_some_iff.mp isValue).1
  exact all index value (by rw [List.getElem?_append_left inside, isValue])

section Agrees

variable {reads : List (Except String Hardware)} {replies : List UpdateReply}

theorem Agrees.before_read (agrees : Agrees first attempts (reads ++ [read]) replies) :
    Agrees first attempts reads replies ∧ readOf first attempts reads.length = read := by
  obtain ⟨earlier, isRead⟩ := forall_getElem?_concat agrees.reads
  exact ⟨⟨earlier, agrees.replies⟩, isRead⟩

theorem Agrees.before_reply {reply : UpdateReply}
    (agrees : Agrees first attempts reads (replies ++ [reply])) :
    Agrees first attempts reads replies ∧ (attempts (replies.length + 1)).update = reply := by
  obtain ⟨earlier, isReply⟩ := forall_getElem?_concat agrees.replies
  exact ⟨⟨agrees.reads, earlier⟩, isReply⟩

end Agrees

theorem read_again {reads : Nat}
    (isReads : reads + 1 = attempt) (started : reads ≠ 0)
    (isRead : readOf first attempts reads = read) : (attempts attempt).read = read := by
  obtain ⟨_, rfl⟩ := Nat.exists_eq_succ_of_ne_zero started
  subst isReads
  exact isRead

theorem exists_agrees (reads : List (Except String Hardware)) (replies : List UpdateReply) :
    ∃ first attempts, Agrees first attempts reads replies := by
  refine ⟨reads.getD 0 (.error ""), fun attempt =>
    ⟨reads.getD (attempt - 1) (.error ""), replies.getD (attempt - 1) .conflict⟩, ?_, ?_⟩
  · intro index read isRead
    cases index with
    | zero | succ index => simp [readOf, isRead]
  · intro index reply isReply
    simp [isReply]

theorem follows_refused (refusal : Refusal) (isPhase : world.phase = .updating attempt held)
    (sound : Sound allowPXE limit world) (follows : Follows wf allowPXE limit world) :
    Follows wf allowPXE limit (world.refused limit attempt refusal) := by
  simp only [Sound, isPhase] at sound
  obtain ⟨⟨within, isCount, noneAccepted⟩, _, _⟩ := sound
  intro first attempts agrees
  obtain ⟨agrees, isReply⟩ := agrees.before_reply
  rw [isCount] at isReply
  rw [follows first attempts agrees]
  simp only [unfinished, isPhase, Nat.sub_add_comm within, setAllowPXELoop, heldOrRead, isReply,
    World.refused]
  cases refusal with
  | failed => simp [Refusal.reply, afterRefusal, noneAccepted]
  | conflict =>
    by_cases last : limit ≤ attempt
    · simp [Refusal.reply, afterRefusal, last, Nat.sub_eq_zero_of_le last, noneAccepted]
    · have notLast : limit - attempt ≠ 0 := by omega
      simp [Refusal.reply, afterRefusal, last, notLast]

theorem follows_effect [DecidableEq ρ] (positive : 0 < limit) (sound : Sound allowPXE limit world)
    (follows : Follows wf allowPXE limit world) (effect : Effect wf allowPXE limit world next) :
    Follows wf allowPXE limit next := by
  cases effect with
  | others =>
    exact follows
  | firstRead _ isPhase =>
    simp only [Sound, isPhase] at sound
    intro first attempts agrees
    obtain ⟨_, isRead⟩ := agrees.before_read
    rw [sound.2.2] at isRead
    simp only [readOf, List.length_nil] at isRead
    simp only [unfinished, if_pos (Nat.succ_le_of_lt positive), readAndSet, isRead,
      hardwareFrom, Nat.add_sub_cancel]
  | firstReadFails _ isPhase =>
    simp only [Sound, isPhase] at sound
    intro first attempts agrees
    obtain ⟨_, isRead⟩ := agrees.before_read
    rw [sound.2.2] at isRead
    simp only [readOf, List.length_nil] at isRead
    simp only [unfinished, readAndSet, isRead, hardwareFrom_error, sound.1,
      List.head?_nil, Option.map_none]
  | readAgain _ _ isPhase =>
    simp only [Sound, isPhase] at sound
    obtain ⟨⟨within, _, _⟩, isReads, started⟩ := sound
    intro first attempts agrees
    obtain ⟨agrees, isRead⟩ := agrees.before_read
    rw [follows first attempts agrees]
    simp only [unfinished, isPhase, Nat.sub_add_comm within, setAllowPXELoop, heldOrRead,
      read_again isReads started isRead, hardwareFrom]
  | readAgainFails _ _ isPhase =>
    simp only [Sound, isPhase] at sound
    obtain ⟨⟨within, _, noneAccepted⟩, isReads, started⟩ := sound
    intro first attempts agrees
    obtain ⟨agrees, isRead⟩ := agrees.before_read
    rw [follows first attempts agrees]
    simp only [unfinished, isPhase, Nat.sub_add_comm within, setAllowPXELoop, heldOrRead,
      read_again isReads started isRead, hardwareFrom_error, noneAccepted, List.head?_nil,
      Option.map_none]
  | updated _ _ _ _ isPhase =>
    simp only [Sound, isPhase] at sound
    obtain ⟨⟨within, isCount, noneAccepted⟩, _, _⟩ := sound
    intro first attempts agrees
    obtain ⟨agrees, isReply⟩ := agrees.before_reply
    rw [isCount] at isReply
    rw [follows first attempts agrees]
    simp only [unfinished, isPhase, Nat.sub_add_comm within, setAllowPXELoop, heldOrRead, isReply,
      noneAccepted, List.nil_append, List.head?_cons, Option.map_some, StoredHardware.setPXE]
  | refused _ _ refusal isPhase => exact follows_refused refusal isPhase sound follows
  | lost _ _ err _ _ isPhase => exact follows_refused (.failed err) isPhase sound follows

end Loop

/-- A run that returns is the read and the loop of `setAllowPXE`, with the answers that the run
met: it accepted what the loop says was accepted and returned what the loop returns. -/
theorem run_is_loop [DecidableEq ρ] (wf : Workflow) (allowPXE : Bool) {limit : Nat}
    (positive : 0 < limit) (slot : Slot (StoredHardware ρ)) (events : List (Event ρ))
    {error : Option String}
    (returned : (run (step wf allowPXE limit) { slot } events).phase = .returned error) :
    ∃ first attempts,
      Agrees first attempts (run (step wf allowPXE limit) { slot } events).reads
        (run (step wf allowPXE limit) { slot } events).replies ∧
      readAndSet wf allowPXE limit first attempts =
        ((run (step wf allowPXE limit) { slot } events).accepted.head?.map
          fun write => write.stored.hardware, error) := by
  have initially : Follows wf allowPXE limit ({ slot } : World ρ) := fun _ _ _ => rfl
  have follows := (run_keeps positive (follows_effect positive) initially events).2
  obtain ⟨first, attempts, agrees⟩ := exists_agrees
    (run (step wf allowPXE limit) { slot } events).reads
    (run (step wf allowPXE limit) { slot } events).replies
  refine ⟨first, attempts, agrees, ?_⟩
  rw [follows first attempts agrees]
  simp only [unfinished, returned]

/-- Somebody edits the Hardware between the read and the first update. -/
theorem run_is_loop_between_read_and_update :
    ∃ first attempts, first = .ok (machine 0).hardware ∧ (attempts 1).update = .conflict ∧
      (attempts 2).read = .ok (machine 1).hardware ∧
      readAndSet { name := "wf", «namespace» := "tinkerbell" } true 4 first attempts =
        (some (setHardwarePXE true (machine 1).hardware), none) := by
  obtain ⟨first, attempts, ⟨reads, replies⟩, isLoop⟩ :=
    run_is_loop { name := "wf", «namespace» := "tinkerbell" } true (by decide : 0 < 4)
      (Slot.empty.store (machine 0))
      [.read ⟨machine 0, 1⟩, .write (machine 1), .update, .read ⟨machine 1, 2⟩, .update] rfl
  exact ⟨first, attempts, reads 0 _ rfl, replies 0 _ rfl, reads 1 _ rfl, isLoop⟩

end Tinkerbell.Controller.Toggle
