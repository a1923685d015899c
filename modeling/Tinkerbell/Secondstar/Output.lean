import Tinkerbell.Library.TransitionSystem

/-!
Owns: the output of the console of one machine: the chunks that the command
writes, the copier that takes them from the pipe and writes them to the initial
session and then to the additional ones, and the additional sessions that join
and leave meanwhile.

A chunk is what one read of the pipe returns. Writing it to the initial session
is one step and writing it to the additional ones another, during which none of
them joins or leaves. The wait for the command closes the pipe, with whatever is
still in it.

A write to an additional session that fails or is short ends the copying for
everybody.
-/

namespace Tinkerbell.Secondstar.Output

abbrev Chunk := List UInt8

inductive WriteError where
  | shortWrite
  | failed (reason : String)
deriving DecidableEq

/-- What the write of a chunk returns. -/
structure Answer where
  count : Nat
  error : Option WriteError := none

def Answer.succeeds (answer : Answer) (chunk : Chunk) : Bool :=
  answer.error = none && chunk.length ≤ answer.count

variable {Writer : Type}

def add (writers : List Writer) (writer : Writer) : List Writer := writers ++ [writer]

def remove [DecidableEq Writer] (writers : List Writer) (writer : Writer) : List Writer :=
  writers.filter (· ≠ writer)

def write (answers : Writer → Answer) (chunk : Chunk) : List Writer → List Writer × Answer
  | [] => ([], { count := chunk.length })
  | writer :: rest =>
    let answer := answers writer
    if answer.error ≠ none then ([], answer)
    else if answer.count < chunk.length then
      ([], { count := answer.count, error := some .shortWrite })
    else
      let (written, result) := write answers chunk rest
      (writer :: written, result)

theorem write_error_iff (answers : Writer → Answer) (chunk : Chunk) (writers : List Writer) :
    (write answers chunk writers).2.error = none ↔
      ∀ writer ∈ writers, (answers writer).succeeds chunk = true := by
  induction writers with
  | nil => simp [write]
  | cons _ _ ih =>
    rw [List.forall_mem_cons, ← ih, write]
    split
    · next failed => simp [Answer.succeeds, failed]
    · next noError =>
      split
      · next short => simp [Answer.succeeds, Nat.not_le.mpr short]
      · next long =>
        simp [Answer.succeeds, Decidable.not_not.mp noError, Nat.not_lt.mp long]

theorem written_of_succeeds {answers : Writer → Answer} {chunk : Chunk} {writers : List Writer}
    (succeed : ∀ writer ∈ writers, (answers writer).succeeds chunk = true) :
    (write answers chunk writers).1 = writers := by
  induction writers with
  | nil => rfl
  | cons _ _ ih =>
    rw [List.forall_mem_cons] at succeed
    obtain ⟨noError, long⟩ := Bool.and_eq_true_iff.mp succeed.1
    rw [write]
    dsimp only
    rw [if_neg (Decidable.not_not.mpr (of_decide_eq_true noError)),
      if_neg (Nat.not_lt.mpr (of_decide_eq_true long)), ih succeed.2]

inductive Copier where
  | reading
  /-- The chunk is written to the initial session, and not yet to the others. -/
  | writing (chunk : Chunk)
  /-- There was nothing more to read. -/
  | ended
  /-- A write failed. -/
  | stopped (error : WriteError)
deriving DecidableEq

def Copier.pending : Copier → List Chunk
  | .writing chunk => [chunk]
  | _ => []

/-- What became of a chunk among the additional sessions: those that had joined and whose writes
succeed, and those it was written to. -/
structure Delivery (Writer : Type) where
  chunk : Chunk
  (entitled written : List Writer)
deriving DecidableEq

structure State (Writer : Type) where
  pipe : List Chunk := []
  closed : Bool := false
  copier : Copier := .reading
  writers : List Writer := []
  /-- What the command has written so far. -/
  output : List Chunk := []
  /-- What was written to the initial session. -/
  initial : List Chunk := []
  deliveries : List (Delivery Writer) := []

inductive Event (Writer : Type) where
  | output (chunk : Chunk)
  /-- The copier reads, and writes to the initial session, which answers. -/
  | read (answer : Answer)
  /-- The copier writes to the additional sessions, which answer. -/
  | fanOut (answers : Writer → Answer)
  | join (writer : Writer)
  | leave (writer : Writer)
  /-- The command has exited, and the wait for it closes the pipe. -/
  | close

def initialError (answer : Answer) (chunk : Chunk) : Option WriteError :=
  match answer.error with
  | some error => some error
  | none => if answer.count ≠ chunk.length then some .shortWrite else none

def read (state : State Writer) (answer : Answer) : State Writer :=
  match state.copier, state.pipe with
  | .reading, [] => if state.closed then { state with copier := .ended } else state
  | .reading, chunk :: rest =>
    match initialError answer chunk with
    | some error => { state with pipe := rest, copier := .stopped error }
    | none =>
      { state with pipe := rest, copier := .writing chunk, initial := state.initial ++ [chunk] }
  | _, _ => state

def fanOut (state : State Writer) (answers : Writer → Answer) : State Writer :=
  match state.copier with
  | .writing chunk =>
    let (written, result) := write answers chunk state.writers
    let entitled := state.writers.filter fun writer => (answers writer).succeeds chunk
    { state with
      copier := match result.error with
        | none => .reading
        | some error => .stopped error
      deliveries := state.deliveries ++ [{ chunk, entitled, written }] }
  | _ => state

def step [DecidableEq Writer] (state : State Writer) : Event Writer → State Writer
  | .output chunk =>
    if state.closed ∨ chunk = [] then state
    else { state with pipe := state.pipe ++ [chunk], output := state.output ++ [chunk] }
  | .read answer => read state answer
  | .fanOut answers => fanOut state answers
  | .join writer => { state with writers := add state.writers writer }
  | .leave writer => { state with writers := remove state.writers writer }
  | .close => { state with pipe := [], closed := true }

/-- No write has stopped the copier, every chunk that has left the pipe was written to the initial
session, and then to every additional session that had joined and whose writes succeed. -/
structure Shown (state : State Writer) : Prop where
  copying : ∀ error, state.copier ≠ .stopped error
  toInitial : state.output = state.initial ++ state.pipe
  toAdditional : state.initial = state.deliveries.map Delivery.chunk ++ state.copier.pending
  toEntitled : ∀ delivery ∈ state.deliveries, ∀ writer ∈ delivery.entitled,
    writer ∈ delivery.written
  /-- The copier ends only when the pipe is closed and empty. -/
  worksOff : state.copier = .ended → state.closed = true ∧ state.pipe = []

variable {state : State Writer}

/-- The writes to the initial session succeed. -/
def InitialWrites (state : State Writer) : Event Writer → Prop
  | .read answer =>
    state.copier = .reading → ∀ chunk ∈ state.pipe.head?,
      answer = { count := chunk.length }
  | _ => True

/-- No additional session that has joined fails or falls short, and the pipe is closed when it is
empty. -/
def Harmless (state : State Writer) : Event Writer → Prop
  | .fanOut answers => ∀ chunk, state.copier = .writing chunk →
      ∀ writer ∈ state.writers, (answers writer).succeeds chunk = true
  | .close => state.pipe = []
  | _ => True

private theorem shown_start : Shown ({} : State Writer) where
  copying := nofun
  toInitial := rfl
  toAdditional := rfl
  toEntitled := by simp
  worksOff := nofun

private theorem shown_output [DecidableEq Writer] (shown : Shown state) (chunk : Chunk) :
    Shown (step state (.output chunk)) := by
  rw [step]
  split
  · exact shown
  · next isOpen =>
    rw [not_or] at isOpen
    refine ⟨shown.copying, ?_, shown.toAdditional, shown.toEntitled, ?_⟩
    · rw [shown.toInitial, List.append_assoc]
    · intro isEnded
      exact absurd (shown.worksOff isEnded).1 isOpen.1

private theorem shown_read {state : State Writer} (shown : Shown state) {answer : Answer}
    (succeeds : state.copier = .reading → ∀ chunk ∈ state.pipe.head?,
      answer = { count := chunk.length }) : Shown (read state answer) := by
  unfold read
  split
  · next isReading isEmpty =>
    split
    · next isClosed =>
      refine ⟨nofun, shown.toInitial, ?_, shown.toEntitled, fun _ => ⟨isClosed, isEmpty⟩⟩
      rw [shown.toAdditional, isReading]
      rfl
    · exact shown
  · next chunk _ isReading isPipe =>
    have isAnswer := succeeds isReading chunk (by rw [isPipe]; rfl)
    have noError : initialError answer chunk = none := by
      rw [isAnswer]
      simp [initialError]
    rw [noError]
    refine ⟨nofun, ?_, ?_, shown.toEntitled, nofun⟩
    · rw [shown.toInitial, isPipe]
      simp
    · rw [shown.toAdditional, isReading]
      simp [Copier.pending]
  · exact shown

private theorem shown_fanOut_iff (shown : Shown state) (answers : Writer → Answer) :
    Shown (fanOut state answers) ↔ ∀ chunk, state.copier = .writing chunk →
      ∀ writer ∈ state.writers, (answers writer).succeeds chunk = true := by
  unfold fanOut
  split
  · next chunk isWriting =>
    have noError := write_error_iff answers chunk state.writers
    dsimp only
    constructor
    · intro after other isOther
      rw [isWriting] at isOther
      cases isOther
      apply noError.mp
      cases isError : (write answers chunk state.writers).2.error with
      | none => rfl
      | some error =>
        have stopped := after.copying error
        rw [isError] at stopped
        exact absurd rfl stopped
    · intro succeed
      have all := succeed chunk isWriting
      rw [noError.mpr all, written_of_succeeds all]
      refine ⟨nofun, shown.toInitial, ?_, ?_, nofun⟩
      · rw [shown.toAdditional, isWriting]
        simp [Copier.pending]
      · intro delivery isDelivery writer isEntitled
        rcases List.mem_append.mp isDelivery with earlier | isNew
        · exact shown.toEntitled delivery earlier writer isEntitled
        · rw [List.mem_singleton.mp isNew] at isEntitled ⊢
          exact List.mem_of_mem_filter isEntitled
  · next notWriting =>
    refine ⟨fun _ chunk isWriting => ?_, fun _ => shown⟩
    exact absurd isWriting (notWriting chunk)

private theorem shown_close_iff [DecidableEq Writer] (shown : Shown state) :
    Shown (step state .close) ↔ state.pipe = [] := by
  rw [step]
  constructor
  · intro after
    have lost := after.toInitial
    rw [shown.toInitial] at lost
    exact List.append_cancel_left lost
  · intro isEmpty
    refine ⟨shown.copying, ?_, shown.toAdditional, shown.toEntitled, fun _ => ⟨rfl, rfl⟩⟩
    rw [shown.toInitial, isEmpty]

private theorem shown_step_iff [DecidableEq Writer] (state : State Writer) (event : Event Writer)
    (shown : Shown state) (initialWrites : InitialWrites state event) :
    Shown (step state event) ↔ Harmless state event := by
  cases event with
  | output chunk => exact iff_of_true (shown_output shown chunk) trivial
  | read => exact iff_of_true (shown_read shown initialWrites) trivial
  | fanOut answers => exact shown_fanOut_iff shown answers
  | join writer | leave writer =>
    exact iff_of_true ⟨shown.copying, shown.toInitial, shown.toAdditional, shown.toEntitled,
      shown.worksOff⟩ trivial
  | close => exact shown_close_iff shown

/-- However sessions join and leave and whatever the command writes: everything is shown in every
state of a run exactly when no additional session's write fails or is short, and when the pipe is
closed empty. -/
theorem everything_is_shown_iff [DecidableEq Writer] (events : List (Event Writer))
    (initialWrites : TransitionSystem.Meets step InitialWrites {} events) :
    (∀ before, before <+: events → Shown (TransitionSystem.run step {} before)) ↔
      TransitionSystem.Meets step Harmless {} events :=
  TransitionSystem.always_iff_meets shown_step_iff shown_start initialWrites

def quietRun : List (Event Nat) :=
  [.join 1, .output [104], .read { count := 1 }, .fanOut fun _ => { count := 1 }, .close]

theorem everything_is_shown_iff_quiet :
    TransitionSystem.Meets step InitialWrites {} quietRun ∧
      ∀ before, before <+: quietRun → Shown (TransitionSystem.run step {} before) := by
  have initialWrites : TransitionSystem.Meets step InitialWrites {} quietRun := by
    refine ⟨trivial, trivial, ?_, trivial, trivial, trivial⟩
    intro _ chunk isChunk
    cases isChunk
    rfl
  refine ⟨initialWrites, (everything_is_shown_iff quietRun initialWrites).mpr ?_⟩
  refine ⟨trivial, trivial, trivial, ?_, rfl, trivial⟩
  intro chunk isWriting writer _
  cases isWriting
  rfl

/-- The first of two viewers fails: the second gets nothing, and the next chunk reaches nobody,
not even the initial session. -/
theorem failing_viewer_silences_console :
    let failing : Nat → Answer := fun viewer =>
      if viewer = 1 then { count := 0, error := some (.failed "EOF") } else { count := 1 }
    let state := TransitionSystem.run step {} [.join 1, .join 2, .output [104],
      .read { count := 1 }, .fanOut failing, .output [105], .read { count := 1 }]
    state.copier = .stopped (.failed "EOF") ∧ state.initial = [[104]] ∧ state.pipe = [[105]] ∧
      state.deliveries = [{ chunk := [104], entitled := [2], written := [] }] ∧
      ¬Shown state := by
  refine ⟨by decide, by decide, by decide, by decide, ?_⟩
  intro shown
  exact shown.copying (.failed "EOF") (by decide)

end Tinkerbell.Secondstar.Output
