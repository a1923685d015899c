import Mathlib.Data.List.Forall2
import Tinkerbell.Agent.Spec
import Tinkerbell.Library.TransitionSystem

/-!
Owns: the transports that get whole batches of actions, NATS messages or one file, as two
processes around channels: the loop of `Start`, which offers the actions of a batch one by
one, and the agent, which reads an action, reports it as running, executes it and reports
how it ended.

A `select` looks at the channel of the actions when it is entered. The report of a failure
puts another channel in its place; on NATS it then waits until `Start` takes the cancel.
-/

namespace Tinkerbell.Agent.Batches

open TransitionSystem

inductive Kind where
  | nats
  | file
deriving DecidableEq

/-- A transport with the batches that it gets. -/
inductive Transport where
  | nats (batches : List (List Action))
  | file (batch : List Action)

def Transport.kind : Transport → Kind
  | .nats _ => .nats
  | .file _ => .file

def Transport.batches : Transport → List (List Action)
  | .nats batches => batches
  | .file batch => [batch]

def failing (state : State) : Bool := state = .failure || state = .timeout

inductive StartPhase where
  /-- There is no batch at hand. -/
  | idle
  /-- The `select` for the action is not entered yet. -/
  | toSelect (action : Action) (rest : List Action)
  /-- In the `select`, with the channel of the actions that it saw. -/
  | selecting (channel : Nat) (action : Action) (rest : List Action)

def StartPhase.loop : List Action → StartPhase
  | [] => .idle
  | action :: rest => .toSelect action rest

def StartPhase.remaining : StartPhase → List Action
  | .idle => []
  | .toSelect action rest => action :: rest
  | .selecting _ action rest => action :: rest

inductive AgentPhase where
  | toRead
  /-- In `Read`, with the channel that it saw. -/
  | reading (channel : Nat)
  | received
  | executing
  /-- `Write` of the outcome is next. -/
  | reporting (outcome : State)
  /-- In `Write`, at the send of the cancel. -/
  | cancelling (outcome : State)
  | publishing (outcome : State)
deriving DecidableEq

/-- An action that the agent got, whether it was the last of its batch, and whether it
was reported as failed. -/
structure Delivery where
  action : Action
  last : Bool
  failed : Bool := false

/-- `taken` are the batches that `Start` has begun with, `channel` is the channel of the
actions, `held` is the action that the agent got last and `past` the earlier ones. -/
structure World where
  kind : Kind
  pending : List (List Action)
  taken : List (List Action) := []
  start : StartPhase := .idle
  agent : AgentPhase := .toRead
  channel : Nat := 0
  past : List Delivery := []
  held : Option Delivery := none

def World.log (world : World) : List Delivery := world.past ++ world.held.toList

def World.initial (transport : Transport) : World where
  kind := transport.kind
  pending := transport.batches

inductive Label where
  /-- `Start` gets a batch. -/
  | take
  | enterSelect
  | beginRead
  /-- The send of an action meets the read. -/
  | deliver
  | runningWritten
  | runningFails
  | finish (outcome : State)
  | write
  /-- The send of the cancel meets the `select`. -/
  | cancel
  | published
  | publishFails

def markFailed (delivery : Delivery) : Delivery := { delivery with failed := true }

def World.write (world : World) (outcome : State) : World :=
  if failing outcome then
    { world with
      channel := world.channel + 1
      held := world.held.map markFailed
      agent := match world.kind with
        | .nats => .cancelling outcome
        | .file => .toRead }
  else
    { world with
      agent := match world.kind with
        | .nats => .publishing outcome
        | .file => .toRead }

variable {world : World} {outcome : State} {batch rest : List Action} {segment : List Delivery}

theorem World.write_failing_nats (isKind : world.kind = .nats)
    (isFailing : failing outcome = true) :
    world.write outcome =
      { world with
        channel := world.channel + 1
        held := world.held.map markFailed
        agent := .cancelling outcome } := by
  simp [World.write, isFailing, isKind]

theorem World.write_failing_file (isKind : world.kind = .file)
    (isFailing : failing outcome = true) :
    world.write outcome =
      { world with
        channel := world.channel + 1
        held := world.held.map markFailed
        agent := .toRead } := by
  simp [World.write, isFailing, isKind]

theorem World.write_other_nats (isKind : world.kind = .nats)
    (notFailing : failing outcome = false) :
    world.write outcome = { world with agent := .publishing outcome } := by
  simp [World.write, notFailing, isKind]

theorem World.write_other_file (isKind : world.kind = .file)
    (notFailing : failing outcome = false) :
    world.write outcome = { world with agent := .toRead } := by
  simp [World.write, notFailing, isKind]

def step (world : World) : Label → World
  | .take =>
    match world.start, world.pending with
    | .idle, batch :: more =>
      { world with
        pending := more
        taken := world.taken ++ [batch]
        start := .loop batch }
    | _, _ => world
  | .enterSelect =>
    match world.start with
    | .toSelect action rest => { world with start := .selecting world.channel action rest }
    | _ => world
  | .beginRead =>
    match world.agent with
    | .toRead => { world with agent := .reading world.channel }
    | _ => world
  | .deliver =>
    match world.start, world.agent with
    | .selecting channel action rest, .reading own =>
      if channel = own then
        { world with
          start := .loop rest
          agent := .received
          past := world.log
          held := some { action, last := rest.isEmpty } }
      else world
    | _, _ => world
  | .runningWritten =>
    match world.agent with
    | .received => { world with agent := .executing }
    | _ => world
  | .runningFails =>
    match world.kind, world.agent with
    | .nats, .received => { world with agent := .toRead }
    | _, _ => world
  | .finish outcome =>
    match world.agent with
    | .executing => { world with agent := .reporting outcome }
    | _ => world
  | .write =>
    match world.agent with
    | .reporting outcome => world.write outcome
    | _ => world
  | .cancel =>
    match world.start, world.agent with
    | .selecting _ _ _, .cancelling outcome =>
      { world with start := .idle, agent := .publishing outcome }
    | _, _ => world
  | .published =>
    match world.agent with
    | .publishing _ => { world with agent := .toRead }
    | _ => world
  | .publishFails =>
    match world.agent with
    -- The report is made once more, from its beginning.
    | .publishing outcome => { world with agent := .reporting outcome }
    | _ => world

/-- What a label does where it can happen. -/
inductive Step (world : World) : Label → World → Prop where
  | take {batch : List Action} {more : List (List Action)} (isIdle : world.start = .idle)
      (isPending : world.pending = batch :: more) :
      Step world .take
        { world with pending := more, taken := world.taken ++ [batch], start := .loop batch }
  | enterSelect {action : Action} {rest : List Action}
      (isStart : world.start = .toSelect action rest) :
      Step world .enterSelect { world with start := .selecting world.channel action rest }
  | beginRead (isAgent : world.agent = .toRead) :
      Step world .beginRead { world with agent := .reading world.channel }
  | deliver {channel : Nat} {action : Action} {rest : List Action}
      (isStart : world.start = .selecting channel action rest)
      (isAgent : world.agent = .reading channel) :
      Step world .deliver
        { world with
          start := .loop rest
          agent := .received
          past := world.log
          held := some { action, last := rest.isEmpty } }
  | runningWritten (isAgent : world.agent = .received) :
      Step world .runningWritten { world with agent := .executing }
  | runningFails (isKind : world.kind = .nats) (isAgent : world.agent = .received) :
      Step world .runningFails { world with agent := .toRead }
  | finish {outcome : State} (isAgent : world.agent = .executing) :
      Step world (.finish outcome) { world with agent := .reporting outcome }
  | write {outcome : State} (isAgent : world.agent = .reporting outcome) :
      Step world .write (world.write outcome)
  | cancel {channel : Nat} {action : Action} {rest : List Action} {outcome : State}
      (isStart : world.start = .selecting channel action rest)
      (isAgent : world.agent = .cancelling outcome) :
      Step world .cancel { world with start := .idle, agent := .publishing outcome }
  | published {outcome : State} (isAgent : world.agent = .publishing outcome) :
      Step world .published { world with agent := .toRead }
  | publishFails {outcome : State} (isAgent : world.agent = .publishing outcome) :
      Step world .publishFails { world with agent := .reporting outcome }

theorem step_cases (world : World) (label : Label) :
    step world label = world ∨ Step world label (step world label) := by
  cases label with
  | take =>
    simp only [step]
    split
    · next _ _ isIdle isPending => exact .inr (.take isIdle isPending)
    · exact .inl rfl
  | enterSelect =>
    simp only [step]
    split
    · next _ _ isStart => exact .inr (.enterSelect isStart)
    · exact .inl rfl
  | beginRead =>
    simp only [step]
    split
    · next isAgent => exact .inr (.beginRead isAgent)
    · exact .inl rfl
  | deliver =>
    simp only [step]
    split
    · next _ _ _ _ isStart isAgent =>
      split
      · next same => exact .inr (.deliver isStart (same ▸ isAgent))
      · exact .inl rfl
    · exact .inl rfl
  | runningWritten =>
    simp only [step]
    split
    · next isAgent => exact .inr (.runningWritten isAgent)
    · exact .inl rfl
  | runningFails =>
    simp only [step]
    split
    · next isKind isAgent => exact .inr (.runningFails isKind isAgent)
    · exact .inl rfl
  | finish =>
    simp only [step]
    split
    · next isAgent => exact .inr (.finish isAgent)
    · exact .inl rfl
  | write =>
    simp only [step]
    split
    · next _ isAgent => exact .inr (.write isAgent)
    · exact .inl rfl
  | cancel =>
    simp only [step]
    split
    · next _ _ _ _ isStart isAgent => exact .inr (.cancel isStart isAgent)
    · exact .inl rfl
  | published =>
    simp only [step]
    split
    · next _ isAgent => exact .inr (.published isAgent)
    · exact .inl rfl
  | publishFails =>
    simp only [step]
    split
    · next _ isAgent => exact .inr (.publishFails isAgent)
    · exact .inl rfl

def Stops (batch : List Action) (segment : List Delivery) : Prop :=
  segment.map Delivery.action <+: batch ∧
    ∀ delivery ∈ segment.dropLast, delivery.failed = false

def Whole (batch : List Action) (segment : List Delivery) : Prop :=
  Stops batch segment ∧
    (segment.map Delivery.action = batch ∨
      ∃ delivery ∈ segment.getLast?, delivery.failed = true)

/-- Nothing can happen any more. -/
def Quiescent (world : World) : Prop := ∀ label next, ¬Step world label next

/-- Batches stop exactly at their first failure. -/
structure BatchesStop (transport : Transport) (world : World) : Prop where
  batches : world.taken ++ world.pending = transport.batches
  /-- Of every batch that `Start` is done with, everything up to the first failure was
  delivered. -/
  left : world.start = .idle →
    ∃ segments, world.log = segments.flatten ∧ List.Forall₂ Whole world.taken segments
  within : world.start ≠ .idle →
    ∃ before batch segments segment, world.taken = before ++ [batch] ∧
      world.log = segments.flatten ++ segment ∧ List.Forall₂ Whole before segments ∧
      Stops batch segment
  /-- A `Write` that waits is released by the next two steps of `Start`, and there is no
  other step to take. -/
  released : ∀ outcome, world.agent = .cancelling outcome →
    (run step world [.enterSelect, .cancel]).agent = .publishing outcome ∧
      ∀ label next, Step world label next → label = .enterSelect ∨ label = .cancel
  /-- When nothing can happen any more, this is so of all batches. -/
  finished : Quiescent world →
    ∃ segments, world.log = segments.flatten ∧
      List.Forall₂ Whole transport.batches segments

theorem stops_of_append (split : segment.map Delivery.action ++ rest = batch)
    (sound : ∀ delivery ∈ segment.dropLast, delivery.failed = false) :
    Stops batch segment :=
  ⟨⟨rest, split⟩, sound⟩

theorem whole_of_all (all : segment.map Delivery.action = batch)
    (sound : ∀ delivery ∈ segment, delivery.failed = false) :
    Whole batch segment := by
  refine ⟨stops_of_append (by rw [List.append_nil, all]) ?_, .inl all⟩
  intro delivery member
  exact sound delivery (List.dropLast_subset segment member)

variable {action : Action} {init : List Delivery} {delivery : Delivery}

theorem sound_concat {last : Bool} (sound : ∀ delivery ∈ segment, delivery.failed = false) :
    ∀ delivery ∈ segment ++ [{ action := action, last := last }], delivery.failed = false := by
  intro delivery member
  rcases List.mem_append.mp member with earlier | new
  · exact sound delivery earlier
  · rw [List.mem_singleton.mp new]

theorem sound_dropLast (sound : ∀ earlier ∈ init, earlier.failed = false) :
    ∀ earlier ∈ (init ++ [delivery]).dropLast, earlier.failed = false := by
  rw [List.dropLast_concat]
  exact sound

theorem whole_of_failed (split : (init ++ [delivery]).map Delivery.action ++ rest = batch)
    (sound : ∀ earlier ∈ init, earlier.failed = false) (failed : delivery.failed = true) :
    Whole batch (init ++ [delivery]) := by
  refine ⟨stops_of_append split (sound_dropLast sound), .inr ⟨delivery, ?_, failed⟩⟩
  rw [List.getLast?_concat]
  rfl

theorem Whole.markFailed (whole : Whole batch (init ++ [delivery])) :
    Whole batch (init ++ [Batches.markFailed delivery]) := by
  obtain ⟨⟨⟨rest, split⟩, sound⟩, -⟩ := whole
  rw [List.dropLast_concat] at sound
  rw [List.map_append] at split
  exact whole_of_failed (by rw [List.map_append]; exact split) sound rfl

theorem whole_concat {before : List (List Action)} {segments : List (List Delivery)}
    (settled : List.Forall₂ Whole before segments) (whole : Whole batch segment) :
    List.Forall₂ Whole (before ++ [batch]) (segments ++ [segment]) :=
  List.rel_append settled (.cons whole .nil)

theorem loop_ne_selecting {actions : List Action} {channel : Nat} :
    StartPhase.loop actions ≠ .selecting channel action rest := by
  cases actions <;> nofun

def AgentPhase.busy : AgentPhase → Bool
  | .received | .executing | .reporting _ => true
  | .publishing outcome => !failing outcome
  | _ => false

theorem cancelling_released (isAgent : world.agent = .cancelling outcome)
    (notIdle : world.start ≠ .idle) :
    (run step world [.enterSelect, .cancel]).agent = .publishing outcome ∧
      ∀ label next, Step world label next → label = .enterSelect ∨ label = .cancel := by
  constructor
  · cases isStart : world.start with
    | idle => exact absurd isStart notIdle
    | toSelect action rest | selecting channel action rest => simp [step, isStart, isAgent]
  · intro label next happens
    cases happens with
    | take isIdle => exact absurd isIdle notIdle
    | enterSelect => exact .inl rfl
    | cancel => exact .inr rfl
    | _ => simp_all

section

variable (quiescent : Quiescent world)
include quiescent

/-- Where nothing can happen any more, the agent reads and `Start` has no action to
begin with, or the agent waits for a cancel with no batch at hand. -/
theorem Quiescent.reading
    (within : ∀ outcome, world.agent = .cancelling outcome → world.start ≠ .idle) :
    ∃ channel, world.agent = .reading channel := by
  cases isAgent : world.agent with
  | toRead => exact absurd (.beginRead isAgent) (quiescent _ _)
  | reading channel => exact ⟨channel, rfl⟩
  | received => exact absurd (.runningWritten isAgent) (quiescent _ _)
  | executing => exact absurd (@Step.finish world .success isAgent) (quiescent _ _)
  | reporting => exact absurd (.write isAgent) (quiescent _ _)
  | publishing => exact absurd (.published isAgent) (quiescent _ _)
  | cancelling outcome =>
    cases isStart : world.start with
    | idle => exact absurd isStart (within outcome isAgent)
    | toSelect => exact absurd (.enterSelect isStart) (quiescent _ _)
    | selecting =>
      exact absurd (.cancel isStart isAgent) (quiescent _ _)

theorem Quiescent.pending_nil (isIdle : world.start = .idle) :
    world.pending = [] := by
  cases isPending : world.pending with
  | nil => rfl
  | cons => exact absurd (.take isIdle isPending) (quiescent _ _)

theorem Quiescent.start {own : Nat}
    (isAgent : world.agent = .reading own) :
    world.start = .idle ∨
      ∃ channel action rest, world.start = .selecting channel action rest ∧
        channel ≠ own := by
  cases isStart : world.start with
  | idle => exact .inl rfl
  | toSelect => exact absurd (.enterSelect isStart) (quiescent _ _)
  | selecting channel action rest =>
    refine .inr ⟨channel, action, rest, rfl, ?_⟩
    intro same
    exact quiescent _ _ (.deliver isStart (same ▸ isAgent))

end

/-- A failure is reported on NATS only of an action that is not the last of its batch and
only once, and from a file only once `Start` waits with the next action or has none
left. -/
def allowed (world : World) : Label → Bool
  | .write =>
    match world.agent with
    | .reporting outcome =>
      !failing outcome ||
        match world.kind with
        | .nats => world.held.all (fun delivery => !delivery.last)
        | .file =>
          match world.start with
          | .toSelect _ _ => false
          | _ => true
    | _ => true
  | .publishFails =>
    match world.agent with
    | .publishing outcome => !failing outcome
    | _ => true
  | _ => true

def Condition (world : World) (label : Label) : Prop := allowed world label = true

instance decidableCondition (world : World) (label : Label) :
    Decidable (Condition world label) :=
  inferInstanceAs (Decidable (allowed world label = true))

theorem Condition.notLast (condition : Condition world .write) (isKind : world.kind = .nats)
    (isAgent : world.agent = .reporting outcome) (isFailing : failing outcome = true) :
    ∀ delivery ∈ world.held, delivery.last = false := by
  intro delivery isHeld
  have isHeld : world.held = some delivery := isHeld
  simpa [Condition, allowed, isAgent, isFailing, isKind, isHeld] using condition

theorem Condition.waits (condition : Condition world .write) (isKind : world.kind = .file)
    (isAgent : world.agent = .reporting outcome) (isFailing : failing outcome = true) :
    ∀ action rest, world.start ≠ .toSelect action rest := by
  intro action rest isStart
  simp [Condition, allowed, isAgent, isFailing, isKind, isStart] at condition

theorem Condition.notFailing (condition : Condition world .publishFails)
    (isAgent : world.agent = .publishing outcome) : failing outcome = false := by
  simpa [Condition, allowed, isAgent] using condition

end Tinkerbell.Agent.Batches
