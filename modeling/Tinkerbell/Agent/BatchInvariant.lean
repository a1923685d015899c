import Tinkerbell.Agent.Batches

/-!
Owns: the invariant of both transports: what was delivered falls into one segment for each
batch; and what they deliver in a whole run.

A failure within a batch halts `Start` there: on NATS until it takes the cancel, and with a
file for ever, on a channel that nobody reads.
-/

namespace Tinkerbell.Agent.Batches

open TransitionSystem

/-- A failure was reported within the batch at hand. -/
def World.Halted (world : World) : Prop :=
  (∃ outcome, world.agent = .cancelling outcome) ∨
    ∃ channel action rest, world.start = .selecting channel action rest ∧
      channel ≠ world.channel

/-- What was delivered, as one segment for each settled batch and one for the batch at
hand. -/
structure Parts (world : World) (before : List (List Action))
    (closed : List (List Delivery)) (opened : List Delivery) : Prop where
  log : world.log = closed.flatten ++ opened
  whole : List.Forall₂ Whole before closed
  done : world.start = .idle → opened = [] ∧ world.taken = before
  current : world.start ≠ .idle →
    world.taken = before ++ [opened.map Delivery.action ++ world.start.remaining]
  sound : ¬world.Halted → ∀ delivery ∈ opened, delivery.failed = false
  halted : world.Halted → world.start ≠ .idle ∧ world.agent.busy = false ∧
    ∃ init delivery, opened = init ++ [delivery] ∧ delivery.failed = true ∧
      ∀ earlier ∈ init, earlier.failed = false
  /-- The agent works on the newest action of the batch at hand, or on the last one of a
  settled batch. -/
  busy : world.agent.busy = true → ∃ delivery, world.held = some delivery ∧
    ((world.start ≠ .idle ∧
        ∃ init, world.past = closed.flatten ++ init ∧ opened = init ++ [delivery]) ∨
      (delivery.last = true ∧ (world.kind = .file → world.start = .idle ∧
        ∃ earlier init, world.past = earlier.flatten ++ init ∧
          closed = earlier ++ [init ++ [delivery]])))

structure Invariant (transport : Transport) (world : World) : Prop where
  kind : world.kind = transport.kind
  batches : world.taken ++ world.pending = transport.batches
  reading : ∀ channel, world.agent = .reading channel → channel = world.channel
  cancels : ∀ outcome, world.agent = .cancelling outcome → failing outcome = true
  halted : world.Halted → world.kind = .nats → ∃ outcome, world.agent = .cancelling outcome
  parts : ∃ before closed opened, Parts world before closed opened

variable {world : World} {before : List (List Action)} {closed earlier : List (List Delivery)}
  {opened init : List Delivery} {transport : Transport} {outcome : State}
  {batch rest : List Action} {action : Action} {phase : AgentPhase} {delivery : Delivery}

theorem halted_agent (notBefore : ∀ outcome, world.agent ≠ .cancelling outcome)
    (notAfter : ∀ outcome, phase ≠ .cancelling outcome) :
    World.Halted { world with agent := phase } ↔ world.Halted := by
  simp [World.Halted, notBefore, notAfter]

theorem Parts.agent (parts : Parts world before closed opened)
    (notBefore : ∀ outcome, world.agent ≠ .cancelling outcome)
    (notAfter : ∀ outcome, phase ≠ .cancelling outcome)
    (stays : phase.busy = true → world.agent.busy = true) :
    Parts { world with agent := phase } before closed opened := by
  have same := halted_agent notBefore notAfter
  exact { parts with
    sound := fun notHalted => parts.sound (mt same.mpr notHalted)
    halted := fun halted => by
      obtain ⟨notIdle, notBusy, split⟩ := parts.halted (same.mp halted)
      refine ⟨notIdle, ?_, split⟩
      apply Bool.eq_false_iff.mpr
      intro isBusy
      rw [stays isBusy] at notBusy
      exact absurd notBusy nofun
    busy := fun isBusy => parts.busy (stays isBusy) }

theorem Invariant.agent (invariant : Invariant transport world)
    (notBefore : ∀ outcome, world.agent ≠ .cancelling outcome)
    (notAfter : ∀ outcome, phase ≠ .cancelling outcome)
    (stays : phase.busy = true → world.agent.busy = true)
    (reads : ∀ channel, phase = .reading channel → channel = world.channel) :
    Invariant transport { world with agent := phase } := by
  obtain ⟨before, closed, opened, parts⟩ := invariant.parts
  exact { invariant with
    reading := reads
    cancels := fun outcome isAgent => absurd isAgent (notAfter outcome)
    halted := fun halted isNats => by
      obtain ⟨outcome, isAgent⟩ :=
        invariant.halted ((halted_agent notBefore notAfter).mp halted) isNats
      exact absurd isAgent (notBefore outcome)
    parts := ⟨before, closed, opened, parts.agent notBefore notAfter stays⟩ }

section

variable (parts : Parts world before closed opened)
include parts

theorem Parts.take {more : List (List Action)}
    (isIdle : world.start = .idle) (unheld : world.kind = .file → world.held = none) :
    ∃ before closed opened,
      Parts { world with
        pending := more, taken := world.taken ++ [batch], start := .loop batch }
        before closed opened := by
  obtain ⟨noneOpen, isTaken⟩ := parts.done isIdle
  have flat : world.log = closed.flatten := by
    rw [parts.log, noneOpen, List.append_nil]
  have notHalted : ¬World.Halted { world with
      pending := more, taken := world.taken ++ [batch], start := .loop batch } := by
    rintro (⟨outcome, isAgent⟩ | ⟨channel, action, rest, isStart, -⟩)
    · exact (parts.halted (.inl ⟨outcome, isAgent⟩)).1 isIdle
    · exact loop_ne_selecting isStart
  -- An action that the agent still works on was the last of its batch.
  have busy : ∀ within settled : Delivery → Prop, world.agent.busy = true →
      ∃ delivery, world.held = some delivery ∧ (within delivery ∨
        (delivery.last = true ∧ (world.kind = .file → settled delivery))) := by
    intro within settled isBusy
    obtain ⟨delivery, isHeld, ⟨notIdle, -⟩ | ⟨isLast, -⟩⟩ := parts.busy isBusy
    · exact absurd isIdle notIdle
    · refine ⟨delivery, isHeld, .inr ⟨isLast, fun isFile => ?_⟩⟩
      rw [unheld isFile] at isHeld
      exact absurd isHeld nofun
  cases batch with
  | nil =>
    refine ⟨before ++ [[]], closed ++ [[]], [], ?_⟩
    exact {
      log := flat.trans (by simp)
      whole := whole_concat parts.whole (whole_of_all rfl (by simp))
      done := fun _ => ⟨rfl, by rw [isTaken]⟩
      current := fun notIdle => absurd rfl notIdle
      sound := fun _ => by simp
      halted := fun halted => absurd halted notHalted
      busy := busy _ _ }
  | cons =>
    refine ⟨before, closed, [], ?_⟩
    exact {
      log := flat.trans (by simp)
      whole := parts.whole
      done := nofun
      current := fun _ => by rw [isTaken]; rfl
      sound := fun _ => by simp
      halted := fun halted => absurd halted notHalted
      busy := busy _ _ }

theorem Parts.enterSelect
    (isStart : world.start = .toSelect action rest) :
    Parts { world with start := .selecting world.channel action rest }
      before closed opened := by
  have notIdle : world.start ≠ .idle := by
    rw [isStart]
    nofun
  have same : World.Halted { world with start := .selecting world.channel action rest } ↔
      world.Halted := by
    simp [World.Halted, isStart]
  exact { parts with
    done := nofun
    current := fun _ => by
      have isTaken := parts.current notIdle
      rw [isStart] at isTaken
      exact isTaken
    sound := fun notHalted => parts.sound (mt same.mpr notHalted)
    halted := fun halted => ⟨nofun, (parts.halted (same.mp halted)).2⟩
    busy := fun isBusy => by
      obtain ⟨delivery, isHeld, ⟨-, within⟩ | ⟨isLast, settled⟩⟩ := parts.busy isBusy
      · exact ⟨delivery, isHeld, .inl ⟨nofun, within⟩⟩
      · exact ⟨delivery, isHeld, .inr ⟨isLast, fun isFile => absurd (settled isFile).1 notIdle⟩⟩ }

theorem Parts.deliver {channel : Nat}
    (isStart : world.start = .selecting channel action rest)
    (isAgent : world.agent = .reading channel) (isChannel : channel = world.channel) :
    ∃ before closed opened,
      Parts { world with
        start := .loop rest
        agent := .received
        past := world.log
        held := some { action, last := rest.isEmpty } }
        before closed opened := by
  have sound := parts.sound (by simp [World.Halted, isStart, isAgent, isChannel])
  have isTaken := parts.current (by rw [isStart]; nofun)
  rw [isStart] at isTaken
  have notHalted : ¬World.Halted { world with
      start := .loop rest
      agent := .received
      past := world.log
      held := some { action, last := rest.isEmpty } } := by
    rintro (⟨outcome, isAgent⟩ | ⟨channel, action, rest, isStart, -⟩)
    · exact absurd isAgent nofun
    · exact loop_ne_selecting isStart
  cases rest with
  | nil =>
    refine ⟨before ++ [opened.map Delivery.action ++ [action]],
      closed ++ [opened ++ [{ action, last := true }]], [], ?_⟩
    exact {
      log := by
        show world.log ++ [_] = _
        rw [parts.log]
        simp
      whole := whole_concat parts.whole (whole_of_all List.map_append (sound_concat sound))
      done := fun _ => ⟨rfl, isTaken⟩
      current := fun notIdle => absurd rfl notIdle
      sound := fun _ => by simp
      halted := fun halted => absurd halted notHalted
      busy := fun _ => ⟨_, rfl, .inr ⟨rfl, fun _ => ⟨rfl, closed, opened, parts.log, rfl⟩⟩⟩ }
  | cons =>
    refine ⟨before, closed, opened ++ [{ action, last := false }], ?_⟩
    exact {
      log := by
        show world.log ++ [_] = _
        rw [parts.log]
        simp
      whole := parts.whole
      done := nofun
      current := fun _ => by simpa [StartPhase.remaining, StartPhase.loop] using isTaken
      sound := fun _ => sound_concat sound
      halted := fun halted => absurd halted notHalted
      busy := fun _ => ⟨_, rfl, .inl ⟨nofun, opened, parts.log, rfl⟩⟩ }

/-- A failure within the batch at hand. -/
theorem Parts.fail
    (isHeld : world.held = some delivery) (notHalted : ¬world.Halted)
    (notIdle : world.start ≠ .idle) (isPast : world.past = closed.flatten ++ init)
    (isOpened : opened = init ++ [delivery]) (notBusy : phase.busy = false)
    (halts : World.Halted { world with
      channel := world.channel + 1, held := world.held.map markFailed, agent := phase }) :
    Parts { world with
      channel := world.channel + 1, held := world.held.map markFailed, agent := phase }
      before closed (init ++ [markFailed delivery]) := by
  have sound := parts.sound notHalted
  have isTaken := parts.current notIdle
  rw [isOpened] at sound isTaken
  exact {
    log := by
      show world.past ++ (world.held.map markFailed).toList = _
      rw [isPast, isHeld, List.append_assoc]
      rfl
    whole := parts.whole
    done := fun isIdle => absurd isIdle notIdle
    current := fun _ => by
      rw [List.map_append] at isTaken ⊢
      exact isTaken
    sound := fun notHalted => absurd halts notHalted
    halted := fun _ => ⟨notIdle, notBusy, init, markFailed delivery, rfl, rfl,
      fun earlier member => sound earlier (List.mem_append_left _ member)⟩
    busy := fun isBusy => by
      rw [show phase.busy = true from isBusy] at notBusy
      exact absurd notBusy nofun }

/-- A failure of the last action of a file, which `Start` is done with. -/
theorem Parts.failSettled
    (isHeld : world.held = some delivery) (isIdle : world.start = .idle)
    (isPast : world.past = earlier.flatten ++ init)
    (isClosed : closed = earlier ++ [init ++ [delivery]]) :
    Parts { world with
      channel := world.channel + 1, held := world.held.map markFailed, agent := .toRead }
      before (earlier ++ [init ++ [markFailed delivery]]) opened := by
  obtain ⟨rfl, isTaken⟩ := parts.done isIdle
  have whole := parts.whole
  rw [isClosed] at whole
  have first := List.forall₂_take_append before earlier _ whole
  have last := List.forall₂_drop_append before earlier _ whole
  have marked : List.Forall₂ Whole (before.drop earlier.length)
      [init ++ [markFailed delivery]] := by
    generalize before.drop earlier.length = tail at last
    cases last with
    | cons whole none =>
      cases none
      exact .cons whole.markFailed .nil
  have both := List.rel_append first marked
  simp only [List.take_append_drop] at both
  exact {
    log := by
      show world.past ++ (world.held.map markFailed).toList = _
      rw [isPast, isHeld]
      simp
    whole := both
    done := fun _ => ⟨rfl, isTaken⟩
    current := fun notIdle => absurd isIdle notIdle
    sound := fun _ => by simp
    halted := by
      rintro (⟨outcome, isAgent⟩ | ⟨channel, action, rest, isStart, -⟩)
      · exact absurd isAgent nofun
      · rw [show world.start = _ from isStart] at isIdle
        exact absurd isIdle nofun
    busy := nofun }

theorem Parts.wholeOpened (halted : world.Halted) :
    Whole (opened.map Delivery.action ++ world.start.remaining) opened := by
  obtain ⟨-, -, init, delivery, isOpened, failed, sound⟩ := parts.halted halted
  rw [isOpened]
  exact whole_of_failed rfl sound failed

theorem Parts.cancel
    (isAgent : world.agent = .cancelling outcome) (isFailing : failing outcome = true) :
    ∃ before closed opened,
      Parts { world with start := .idle, agent := .publishing outcome }
        before closed opened := by
  have halted : world.Halted := .inl ⟨outcome, isAgent⟩
  have isTaken := parts.current (parts.halted halted).1
  refine ⟨before ++ [opened.map Delivery.action ++ world.start.remaining],
    closed ++ [opened], [], ?_⟩
  exact {
    log := parts.log.trans (by simp)
    whole := whole_concat parts.whole (parts.wholeOpened halted)
    done := fun _ => ⟨rfl, isTaken⟩
    current := fun notIdle => absurd rfl notIdle
    sound := fun _ => by simp
    halted := by simp [World.Halted]
    busy := by simp [AgentPhase.busy, isFailing] }

end

section

variable (invariant : Invariant transport world)
include invariant

theorem Invariant.write
    (isAgent : world.agent = .reporting outcome) (condition : Condition world .write) :
    Invariant transport (world.write outcome) := by
  obtain ⟨before, closed, opened, parts⟩ := invariant.parts
  have isBusy : world.agent.busy = true := by
    rw [isAgent]
    rfl
  have notHalted : ¬world.Halted := by
    intro halted
    rw [(parts.halted halted).2.1] at isBusy
    exact absurd isBusy nofun
  obtain ⟨delivery, isHeld, place⟩ := parts.busy isBusy
  cases isFailing : failing outcome with
  | false =>
    have stays : (AgentPhase.publishing outcome).busy = true → world.agent.busy = true :=
      fun _ => isBusy
    cases isKind : world.kind with
    | nats =>
      rw [World.write_other_nats isKind isFailing]
      exact invariant.agent (by rw [isAgent]; nofun) nofun stays nofun
    | file =>
      rw [World.write_other_file isKind isFailing]
      exact invariant.agent (by rw [isAgent]; nofun) nofun nofun nofun
  | true =>
    cases isKind : world.kind with
    | nats =>
      rw [World.write_failing_nats isKind isFailing]
      rcases place with ⟨notIdle, init, isPast, isOpened⟩ | ⟨isLast, -⟩
      · exact { invariant with
          reading := nofun
          cancels := fun other same => AgentPhase.cancelling.inj same ▸ isFailing
          halted := fun _ _ => ⟨outcome, rfl⟩
          parts := ⟨before, closed, _, parts.fail isHeld notHalted notIdle isPast isOpened rfl
            (.inl ⟨outcome, rfl⟩)⟩ }
      · rw [condition.notLast isKind isAgent isFailing delivery isHeld] at isLast
        exact absurd isLast nofun
    | file =>
      rw [World.write_failing_file isKind isFailing]
      have notNats : ∀ {goal : Prop}, world.kind = .nats → goal := by
        rw [isKind]
        nofun
      rcases place with ⟨notIdle, init, isPast, isOpened⟩ | ⟨-, settled⟩
      · have halts : World.Halted { world with
            channel := world.channel + 1
            held := world.held.map markFailed
            agent := .toRead } := by
          cases isStart : world.start with
          | idle => exact absurd isStart notIdle
          | toSelect action rest =>
            exact absurd isStart (condition.waits isKind isAgent isFailing action rest)
          | selecting channel action rest =>
            refine .inr ⟨channel, action, rest, rfl, ?_⟩
            show channel ≠ world.channel + 1
            intro isNext
            exact notHalted (.inr ⟨channel, action, rest, isStart, by omega⟩)
        exact { invariant with
          reading := nofun
          cancels := nofun
          halted := fun _ => notNats
          parts := ⟨before, closed, _, parts.fail isHeld notHalted notIdle isPast isOpened rfl
            halts⟩ }
      · obtain ⟨isIdle, _, _, isPast, isClosed⟩ := settled isKind
        exact { invariant with
          reading := nofun
          cancels := nofun
          halted := fun _ => notNats
          parts := ⟨before, _, opened, parts.failSettled isHeld isIdle isPast isClosed⟩ }

/-- A file is the only batch. -/
theorem Invariant.oneFile
    (isFile : world.kind = .file) : world.taken = [] ∨ world.pending = [] := by
  have isKind := invariant.kind.symm.trans isFile
  have batches := invariant.batches
  cases transport with
  | nats => exact absurd isKind nofun
  | file => exact (List.append_eq_singleton_iff.mp batches).imp And.left And.right

theorem Invariant.unheld {more : List (List Action)}
    (parts : Parts world before closed opened) (isIdle : world.start = .idle)
    (isPending : world.pending = batch :: more) (isFile : world.kind = .file) :
    world.held = none := by
  obtain ⟨noneOpen, isTaken⟩ := parts.done isIdle
  have noneTaken := (invariant.oneFile isFile).resolve_right (by rw [isPending]; nofun)
  have whole := parts.whole
  rw [← isTaken, noneTaken] at whole
  have log := parts.log
  rw [noneOpen, List.forall₂_nil_left_iff.mp whole] at log
  cases isHeld : world.held with
  | none => rfl
  | some => simp [World.log, isHeld] at log

theorem Invariant.step {label : Label}
    (condition : Condition world label) :
    Invariant transport (step world label) := by
  rcases step_cases world label with same | happens
  · rw [same]
    exact invariant
  obtain ⟨before, closed, opened, parts⟩ := invariant.parts
  generalize Batches.step world label = next at happens
  cases happens with
  | @take _ _ isIdle isPending =>
    exact { invariant with
      batches := by
        rw [← invariant.batches, isPending, List.append_assoc]
        rfl
      halted := by
        rintro (cancelling | ⟨channel, action, rest, isStart, -⟩) _
        · exact cancelling
        · exact absurd isStart loop_ne_selecting
      parts := parts.take isIdle (invariant.unheld parts isIdle isPending) }
  | @enterSelect _ _ isStart =>
    exact { invariant with
      halted := by
        rintro (cancelling | ⟨channel, _, _, same, differ⟩) _
        · exact cancelling
        · exact absurd (StartPhase.selecting.inj same).1.symm differ
      parts := ⟨before, closed, opened, parts.enterSelect isStart⟩ }
  | beginRead isAgent =>
    exact invariant.agent (by rw [isAgent]; nofun) nofun nofun
      (fun channel same => (AgentPhase.reading.inj same).symm)
  | @deliver channel action rest isStart isAgent =>
    exact { invariant with
      reading := nofun
      cancels := nofun
      halted := by
        rintro (⟨outcome, isAgent⟩ | ⟨channel, action, rest, isStart, -⟩)
        · exact absurd isAgent nofun
        · exact absurd isStart loop_ne_selecting
      parts := parts.deliver isStart isAgent (invariant.reading channel isAgent) }
  | runningWritten isAgent =>
    exact invariant.agent (by rw [isAgent]; nofun) nofun (fun _ => by rw [isAgent]; rfl) nofun
  | runningFails _ isAgent =>
    exact invariant.agent (by rw [isAgent]; nofun) nofun nofun nofun
  | finish isAgent =>
    exact invariant.agent (by rw [isAgent]; nofun) nofun (fun _ => by rw [isAgent]; rfl) nofun
  | write isAgent => exact invariant.write isAgent condition
  | cancel _ isAgent =>
    exact { invariant with
      reading := nofun
      cancels := nofun
      halted := by simp [World.Halted]
      parts := parts.cancel isAgent (invariant.cancels _ isAgent) }
  | published isAgent =>
    exact invariant.agent (by rw [isAgent]; nofun) nofun nofun nofun
  | @publishFails _ isAgent =>
    have notFailing := condition.notFailing isAgent
    exact invariant.agent (by rw [isAgent]; nofun) nofun
      (fun _ => by rw [isAgent]; simp [AgentPhase.busy, notFailing]) nofun

end

theorem Parts.stops (parts : Parts world before closed opened) :
    Stops (opened.map Delivery.action ++ world.start.remaining) opened := by
  by_cases halted : world.Halted
  · exact (parts.wholeOpened halted).1
  · apply stops_of_append rfl
    intro delivery member
    exact parts.sound halted delivery (List.dropLast_subset opened member)

theorem Parts.left (parts : Parts world before closed opened) (isIdle : world.start = .idle) :
    world.log = closed.flatten ∧ List.Forall₂ Whole world.taken closed := by
  obtain ⟨noneOpen, isTaken⟩ := parts.done isIdle
  constructor
  · rw [parts.log, noneOpen, List.append_nil]
  · rw [isTaken]
    exact parts.whole

theorem Invariant.finished (invariant : Invariant transport world)
    (parts : Parts world before closed opened) (quiescent : Quiescent world) :
    ∃ segments, world.log = segments.flatten ∧
      List.Forall₂ Whole transport.batches segments := by
  obtain ⟨own, isAgent⟩ := quiescent.reading
    fun outcome isAgent => (parts.halted (.inl ⟨outcome, isAgent⟩)).1
  rw [← invariant.batches]
  rcases quiescent.start isAgent with isIdle | ⟨channel, action, rest, isStart, differ⟩
  · rw [quiescent.pending_nil isIdle, List.append_nil]
    exact ⟨closed, parts.left isIdle⟩
  · -- Only the `Start` of a file waits on an old channel while the agent reads.
    rw [invariant.reading own isAgent] at differ
    have halted : world.Halted := .inr ⟨channel, action, rest, isStart, differ⟩
    have isTaken := parts.current (parts.halted halted).1
    have isFile : world.kind = .file := by
      cases isKind : world.kind with
      | file => rfl
      | nats =>
        obtain ⟨_, isCancelling⟩ := invariant.halted halted isKind
        exact absurd (isAgent.symm.trans isCancelling) nofun
    have noneLeft := (invariant.oneFile isFile).resolve_left (by rw [isTaken]; simp)
    rw [noneLeft, List.append_nil, isTaken]
    refine ⟨closed ++ [opened], ?_, whole_concat parts.whole (parts.wholeOpened halted)⟩
    rw [parts.log]
    simp

theorem Invariant.batchesStop (invariant : Invariant transport world) :
    BatchesStop transport world := by
  obtain ⟨before, closed, opened, parts⟩ := invariant.parts
  exact {
    batches := invariant.batches
    left := fun isIdle => ⟨closed, parts.left isIdle⟩
    within := fun notIdle =>
      ⟨before, _, closed, opened, parts.current notIdle, parts.log, parts.whole, parts.stops⟩
    released := fun outcome isAgent =>
      cancelling_released isAgent (parts.halted (.inl ⟨outcome, isAgent⟩)).1
    finished := invariant.finished parts }

theorem invariant_initial (transport : Transport) :
    Invariant transport (World.initial transport) where
  kind := rfl
  batches := rfl
  reading := nofun
  cancels := nofun
  halted := by simp [World.Halted, World.initial]
  parts := by
    refine ⟨[], [], [], ?_⟩
    exact {
      log := rfl
      whole := .nil
      done := fun _ => ⟨rfl, rfl⟩
      current := fun notIdle => absurd rfl notIdle
      sound := fun _ => by simp
      halted := by simp [World.Halted, World.initial]
      busy := nofun }

theorem batchesStop_of_meets (transport : Transport) (labels : List Label)
    (meets : Meets step Condition (World.initial transport) labels) :
    BatchesStop transport (run step (World.initial transport) labels) :=
  Invariant.batchesStop (run_invariant (fun _ _ invariant condition => invariant.step condition)
    (invariant_initial transport) meets)

end Tinkerbell.Agent.Batches
