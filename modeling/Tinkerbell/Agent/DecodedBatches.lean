import Tinkerbell.Agent.BatchInvariant

/-!
Owns: the decoding of a batch, and what the transports deliver with it.

`yaml.Unmarshal` looks at the tags of the struct when it comes to the first mapping, and
panics if one of them has a flag that it does not know. Both transports decode inside
`Start`, so the program ends there. With tags that the decoder knows, the interleaving of
`Start` and the agent decides what is delivered.
-/

namespace Tinkerbell.Agent.Batches

open TransitionSystem

/-- The tag of a field, split at its commas. -/
structure Tag where
  name : String
  flags : List String := []

/-- The yaml tags of the fields of `spec.Action`. -/
def actionTags : List Tag :=
  [⟨"agent_id", []⟩, ⟨"task_id", []⟩, ⟨"workflow_id", []⟩, ⟨"id", []⟩, ⟨"name", []⟩,
    ⟨"image", []⟩, ⟨"cmd", ["omitempty", "omitzero"]⟩, ⟨"args", ["omitempty", "omitzero"]⟩,
    ⟨"env", ["omitempty", "omitzero"]⟩, ⟨"volumes", ["omitempty", "omitzero"]⟩,
    ⟨"namespaces", ["omitempty", "omitzero"]⟩, ⟨"retries", ["omitempty", "omitzero"]⟩,
    ⟨"timeoutSeconds", ["omitempty", "omitzero"]⟩, ⟨"executionStart", ["omitzero"]⟩,
    ⟨"executionStop", ["omitzero"]⟩, ⟨"duration", ["omitempty", "omitzero"]⟩]

/-- The error for the first flag that the decoder does not know. -/
def getStructInfo (tags : List Tag) : Except String Unit :=
  match tags.findSome? fun tag =>
      (tag.flags.find? (· ∉ ["omitempty", "flow", "inline"])).map (tag, ·) with
  | none => .ok ()
  | some (tag, flag) => .error ("unsupported flag \"" ++ flag ++ "\" in tag \"" ++
      ",".intercalate (tag.name :: tag.flags) ++ "\" of type spec.Action")

def omitzeroError : String :=
  "unsupported flag \"omitzero\" in tag \"cmd,omitempty,omitzero\" of type spec.Action"

/-- The decoding of a batch, whose actions are mappings. An error is a panic. -/
def unmarshal (tags : List Tag) : List Action → Except String (List Action)
  | [] => .ok []
  | action :: rest => (getStructInfo tags).map fun _ => action :: rest

inductive Process where
  | running (world : World)
  | panicked (err : String)

/-- `Start` decodes a batch when it gets it. -/
def decodingStep (tags : List Tag) (world : World) (label : Label) : Process :=
  match label, world.start, world.pending with
  | .take, .idle, batch :: _ =>
    match unmarshal tags batch with
    | .error err => .panicked err
    | .ok _ => .running (step world .take)
  | _, _, _ => .running (step world label)

def processStep (tags : List Tag) : Process → Label → Process
  | .panicked err, _ => .panicked err
  | .running world, label => decodingStep tags world label

def Process.initial (transport : Transport) : Process := .running (World.initial transport)

/-- The process runs, and what it delivered stops at the first failures. -/
def Process.Delivers (transport : Transport) : Process → Prop
  | .panicked _ => False
  | .running world => BatchesStop transport world

theorem processStep_running {tags : List Tag} {world : World} (label : Label)
    (decodes : ∀ batch ∈ world.pending, ∃ actions, unmarshal tags batch = .ok actions) :
    processStep tags (.running world) label = .running (step world label) := by
  change decodingStep tags world label = _
  unfold decodingStep
  split
  · next batch _ _ isPending =>
    obtain ⟨_, decoded⟩ := decodes batch (by simp [isPending])
    rw [decoded]
  · rfl

theorem pending_step (world : World) (label : Label) :
    (step world label).pending <:+ world.pending := by
  rcases step_cases world label with same | happens
  · simp only [same, List.suffix_refl]
  · generalize step world label = next at happens
    cases happens with
    | take _ isPending =>
      rw [isPending]
      exact List.suffix_cons _ _
    | write =>
      unfold World.write
      split <;> exact List.suffix_refl _
    | _ => exact List.suffix_refl _

theorem run_processStep {tags : List Tag} {world : World} (labels : List Label)
    (decodes : ∀ batch ∈ world.pending, ∃ actions, unmarshal tags batch = .ok actions) :
    run (processStep tags) (.running world) labels = .running (run step world labels) := by
  induction labels generalizing world with
  | nil => rfl
  | cons label _ ih =>
    rw [run_cons, run_cons, processStep_running label decodes]
    apply ih
    intro batch member
    exact decodes batch ((pending_step world label).subset member)

/-- With tags that the decoder knows: in every run in which no last action of a NATS batch
is reported as failed, no report of a failure is repeated, and no file's channel is
replaced between two looks of `Start` at it, every batch is delivered up to and including
its first failure, no other batch loses an action, and no report waits for ever. -/
theorem batches_stop_at_first_failure (tags : List Tag) (transport : Transport)
    (labels : List Label) (known : getStructInfo tags = .ok ())
    (meets : Meets step Condition (World.initial transport) labels) :
    (run (processStep tags) (.initial transport) labels).Delivers transport := by
  rw [Process.initial, run_processStep labels]
  · exact batchesStop_of_meets transport labels meets
  · intro batch _
    cases batch with
    | nil => exact ⟨[], rfl⟩
    | cons action rest => exact ⟨action :: rest, by rw [unmarshal, known]; rfl⟩

def handled (outcome : State) : List Label :=
  [.enterSelect, .beginRead, .deliver, .runningWritten, .finish outcome, .write]

/-- The first batch fails at its first action, and the second one is delivered. -/
theorem batches_stop_at_first_failure_nats :
    (run (processStep [⟨"id", []⟩, ⟨"cmd", ["omitempty"]⟩])
      (.initial (.nats [[{ id := "a" }, { id := "b" }], [{ id := "c" }]]))
      ([.take] ++ handled .failure ++ [.enterSelect, .cancel, .published, .take] ++
        handled .success ++ [.published])).Delivers
      (.nats [[{ id := "a" }, { id := "b" }], [{ id := "c" }]]) :=
  batches_stop_at_first_failure _ _ _ rfl (by decide)

section Empty

/-- `Start` has nothing but empty batches, so the agent never gets beyond its read. -/
structure Empty (world : World) : Prop where
  idle : world.start = .idle
  pending : ∀ batch ∈ world.pending, batch = []
  reads : world.agent = .toRead ∨ ∃ channel, world.agent = .reading channel

variable {world : World}

theorem Empty.step (empty : Empty world) (label : Label) : Empty (step world label) := by
  rcases step_cases world label with same | happens
  · rw [same]
    exact empty
  · have isIdle := empty.idle
    have reads := empty.reads
    generalize Batches.step world label = next at happens
    cases happens with
    | take _ isPending =>
      have all := empty.pending
      rw [isPending, List.forall_mem_cons] at all
      obtain ⟨rfl, later⟩ := all
      exact ⟨rfl, later, reads⟩
    | beginRead => exact ⟨isIdle, empty.pending, .inr ⟨_, rfl⟩⟩
    | _ => simp_all

theorem Empty.condition (empty : Empty world) (label : Label) : Condition world label := by
  rcases empty.reads with isAgent | ⟨channel, isAgent⟩ <;>
    cases label <;> simp [Condition, allowed, isAgent]

theorem Empty.meets (empty : Empty world) (labels : List Label) :
    Meets Batches.step Condition world labels := by
  induction labels generalizing world with
  | nil => trivial
  | cons label _ ih => exact ⟨empty.condition label, ih (empty.step label)⟩

theorem panics_of_action (world : World) (isIdle : world.start = .idle)
    (someAction : ∃ batch ∈ world.pending, batch ≠ []) :
    ∃ labels err, run (processStep actionTags) (.running world) labels = .panicked err := by
  generalize isPending : world.pending = pending at someAction
  induction pending generalizing world with
  | nil => simp at someAction
  | cons batch more ih =>
    cases batch with
    | cons =>
      refine ⟨[.take], omitzeroError, ?_⟩
      simp only [run_cons, run_nil, processStep, decodingStep, isIdle, isPending]
      rfl
    | nil =>
      have taken : processStep actionTags (.running world) .take =
          .running (Batches.step world .take) := by
        simp only [processStep, decodingStep, isIdle, isPending, unmarshal]
      have next : (Batches.step world .take).start = .idle ∧
          (Batches.step world .take).pending = more := by
        simp [Batches.step, isIdle, isPending, StartPhase.loop]
      obtain ⟨labels, err, panics⟩ := ih _ next.1 next.2 (by simpa using someAction)
      exact ⟨.take :: labels, err, by rw [run_cons, taken, panics]⟩

end Empty

/-- In every run the batches are delivered up to their first failures exactly if there is
no action in any of them: the first action that is decoded ends the program. -/
theorem batches_delivered_iff_empty (transport : Transport) :
    (∀ labels, (run (processStep actionTags) (.initial transport) labels).Delivers
        transport) ↔
      ∀ batch ∈ transport.batches, batch = [] := by
  constructor
  · intro delivers
    by_contra notEmpty
    push Not at notEmpty
    obtain ⟨labels, _, panics⟩ := panics_of_action (World.initial transport) rfl notEmpty
    have delivered := delivers labels
    rw [Process.initial, panics] at delivered
    exact delivered
  · intro all labels
    have empty : Empty (World.initial transport) := ⟨rfl, all, .inl rfl⟩
    rw [Process.initial, run_processStep labels]
    · exact batchesStop_of_meets transport labels (empty.meets labels)
    · intro batch member
      rw [all batch member]
      exact ⟨[], rfl⟩

/-- A NATS message and a file with one action each end the program. -/
theorem first_action_panics :
    run (processStep actionTags) (.initial (.nats [[{ id := "a" }]])) [.take] =
        .panicked omitzeroError ∧
      run (processStep actionTags) (.initial (.file [{ id := "a" }])) [.take] =
        .panicked omitzeroError := by
  constructor <;> rfl

end Tinkerbell.Agent.Batches
