import Tinkerbell.System.World

/-!
Owns: what holds in every run whatever the order of the steps: which fields the
server and the controller write, the state changes the controller can make, and
the quiet phase before a workflow is pending, in which no agent acts on it.

`Lifecycle` collects these facts as one inductive invariant. A run starts from
a workflow that is new or was put in state PENDING.
-/

variable {status : WorkflowStatus} {reply : WriteReply}

namespace Tinkerbell.System

open Api Server Controller TransitionSystem

/-- The two ways a handler changes the workflow it read. -/
inductive Attempts (agentID : String) (holding : Option Holding) (wf : Workflow) :
    Request → Workflow → Option Holding → Prop
  | served {task : Task} {action : Action} (listed : wf.status.agentID = agentID)
      (serves : Serves agentID wf task action) :
      Attempts agentID holding wf .getAction
        { wf with status := { wf.status with
          currentState := some (servedState agentID task action) } }
        (some { response := actionResponse agentID wf task action })
  | reported {request : ActionStatusRequest} {place : Place}
      (located : locate request.actionId request.agentId wf.status.tasks = some place) :
      Attempts agentID holding wf (.report request)
        { wf with status := reportedStatus request place wf.status }
        (afterReport request holding)

variable {agentID : String} {holding left : Option Holding} {wf written : Workflow}
  {request : Request} {world : World} {reconciled : Reconciled}

theorem attempts_of_ok (attempted : attempt agentID holding wf request = .ok (written, left)) :
    Attempts agentID holding wf request written left := by
  cases request with
  | getAction =>
    unfold attempt at attempted
    simp only at attempted
    split at attempted
    · cases attempted
    · next _ served =>
      cases attempted
      obtain ⟨chosen, member, _, _, serves, rfl, rfl⟩ :=
        doGetAction_eq_ok served
      unfold listWorkflows at member
      split at member
      · next listed =>
        obtain rfl : chosen = wf := List.mem_singleton.mp member
        exact .served listed.2 serves
      · cases member
  | report =>
    unfold attempt at attempted
    simp only at attempted
    split at attempted
    · cases attempted
    · next recorded =>
      cases attempted
      obtain ⟨_, _, found, located, rfl⟩ :=
        doReportActionStatus_eq_ok recorded
      unfold readWorkflow at found
      split at found
      · cases found
        exact .reported located
      · cases found

theorem Attempts.written_eq (attempts : Attempts agentID holding wf request written left) :
    written = { wf with status := written.status } ∧
      SameControllerFields written.status wf.status := by
  cases attempts with
  | served | reported => exact ⟨rfl, rfl⟩

/-- Nobody but the controller has acted on the workflow. -/
def Early (state : WorkflowState) : Prop := state = .unset ∨ state = .preparing

theorem originalState_of_early {original wanted : WorkflowState}
    (move : ControllerMove original wanted) (changed : wanted ≠ original) (early : Early wanted) :
    original = .unset := by
  cases move with
  | stay => exact absurd rfl changed
  | prepare | start => rfl
  | prepared | failPreparing | timeOut | failPost | succeed =>
    rcases early with isNew | preparing
    · cases isNew
    · cases preparing

/-- What is known of a reconcile between its read and its patch. -/
structure Outstanding (status : WorkflowStatus) (reconciled : Reconciled) : Prop where
  same : SameControllerFields reconciled.original status
  early : Early reconciled.original.state ∨ Early status.state →
    reconciled.original = status
  move : ControllerMove reconciled.original.state reconciled.updated.state
  processed : reconciled.original.state ≠ .unset →
    reconciled.updated.tasks = reconciled.original.tasks ∧
      reconciled.updated.currentState = reconciled.original.currentState
  unprocessed : reconciled.original.state = .unset → Unprocessed reconciled.updated

structure Lifecycle (wf : Workflow) (world : World) : Prop where
  identity : world.stored.value = { wf with status := world.status }
  notLegacy : world.status.state ≠ .legacyPending
  unprocessed : world.status.state = .unset → Unprocessed world.status
  post : world.status.state = .post → ∃ currentState,
    world.status.currentState = some currentState ∧ currentState.state = .success
  quiet : Early world.status.state → ∀ agentID, (world.agents agentID).holding = none
  reporting : ∀ agentID call request, (world.agents agentID).call = some call →
    call.request = .report request →
      ∃ holding, (world.agents agentID).holding = some holding
  outstanding : ∀ reconciled, world.controller = some reconciled →
    Outstanding world.status reconciled

/-- The workflow is new, or it was put in state PENDING. -/
structure Startable (wf : Workflow) : Prop where
  state : wf.status.state = .unset ∨ wf.status.state = .pending
  currentState : wf.status.currentState = none
  bootOptions : wf.status.state = .unset → wf.status.bootOptions = {}

theorem lifecycle_start (startable : Startable wf) (cluster : Cluster) :
    Lifecycle wf (World.start wf cluster) where
  identity := rfl
  notLegacy := by
    intro legacy
    rcases startable.state with state | state <;> exact absurd (state.symm.trans legacy) (by simp)
  unprocessed := fun isNew => by
    have bootOptions := startable.bootOptions isNew
    refine ⟨?_, ?_, startable.currentState⟩
    · exact congrArg BootOptionsStatus.allowNetboot bootOptions
    · intro name
      exact congrArg (fun options => options.jobs.get name) bootOptions
  post := by
    intro post
    rcases startable.state with state | state <;> exact absurd (state.symm.trans post) (by simp)
  quiet := fun _ _ => rfl
  reporting := by
    intro agentID call request inFlight
    cases inFlight
  outstanding := by
    intro reconciled pending
    cases pending

theorem startable_of_new (isNew : wf.status = {}) : Startable wf where
  state := Or.inl (by rw [isNew])
  currentState := by rw [isNew]
  bootOptions := fun _ => by rw [isNew]

theorem status_start_of_new (isNew : wf.status = {}) (cluster : Cluster) :
    (World.start wf cluster).status = {} := isNew

theorem Lifecycle.not_early_of_attempts (holds : Lifecycle wf world) {call : Call}
    (inFlight : (world.agents agentID).call = some call)
    (attempts : Attempts agentID (world.agents agentID).holding world.stored.value
      call.request written left) :
    ¬Early world.status.state := by
  intro early
  generalize isRequest : call.request = request at attempts
  cases attempts with
  | served _ serves =>
    have active := serves.active
    rcases early with isNew | preparing
    · rw [isNew] at active
      simp at active
    · rw [preparing] at active
      simp at active
  | reported =>
    obtain ⟨_, held⟩ := holds.reporting agentID call _ inFlight isRequest
    rw [holds.quiet early agentID] at held
    cases held

theorem Attempts.state_cases (attempts : Attempts agentID holding wf request written left) :
    written.status.state = wf.status.state ∨ ∃ report,
      request = .report report ∧
        (written.status.state = report.actionState.workflowState ∧
            report.actionState ≠ .success ∨
          written.status.state = .post ∧ report.actionState = .success) := by
  cases attempts with
  | served => exact Or.inl rfl
  | reported =>
    simp only [reportedStatus, reportedState]
    split
    · next last => exact Or.inr ⟨_, rfl, Or.inr ⟨rfl, last.2⟩⟩
    · split
      · next notSuccess => exact Or.inr ⟨_, rfl, Or.inl ⟨rfl, notSuccess⟩⟩
      · exact Or.inl rfl

theorem not_early_workflowState (state : StateType) : ¬Early state.workflowState := by
  cases state <;> simp [Early, StateType.workflowState]

theorem outstanding_reconcile (holds : Lifecycle wf world) (replies : Replies) :
    Outstanding world.status
      (reconcile replies world.cluster world.stored.value) := by
  have original := reconcile_original replies world.cluster world.stored.value
  by_cases isNew : world.status.state = .unset
  · have reconciles := reconcilesNew_reconcile replies world.cluster isNew
    have unprocessed := reconciles.unprocessed (holds.unprocessed isNew)
    refine ⟨?_, ?_, ?_, ?_, fun _ => unprocessed⟩
    · rw [original]
      rfl
    · intro _
      exact original
    · rw [original, isNew]
      exact reconciles.controllerMove isNew
    · intro notNew
      rw [original] at notNew
      exact absurd isNew notNew
  · have reconciles := reconciles_reconcile replies world.cluster isNew holds.notLegacy
    have fields := reconciles.server_fields
    have move := reconciles.controllerMove holds.post
    refine ⟨?_, ?_, ?_, ?_, ?_⟩
    · rw [original]
      rfl
    · intro _
      exact original
    · rw [original]
      exact move
    · intro _
      rw [original]
      exact fields.2
    · intro new
      rw [original] at new
      exact absurd new isNew

theorem Attempts.not_early (attempts : Attempts agentID holding wf request written left)
    (notEarly : ¬Early wf.status.state) : ¬Early written.status.state := by
  rcases attempts.state_cases with same | ⟨report, _, reported | post⟩
  · rw [same]
    exact notEarly
  · rw [reported.1]
    exact not_early_workflowState report.actionState
  · rw [post.1]
    simp [Early]

theorem Attempts.post (attempts : Attempts agentID holding wf request written left)
    (post : written.status.state = .post) : ∃ currentState,
      written.status.currentState = some currentState ∧
        currentState.state = .success := by
  cases attempts with
  | served _ serves =>
    have active := serves.active
    rw [show wf.status.state = .post from post] at active
    simp at active
  | @reported report =>
    refine ⟨_, rfl, ?_⟩
    by_cases success : report.actionState = .success
    · simp [success, StateType.workflowState]
    · simp only [reportedStatus, reportedState, success, and_false, if_false] at post
      rw [if_pos success] at post
      generalize report.actionState = state at post
      cases state <;> simp [StateType.workflowState] at post

section

variable (holds : Lifecycle wf world)
include holds

theorem Lifecycle.accept {call : Call}
    (inFlight : (world.agents agentID).call = some call)
    (attempts : Attempts agentID (world.agents agentID).holding world.stored.value
      call.request written holding) :
    Lifecycle wf (world.accept agentID (world.stored.put written) holding) := by
  have wasNotEarly := holds.not_early_of_attempts inFlight attempts
  have notEarly := attempts.not_early wasNotEarly
  have fields := attempts.written_eq
  have status : (world.accept agentID (world.stored.put written) holding).status =
      written.status := by simp [World.status]
  constructor
  · rw [status, stored_accept, Versioned.put_value]
    conv_lhs => rw [fields.1, holds.identity]
  · rw [status]
    intro legacy
    rcases attempts.state_cases with same | ⟨report, _, reported | post⟩
    · exact holds.notLegacy (same.symm.trans legacy)
    · rw [reported.1] at legacy
      generalize report.actionState = state at legacy
      cases state <;> simp [StateType.workflowState] at legacy
    · rw [post.1] at legacy
      cases legacy
  · rw [status]
    intro isNew
    exact absurd (Or.inl isNew) notEarly
  · rw [status]
    exact attempts.post
  · rw [status]
    intro early
    exact absurd early notEarly
  · intro other otherCall request otherInFlight isReport
    have unchanged := agents_accept_of_inFlight otherInFlight
    rw [unchanged] at otherInFlight ⊢
    exact holds.reporting other otherCall request otherInFlight isReport
  · rw [status]
    intro reconciled pending
    have outstanding := holds.outstanding reconciled pending
    refine { outstanding with same := ?_, early := ?_ }
    · exact outstanding.same.of_common fields.2
    · rintro (original | now)
      · have sameStatus := outstanding.early (Or.inl original)
        rw [sameStatus] at original
        exact absurd original wasNotEarly
      · exact absurd now notEarly

theorem Lifecycle.patched
    (pending : world.controller = some reconciled)
    (tookEffect : reply.TookEffect) :
    Patched reconciled.original reconciled.updated world.status
      (world.applyPatch reconciled reply).status := by
  have outstanding := holds.outstanding reconciled pending
  rw [status_applyPatch]
  exact patched_mergePatchStatus tookEffect outstanding.same

theorem Lifecycle.patch_cases
    (pending : world.controller = some reconciled) (reply : WriteReply) :
    (world.applyPatch reconciled reply).status = world.status ∨
      Patched reconciled.original reconciled.updated world.status
        (world.applyPatch reconciled reply).status := by
  by_cases tookEffect : reply.TookEffect
  · exact Or.inr (holds.patched pending tookEffect)
  · rw [status_applyPatch]
    exact Or.inl (mergePatchStatus_of_refused tookEffect _ _ _)

end

theorem Outstanding.server_fields {patched : WorkflowStatus}
    (outstanding : Outstanding status reconciled) (notNew : reconciled.original.state ≠ .unset)
    (written : Patched reconciled.original reconciled.updated status patched) :
    patched.tasks = status.tasks ∧ patched.currentState = status.currentState := by
  have kept := outstanding.processed notNew
  rw [written.tasks, written.currentState, kept.1, kept.2]
  simp

theorem Lifecycle.patched_started (holds : Lifecycle wf world) (started : ¬Early world.status.state)
    (pending : world.controller = some reconciled) (reply : WriteReply) :
    ¬Early (world.applyPatch reconciled reply).status.state ∧
      ((world.applyPatch reconciled reply).status.state = .post →
        world.status.state = .post) ∧
      (world.applyPatch reconciled reply).status.tasks = world.status.tasks ∧
      (world.applyPatch reconciled reply).status.currentState = world.status.currentState := by
  have outstanding := holds.outstanding reconciled pending
  have notNew : reconciled.original.state ≠ .unset := by
    intro isNew
    have sameStatus := outstanding.early (Or.inl (Or.inl isNew))
    rw [sameStatus] at isNew
    exact started (Or.inl isNew)
  rcases holds.patch_cases pending reply with same | written
  · rw [same]
    exact ⟨started, id, rfl, rfl⟩
  · refine ⟨?_, ?_, outstanding.server_fields notNew written⟩
    · intro early
      rcases written.state_cases with kept | ⟨moved, changed⟩
      · rw [kept] at early
        exact started early
      · rw [moved] at early
        exact notNew (originalState_of_early outstanding.move changed early)
    · intro isPost
      rcases written.state_cases with kept | ⟨moved, changed⟩
      · exact kept.symm.trans isPost
      · exact absurd (moved.symm.trans isPost) (outstanding.move.not_post changed)

theorem Outstanding.unprocessed_patched {patched : WorkflowStatus}
    (outstanding : Outstanding status reconciled) (isNew : reconciled.original.state = .unset)
    (written : Patched reconciled.original reconciled.updated status patched) :
    Unprocessed patched := by
  have wanted := outstanding.unprocessed isNew
  have sameStatus := outstanding.early (Or.inl (Or.inl isNew))
  refine ⟨written.allowNetboot.trans wanted.allowNetboot, ?_, ?_⟩
  · intro name
    exact (written.jobs name).trans (wanted.jobs name)
  · rw [written.currentState, ← sameStatus, wanted.currentState]
    exact MergePatch.mergeObject_original mergeCurrentState_original _ _

theorem Lifecycle.patch (holds : Lifecycle wf world) (pending : world.controller = some reconciled)
    (reply : WriteReply) : Lifecycle wf (world.applyPatch reconciled reply) := by
  have outstanding := holds.outstanding reconciled pending
  have identity : (world.applyPatch reconciled reply).stored.value =
      { wf with status := (world.applyPatch reconciled reply).status } := by
    rw [status_applyPatch, value_applyPatch, patchedWorkflow, holds.identity]
  have cases := holds.patch_cases pending reply
  refine ⟨identity, ?_, ?_, ?_, ?_, holds.reporting, ?_⟩
  · rcases cases with same | written
    · rw [same]
      exact holds.notLegacy
    · rcases written.state_cases with kept | ⟨moved, changed⟩
      · rw [kept]
        exact holds.notLegacy
      · rw [moved]
        exact outstanding.move.not_legacy changed
  · rcases cases with same | written
    · rw [same]
      exact holds.unprocessed
    · intro isNew
      rcases written.state_cases with kept | ⟨moved, changed⟩
      · have wasNew := kept.symm.trans isNew
        have sameStatus := outstanding.early (Or.inr (Or.inl wasNew))
        exact outstanding.unprocessed_patched (sameStatus ▸ wasNew) written
      · exact absurd (moved.symm.trans isNew) (outstanding.move.not_unset changed)
  · rcases cases with same | written
    · rw [same]
      exact holds.post
    · intro isPost
      rcases written.state_cases with kept | ⟨moved, changed⟩
      · have wasPost := kept.symm.trans isPost
        have notNew : reconciled.original.state ≠ .unset := by
          intro isNew
          have sameStatus := outstanding.early (Or.inl (Or.inl isNew))
          rw [sameStatus, wasPost] at isNew
          cases isNew
        rw [(outstanding.server_fields notNew written).2]
        exact holds.post wasPost
      · exact absurd (moved.symm.trans isPost) (outstanding.move.not_post changed)
  · rcases cases with same | written
    · rw [same]
      exact holds.quiet
    · intro early
      rcases written.state_cases with kept | ⟨moved, changed⟩
      · rw [kept] at early
        exact holds.quiet early
      · rw [moved] at early
        have wasNew := originalState_of_early outstanding.move changed early
        have sameStatus := outstanding.early (Or.inl (Or.inl wasNew))
        rw [sameStatus] at wasNew
        exact holds.quiet (Or.inl wasNew)
  · intro other impossible
    cases impossible

theorem inductive_lifecycle (wf : Workflow) :
    Inductive (fun _ _ => True) (Lifecycle wf) where
  prepare world label agentID agent holds _ prepares := by
    refine { holds with quiet := ?_, reporting := ?_ }
    · intro early other
      rw [agents_setAgent]
      split
      · cases prepares with
        | ask => rfl
        | report _ held =>
          rw [holds.quiet early agentID] at held
          cases held
        | setRead => exact holds.quiet early agentID
      · exact holds.quiet early other
    · intro other call request inFlight isReport
      rw [agents_setAgent] at inFlight ⊢
      split at inFlight
      · next same =>
        rw [if_pos same]
        cases prepares with
        | ask =>
          cases inFlight
          cases isReport
        | report => exact ⟨_, rfl⟩
        | setRead _ was =>
          cases inFlight
          exact holds.reporting agentID _ request was isReport
      · next other =>
        rw [if_neg other]
        exact holds.reporting _ call request inFlight isReport
  accept world agentID call written holding holds _ inFlight attempted :=
    holds.accept inFlight (attempts_of_ok attempted)
  beginReconcile world replies holds _ :=
    { holds with
      outstanding := by
        intro reconciled pending
        cases pending
        exact outstanding_reconcile holds replies }
  patch world reply reconciled holds _ pending := holds.patch pending reply
  job world event holds _ := { holds with }

theorem Lifecycle.patch_of_moved (holds : Lifecycle wf world) (coherent : CoherentReads world)
    (early : Early world.status.state) {label : Label}
    (moved : (step world label).status.state ≠ world.status.state) :
    ∃ reply reconciled, label = .patch reply ∧ world.controller = some reconciled := by
  by_cases isPatch : ∃ reply, label = .patch reply
  · obtain ⟨reply, rfl⟩ := isPatch
    cases pending : world.controller with
    | none =>
      change (world.patch reply).status.state ≠ world.status.state at moved
      rw [World.patch, pending] at moved
      exact absurd rfl moved
    | some reconciled => exact ⟨reply, reconciled, rfl, rfl⟩
  · by_cases isWrite : ∃ agentID, label = .write agentID
    · obtain ⟨agentID, rfl⟩ := isWrite
      change (world.write agentID).status.state ≠ world.status.state at moved
      rcases world.write_cases agentID coherent with same | dropped | accepted
      · rw [same] at moved
        exact absurd rfl moved
      · rw [dropped, World.status, stored_setRead] at moved
        exact absurd rfl moved
      · obtain ⟨_, _, _, inFlight, attempted, _⟩ := accepted
        exact absurd early (holds.not_early_of_attempts inFlight (attempts_of_ok attempted))
    · have same : (step world label).stored = world.stored :=
        stored_step (fun agentID isLabel => isWrite ⟨agentID, isLabel⟩)
          (fun reply isLabel => isPatch ⟨reply, isLabel⟩)
      rw [World.status, same] at moved
      exact absurd rfl moved

theorem Lifecycle.patched_reconcileAtomically (holds : Lifecycle wf world) (replies : Replies)
    (tookEffect : reply.TookEffect) :
    Patched world.status (reconcile replies world.cluster world.stored.value).updated
      world.status (reconcileAtomically world replies reply).status := by
  have begun := (inductive_lifecycle wf).beginReconcile world replies holds trivial
  have written := begun.patched rfl tookEffect
  rw [reconcile_original] at written
  exact written

end Tinkerbell.System
