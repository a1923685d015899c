import Tinkerbell.System.Lifecycle

/-!
Owns: how the permission to netboot brackets a workflow that asks for it: the
Hardware is opened before the workflow becomes pending and closed before it
succeeds, whatever reads, updates and patches fail on the way.
-/

namespace Tinkerbell.System

open Api Server Controller TransitionSystem

def UpdateAccepted (allowPXE : Bool) (log : List Event) : Prop :=
  ∃ hardware, .hardwareUpdated hardware ∈ log ∧ AllowsPXE allowPXE hardware

def bracketedState (allowPXE : Bool) : WorkflowState :=
  if allowPXE then .pending else .success

/-- What a reconcile does with the permissions: a recorded one stays recorded, a
new one was accepted, and the state it brackets is entered only with it. -/
structure Permits (wf : Workflow) (log : List Event) (reconciled : Reconciled) :
    Prop where
  kept : ∀ allowPXE, isToggled allowPXE reconciled.original.bootOptions.allowNetboot = true →
    isToggled allowPXE reconciled.updated.bootOptions.allowNetboot = true
  accepted : ∀ allowPXE,
    isToggled allowPXE reconciled.updated.bootOptions.allowNetboot = true →
      UpdateAccepted allowPXE log
  entered : wf.spec.bootOptions.toggleAllowNetboot = true → ∀ allowPXE,
    reconciled.updated.state = bracketedState allowPXE →
    reconciled.original.state ≠ bracketedState allowPXE →
      isToggled allowPXE reconciled.updated.bootOptions.allowNetboot = true

structure Brackets (wf : Workflow) (world : World) : Prop where
  lifecycle : Lifecycle wf world
  accepted : ∀ allowPXE, isToggled allowPXE world.status.bootOptions.allowNetboot = true →
    UpdateAccepted allowPXE world.log
  recorded : wf.spec.bootOptions.toggleAllowNetboot = true → ∀ allowPXE,
    world.status.state = bracketedState allowPXE →
      isToggled allowPXE world.status.bootOptions.allowNetboot = true
  reports : ∀ agentID call request, (world.agents agentID).call = some call →
    call.request = .report request → request.actionState ≠ .pending
  permits : ∀ reconciled, world.controller = some reconciled →
    Permits wf world.log reconciled

theorem brackets_start {wf : Workflow} (isNew : wf.status = {}) (cluster : Cluster) :
    Brackets wf (World.start wf cluster) := by
  have status := status_start_of_new isNew cluster
  refine ⟨lifecycle_start (startable_of_new isNew) cluster, ?_, ?_, ?_, ?_⟩
  · intro allowPXE toggled
    rw [status] at toggled
    cases allowPXE <;> cases toggled
  · intro _ allowPXE state
    rw [status] at state
    cases allowPXE <;> cases state
  · intro agentID call request inFlight
    cases inFlight
  · intro reconciled pending
    cases pending

section Steps

variable {wf : Workflow} {world : World}

theorem UpdateAccepted.append {allowPXE : Bool} {log : List Event}
    (accepted : UpdateAccepted allowPXE log) (events : List Event) :
    UpdateAccepted allowPXE (log ++ events) := by
  obtain ⟨hardware, member, allows⟩ := accepted
  exact ⟨hardware, List.mem_append_left events member, allows⟩

theorem bracketedState_ne_failed (allowPXE : Bool) : bracketedState allowPXE ≠ .failed := by
  cases allowPXE <;> simp [bracketedState]

section

variable (holds : Brackets wf world)
include holds

theorem Brackets.permits_ofWorks {outcome : Outcome}
    {handled : Option String} {leaves : State → Prop}
    (works : State.Works handled leaves ⟨world.stored.value, world.cluster, []⟩
      outcome.state)
    (left : leaves outcome.state → wf.spec.bootOptions.toggleAllowNetboot = true →
      ∀ allowPXE, outcome.state.status.state = bracketedState allowPXE →
        isToggled allowPXE outcome.state.status.bootOptions.allowNetboot = true) :
    Permits wf (world.log ++ (Reconciled.ofOutcome world.status outcome).events)
      (.ofOutcome world.status outcome) where
  kept := works.advances.toggled
  accepted := by
    intro allowPXE toggled
    rcases works.advances.logged allowPXE toggled with already | ⟨hardware, member, allows⟩
    · exact (holds.accepted allowPXE already).append _
    · exact ⟨hardware, List.mem_append_right _ member, allows⟩
  entered := by
    intro toggles allowPXE isState wasNot
    rcases works.state with same | failed | hasLeft
    · exact absurd (same.symm.trans isState) wasNot
    · exact absurd (isState.symm.trans failed) (bracketedState_ne_failed allowPXE)
    · exact left hasLeft toggles allowPXE isState

theorem Brackets.permits_of_same {reconciled : Reconciled}
    (original : reconciled.original = world.status)
    (allowNetboot : reconciled.updated.bootOptions.allowNetboot =
      world.status.bootOptions.allowNetboot)
    (state : wf.spec.bootOptions.toggleAllowNetboot = true → ∀ allowPXE,
      reconciled.updated.state = bracketedState allowPXE →
        world.status.state = bracketedState allowPXE) :
    Permits wf (world.log ++ reconciled.events) reconciled where
  kept := by
    intro allowPXE toggled
    rw [original] at toggled
    rw [allowNetboot]
    exact toggled
  accepted := by
    intro allowPXE toggled
    rw [allowNetboot] at toggled
    exact (holds.accepted allowPXE toggled).append _
  entered := by
    intro toggles allowPXE isState wasNot
    rw [original] at wasNot
    exact absurd (state toggles allowPXE isState) wasNot

theorem Brackets.permits_reconcile (replies : Replies) :
    Permits wf (world.log ++ (reconcile replies world.cluster world.stored.value).events)
      (reconcile replies world.cluster world.stored.value) := by
  have lifecycle := holds.lifecycle
  have spec : world.stored.value.spec = wf.spec := by rw [lifecycle.identity]
  have original := reconcile_original replies world.cluster world.stored.value
  by_cases isNew : world.status.state = .unset
  · have reconciles := reconcilesNew_reconcile replies world.cluster isNew
    have untouched := lifecycle.unprocessed isNew
    have updated := reconciles.unprocessed untouched
    have same : (reconcile replies world.cluster
        world.stored.value).updated.bootOptions.allowNetboot =
        world.status.bootOptions.allowNetboot :=
      updated.allowNetboot.trans untouched.allowNetboot.symm
    apply holds.permits_of_same original same
    intro toggles allowPXE isState
    generalize (reconcile replies world.cluster world.stored.value).updated = updated
      at reconciles isState
    cases reconciles with
    | unrendered state => exact state.symm.trans isState
    | preparing => cases allowPXE <;> cases isState
    | pending _ noToggle =>
      -- Without preparation no permission was asked for.
      rw [spec, toggles] at noToggle
      cases noToggle
  · have reconciles := reconciles_reconcile replies world.cluster isNew lifecycle.notLegacy
    generalize reconcile replies world.cluster world.stored.value = reconciled
      at reconciles original ⊢
    cases reconciles with
    | idle => exact holds.permits_of_same rfl rfl fun _ _ isState => isState
    | preparing =>
      have works := works_prepareWorkflow replies ⟨world.stored.value, world.cluster, []⟩
      refine holds.permits_ofWorks works ?_
      rintro ⟨prepared, toggled⟩ toggles allowPXE isState
      rw [prepared.1] at isState
      cases allowPXE with
      | false => cases isState
      | true => exact toggled (spec ▸ toggles)
    | running _ reconciles =>
      have bootOptions := congrArg WorkflowStatus.bootOptions reconciles.fields
      refine holds.permits_of_same rfl
        (congrArg BootOptionsStatus.allowNetboot bootOptions) ?_
      intro _ allowPXE isState
      rcases reconciles.state with same | timedOut
      · exact same.symm.trans isState
      · simp only [timedOut.1] at isState
        cases allowPXE <;> cases isState
    | post isPost =>
      obtain ⟨currentState, isCurrent, succeeded⟩ := lifecycle.post isPost
      have works := works_postActions replies ⟨world.stored.value, world.cluster, []⟩
      refine holds.permits_ofWorks works ?_
      rintro ⟨⟨adopted, isAdopted, entered⟩, toggled⟩ toggles allowPXE isState
      obtain rfl : currentState = adopted :=
        Option.some.inj (isCurrent.symm.trans isAdopted)
      rw [entered, succeeded] at isState
      cases allowPXE with
      | true => cases isState
      | false => exact toggled (spec ▸ toggles)

theorem Brackets.accept {agentID : String} {call : Call}
    {written : Workflow} {left : Option Holding}
    (inFlight : (world.agents agentID).call = some call)
    (attempts : Attempts agentID (world.agents agentID).holding world.stored.value
      call.request written left) :
    Brackets wf (world.accept agentID (world.stored.put written) left) := by
  have status : (world.accept agentID (world.stored.put written) left).status =
      written.status := by simp [World.status]
  have bootOptions := attempts.written_eq.2.bootOptions
  refine ⟨holds.lifecycle.accept inFlight attempts, ?_, ?_, ?_, holds.permits⟩
  · rw [status, bootOptions]
    exact holds.accepted
  · rw [status, bootOptions]
    intro toggles allowPXE isState
    apply holds.recorded toggles allowPXE
    -- A report never enters a bracketed state.
    rcases attempts.state_cases with same | ⟨report, isReport, reported | post⟩
    · exact same.symm.trans isState
    · have notPending := holds.reports agentID call report inFlight isReport
      rw [reported.1] at isState
      cases allowPXE with
      | false =>
        exact absurd (StateType.eq_success_of_workflowState isState) reported.2
      | true =>
        generalize report.actionState = state at isState notPending
        cases state with
        | pending => exact absurd rfl notPending
        | unspecified | running | failed | timeout | success | unrecognized =>
          cases isState
    · rw [post.1] at isState
      cases allowPXE <;> cases isState
  · intro other otherCall request otherInFlight isReport
    rw [agents_accept_of_inFlight otherInFlight] at otherInFlight
    exact holds.reports other otherCall request otherInFlight isReport

theorem Brackets.patch {reconciled : Reconciled}
    (pending : world.controller = some reconciled) (reply : WriteReply) :
    Brackets wf (world.applyPatch reconciled reply) := by
  have permits := holds.permits reconciled pending
  have sameOptions :=
    (holds.lifecycle.outstanding reconciled pending).same.bootOptions
  have noPending : ∀ other, (world.applyPatch reconciled reply).controller = some other →
      Permits wf world.log other := by
    intro other impossible
    cases impossible
  refine ⟨holds.lifecycle.patch pending reply, ?_, ?_, holds.reports, noPending⟩
  · rcases holds.lifecycle.patch_cases pending reply with same | written
    · rw [same]
      exact holds.accepted
    · rw [written.allowNetboot]
      exact permits.accepted
  · intro toggles allowPXE isState
    rcases holds.lifecycle.patch_cases pending reply with same | written
    · rw [same] at isState ⊢
      exact holds.recorded toggles allowPXE isState
    · have kept : world.status.state = bracketedState allowPXE →
          isToggled allowPXE reconciled.updated.bootOptions.allowNetboot = true := by
        intro wasState
        apply permits.kept
        rw [sameOptions]
        exact holds.recorded toggles allowPXE wasState
      rw [written.allowNetboot]
      rcases written.state_cases with sameState | ⟨moved, changed⟩
      · exact kept (sameState.symm.trans isState)
      · rw [moved] at isState
        exact permits.entered toggles allowPXE isState fun same =>
          changed (isState.trans same.symm)

end

end Steps

theorem inductive_brackets (wf : Workflow) :
    Inductive (fun _ _ => True) (Brackets wf) where
  prepare world label agentID agent holds _ prepares := by
    refine { holds with
      lifecycle := (inductive_lifecycle wf).prepare world label agentID agent
        holds.lifecycle trivial prepares
      reports := ?_ }
    intro other call request inFlight isReport
    rw [agents_setAgent] at inFlight
    split at inFlight
    · cases prepares with
      | ask =>
        cases inFlight
        cases isReport
      | report _ _ mayReport =>
        cases inFlight
        cases isReport
        rintro rfl
        unfold Holding.MayReport at mayReport
        split at mayReport <;> simp at mayReport
      | setRead _ was =>
        cases inFlight
        exact holds.reports agentID _ request was isReport
    · exact holds.reports other call request inFlight isReport
  accept world agentID call written holding holds _ inFlight attempted :=
    holds.accept inFlight (attempts_of_ok attempted)
  beginReconcile world replies holds _ := by
    refine ⟨(inductive_lifecycle wf).beginReconcile world replies holds.lifecycle trivial,
      ?_, holds.recorded, holds.reports, ?_⟩
    · intro allowPXE toggled
      exact (holds.accepted allowPXE toggled).append _
    · intro reconciled pending
      cases pending
      exact holds.permits_reconcile replies
  patch world reply reconciled holds _ pending := holds.patch pending reply
  job world event holds _ :=
    { holds with
      lifecycle := (inductive_lifecycle wf).job world event holds.lifecycle trivial }

def Toggled (world : World) (allowPXE : Bool) : Prop :=
  isToggled allowPXE world.status.bootOptions.allowNetboot = true ∧
    UpdateAccepted allowPXE world.log

theorem Lifecycle.state_of_post {wf : Workflow} {world : World}
    (holds : Lifecycle wf world) (isPost : world.status.state = .post)
    (replies : Replies) (reply : WriteReply) :
    (reconcileAtomically world replies reply).status.state ∈
      [WorkflowState.post, .success, .failed] := by
  have begun := (inductive_lifecycle wf).beginReconcile world replies holds trivial
  have move := (outstanding_reconcile holds replies).move
  have state : (reconcileAtomically world replies reply).status.state = .post ∨
      (reconcileAtomically world replies reply).status.state =
        (reconcile replies world.cluster world.stored.value).updated.state := by
    rcases begun.patch_cases rfl reply with same | written
    · exact Or.inl ((congrArg WorkflowStatus.state same).trans isPost)
    · rcases written.state_cases with kept | ⟨moved, _⟩
      · exact Or.inl (kept.trans isPost)
      · exact Or.inr moved
  rcases state with isSame | isWanted
  · simp [isSame]
  · rw [isWanted]
    rw [reconcile_original, isPost] at move
    generalize (reconcile replies world.cluster world.stored.value).updated.state = wanted
      at move
    cases move <;> simp

/-- With `toggleAllowNetboot` a workflow is pending only with the permission to
netboot given, succeeded only with it taken back, and the controller takes it from
POST only to SUCCESS or FAILED. -/
theorem netboot_brackets (wf : Workflow) (cluster : Cluster) (labels : List Label)
    (isNew : wf.status = {})
    (toggles : wf.spec.bootOptions.toggleAllowNetboot = true) :
    let world := run step (World.start wf cluster) labels
    (world.status.state = .pending → Toggled world true) ∧
      (world.status.state = .success → Toggled world false) ∧
      (world.status.state = .post → ∀ replies reply,
        (reconcileAtomically world replies reply).status.state ∈
          [WorkflowState.post, .success, .failed]) := by
  intro world
  have holds : Brackets wf world :=
    (inductive_brackets wf).run_start (brackets_start isNew cluster) labels
  have toggled : ∀ allowPXE, world.status.state = bracketedState allowPXE →
      Toggled world allowPXE := by
    intro allowPXE isState
    have recorded := holds.recorded toggles allowPXE isState
    exact ⟨recorded, holds.accepted allowPXE recorded⟩
  exact ⟨toggled true, toggled false, holds.lifecycle.state_of_post⟩

def togglingWorkflow : Workflow :=
  { sampleWorkflow with spec := { bootOptions := { toggleAllowNetboot := true } } }

def togglingLabels : List Label :=
  reconcileAlone 0 "" ++ reconcileAlone 1 "" ++ runAction "agent-a" ++
    reconcileAlone second ""

theorem netboot_brackets_toggling :
    ((run step (World.start togglingWorkflow emptyCluster)
        (togglingLabels.take 4)).status.state = .pending ∧
      Toggled (run step (World.start togglingWorkflow emptyCluster)
        (togglingLabels.take 4)) true) ∧
    ((run step (World.start togglingWorkflow emptyCluster)
        togglingLabels).status.state = .success ∧
      Toggled (run step (World.start togglingWorkflow emptyCluster)
        togglingLabels) false) :=
  ⟨⟨by decide, (netboot_brackets togglingWorkflow emptyCluster
      (togglingLabels.take 4) rfl rfl).1 (by decide)⟩,
    by decide, (netboot_brackets togglingWorkflow emptyCluster
      togglingLabels rfl rfl).2.1 (by decide)⟩

end Tinkerbell.System
