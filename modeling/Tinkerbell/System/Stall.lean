import Tinkerbell.Controller.Stall
import Tinkerbell.System.Lifecycle

/-!
Owns: when a reconcile of a workflow in PREPARING or POST has nothing to show for,
so that nothing brings the workflow back to the controller.
-/

namespace Tinkerbell.System

open Api Server Controller TransitionSystem

structure Unfinished (wf : Workflow) (world : World) : Prop where
  lifecycle : Lifecycle wf world
  stored : world.status.state = .preparing → ∀ name, preparingJobName wf = some name →
    (world.status.job name).complete = false
  outstanding : ∀ reconciled, world.controller = some reconciled →
    reconciled.updated.state = .preparing → ∀ name, preparingJobName wf = some name →
      (reconciled.updated.job name).complete = false

variable {wf : Workflow} {world : World}

theorem unfinished_start (isNew : wf.status = {}) (cluster : Cluster) :
    Unfinished wf (World.start wf cluster) where
  lifecycle := lifecycle_start (startable_of_new isNew) cluster
  stored := by
    intro preparing
    rw [status_start_of_new isNew] at preparing
    cases preparing
  outstanding := by
    intro reconciled pending
    cases pending

theorem Unfinished.reconcile (holds : Unfinished wf world) (replies : Replies) {name : String}
    (isJob : preparingJobName wf = some name)
    (preparing : (reconcile replies world.cluster world.stored.value).updated.state = .preparing) :
    ((Controller.reconcile replies world.cluster world.stored.value).updated.job
      name).complete = false := by
  have lifecycle := holds.lifecycle
  by_cases isNew : world.status.state = .unset
  · have unprocessed := (reconcilesNew_reconcile replies world.cluster isNew).unprocessed
      (lifecycle.unprocessed isNew)
    rw [WorkflowStatus.job, unprocessed.jobs name]
    rfl
  · have reconciles := reconciles_reconcile replies world.cluster isNew lifecycle.notLegacy
    have move := reconciles.controllerMove lifecycle.post
    rw [preparing] at move
    have wasPreparing : world.status.state = .preparing := by
      generalize world.stored.value.status.state = state at move isNew ⊢
      cases move with
      | stay => rfl
      | prepare => exact absurd rfl isNew
    have notComplete := holds.stored wasPreparing name isJob
    have sameName : preparingJobName world.stored.value = some name := by
      rw [lifecycle.identity]
      exact isJob
    generalize Controller.reconcile replies world.cluster world.stored.value = reconciled
      at reconciles preparing ⊢
    cases reconciles with
    | idle => exact notComplete
    | preparing => exact not_complete_prepareWorkflow sameName notComplete preparing
    | running isRunning =>
      rw [show world.stored.value.status.state = .preparing from wasPreparing] at isRunning
      cases isRunning
    | post isPost =>
      rw [show world.stored.value.status.state = .preparing from wasPreparing] at isPost
      cases isPost

theorem inductive_unfinished (wf : Workflow) :
    Inductive (fun _ _ => True) (Unfinished wf) where
  prepare world label agentID agent holds _ prepares :=
    { holds with
      lifecycle := (inductive_lifecycle wf).prepare world label agentID agent
        holds.lifecycle trivial prepares }
  accept world agentID call written holding holds _ inFlight attempted := by
    have attempts := attempts_of_ok attempted
    have wasStarted := holds.lifecycle.not_early_of_attempts inFlight attempts
    have started := attempts.not_early wasStarted
    refine ⟨holds.lifecycle.accept inFlight attempts, ?_, holds.outstanding⟩
    intro preparing
    rw [World.status, stored_accept, Versioned.put_value] at preparing
    exact absurd (Or.inr preparing) started
  beginReconcile world replies holds _ :=
    { holds with
      lifecycle := (inductive_lifecycle wf).beginReconcile world replies holds.lifecycle
        trivial
      outstanding := by
        intro reconciled pending preparing name isJob
        cases pending
        exact holds.reconcile replies isJob preparing }
  patch world reply reconciled holds _ pending := by
    have outstanding := holds.lifecycle.outstanding reconciled pending
    refine ⟨holds.lifecycle.patch pending reply, ?_, ?_⟩
    · intro preparing name isJob
      rcases holds.lifecycle.patch_cases pending reply with same | written
      · rw [same] at preparing ⊢
        exact holds.stored preparing name isJob
      · have wanted : reconciled.updated.state = .preparing := by
          rcases written.state_cases with kept | ⟨moved, _⟩
          · rw [kept] at preparing
            have sameStatus := outstanding.early (Or.inr (Or.inr preparing))
            have state := written.state
            rw [← sameStatus, MergePatch.mergeField_original] at state
            rw [← state, kept]
            exact preparing
          · rw [← moved]
            exact preparing
        rw [WorkflowStatus.job, written.jobs name]
        exact holds.outstanding reconciled pending wanted name isJob
    · intro other impossible
      cases impossible
  job world event holds _ :=
    { holds with
      lifecycle := (inductive_lifecycle wf).job world event holds.lifecycle trivial }

def Progresses (world : World) (replies : Replies) (reply : WriteReply) : Prop :=
  let reconciled := reconcile replies world.cluster world.stored.value
  reconciled.returnedError world.stored.value.name reply ≠ none ∨
    (reconciled.result.requeue = true ∨ reconciled.result.requeueAfter ≠ none) ∨
    (reconcileAtomically world replies reply).status ≠ world.status

/-- The workflow is being deleted, or it is a customboot workflow in PREPARING that
has nothing to run and no toggle to make. -/
def Stalls (world : World) (replies : Replies) : Prop :=
  world.stored.value.deletionTimestamp ≠ none ∨
    world.status.state = .preparing ∧ ¬ToggleDue world.stored.value true ∧
      NothingToRun replies world.stored.value

variable {reconciled : Reconciled} {replies : Replies}

theorem returnedError_of_error (name : String) (reply : WriteReply)
    (failed : reconciled.error ≠ none) :
    reconciled.returnedError name reply ≠ none := by
  unfold Reconciled.returnedError
  cases isError : reconciled.error with
  | none => exact absurd isError failed
  | some =>
    unfold joinErrors
    split <;> simp_all

theorem returnedError_of_refused (name : String) {reply : WriteReply} (refused : ¬reply.TookEffect)
    (changed : reconciled.updated ≠ reconciled.original) :
    reconciled.returnedError name reply ≠ none := by
  cases reply with
  | done | lost => exact absurd trivial refused
  | refused =>
    unfold Reconciled.returnedError mergePatchStatus
    rw [if_neg changed]
    cases reconciled.error <;> simp [joinErrors, WriteReply.error]

theorem not_progresses_of_idle (reply : WriteReply)
    (isIdle : reconcile replies world.cluster world.stored.value =
      .idle world.cluster world.stored.value) : ¬Progresses world replies reply := by
  have status : (reconcileAtomically world replies reply).status = world.status := by
    unfold reconcileAtomically
    rw [step_patch (show (step world (.beginReconcile replies)).controller = _ from rfl),
      status_applyPatch, isIdle]
    simp [Reconciled.idle, mergePatchStatus, step, World.beginReconcile, World.status]
  unfold Progresses
  simp [isIdle, Reconciled.idle, Reconciled.returnedError, mergePatchStatus, joinErrors, status]

theorem Lifecycle.progresses_of_outcome (holds : Lifecycle wf world) (reply : WriteReply)
    {outcome : Outcome}
    (isOutcome : reconcile replies world.cluster world.stored.value =
      .ofOutcome world.status outcome)
    (progresses : outcome.Progresses world.status) : Progresses world replies reply := by
  have updated : (reconcile replies world.cluster world.stored.value).updated =
      outcome.state.status := by rw [isOutcome]; rfl
  rcases progresses with (failed | requeued) | changed
  · left
    apply returnedError_of_error
    rw [isOutcome]
    exact failed
  · right
    left
    left
    rw [isOutcome]
    exact requeued
  · by_cases tookEffect : reply.TookEffect
    · right
      right
      have written := holds.patched_reconcileAtomically replies tookEffect
      rw [updated] at written
      rintro same
      rw [same] at written
      rcases changed with state | allowNetboot
      · have kept := written.state
        rw [MergePatch.mergeField_original] at kept
        exact state kept.symm
      · exact allowNetboot written.allowNetboot.symm
    · left
      apply returnedError_of_refused _ tookEffect
      rw [reconcile_original, updated]
      intro same
      rcases changed with state | allowNetboot
      · exact state (by rw [same])
      · exact allowNetboot (by rw [same])

theorem Unfinished.progresses_iff (holds : Unfinished wf world) (replies : Replies)
    (reply : WriteReply) (active : world.status.state = .preparing ∨ world.status.state = .post) :
    Progresses world replies reply ↔ ¬Stalls world replies := by
  have lifecycle := holds.lifecycle
  by_cases deleted : world.stored.value.deletionTimestamp = none
  · rcases active with preparing | isPost
    · have isOutcome : Controller.reconcile replies world.cluster world.stored.value =
          .ofOutcome world.status
            (prepareWorkflow replies ⟨world.stored.value, world.cluster, []⟩) := by
        simp [Controller.reconcile, deleted, preparing]
      have notComplete : ∀ name, preparingJobName world.stored.value = some name →
          (world.status.job name).complete = false := by
        intro name isJob
        rw [lifecycle.identity] at isJob
        exact holds.stored preparing name isJob
      constructor
      · rintro progresses (isDeleted | ⟨_, notDue, nothing⟩)
        · exact isDeleted deleted
        · refine not_progresses_of_idle reply ?_ progresses
          rw [isOutcome, prepareWorkflow_of_nothingToRun notComplete notDue nothing]
          rfl
      · intro runs
        refine lifecycle.progresses_of_outcome reply isOutcome
          (progresses_prepareWorkflow preparing notComplete ?_)
        by_contra stuck
        rw [not_or, not_not] at stuck
        exact runs (Or.inr ⟨preparing, stuck⟩)
    · obtain ⟨_, isCurrent, succeeded⟩ := lifecycle.post isPost
      have isOutcome : Controller.reconcile replies world.cluster world.stored.value =
          .ofOutcome world.status
            (postActions replies ⟨world.stored.value, world.cluster, []⟩) := by
        simp [Controller.reconcile, deleted, isPost]
      have progresses := lifecycle.progresses_of_outcome reply isOutcome
        (progresses_postActions isPost isCurrent succeeded)
      refine ⟨fun _ => ?_, fun _ => progresses⟩
      rintro (isDeleted | ⟨preparing, _⟩)
      · exact isDeleted deleted
      · rw [isPost] at preparing
        cases preparing
  · have stalls : Stalls world replies := Or.inl deleted
    refine ⟨fun progresses => ?_, fun runs => absurd stalls runs⟩
    have isIdle : Controller.reconcile replies world.cluster world.stored.value =
        .idle world.cluster world.stored.value := by
      simp [Controller.reconcile, deleted]
    exact absurd progresses (not_progresses_of_idle reply isIdle)

/-- A reconcile of a reachable workflow in PREPARING or POST, in whatever cluster,
shows something exactly when the workflow does not stall. -/
theorem reconcile_progresses_iff (wf : Workflow) (cluster present : Cluster)
    (labels : List Label) (replies : Replies) (reply : WriteReply)
    (isNew : wf.status = {}) :
    let world := { run step (World.start wf cluster) labels with cluster := present }
    world.status.state = .preparing ∨ world.status.state = .post →
    (Progresses world replies reply ↔ ¬Stalls world replies) := by
  intro world active
  have holds := (inductive_unfinished wf).run_start (unfinished_start isNew cluster) labels
  have inPresent : Unfinished wf world :=
    ⟨{ holds.lifecycle with }, holds.stored, holds.outstanding⟩
  exact inPresent.progresses_iff replies reply active

theorem reconcile_progresses_iff_netboot :
    let world := { run step (World.start netbootWorkflow emptyCluster)
      (reconcileAlone 0 "") with cluster := emptyCluster }
    (Progresses world (sampleReplies 1 "") .done ↔ ¬Stalls world (sampleReplies 1 "")) :=
  reconcile_progresses_iff netbootWorkflow emptyCluster emptyCluster
    (reconcileAlone 0 "") (sampleReplies 1 "") .done rfl (by decide)

def custombootWorkflow : Workflow :=
  { sampleWorkflow with spec := { bootOptions := { bootMode := .customboot } } }

/-- It reaches PREPARING, and a reconcile there returns nothing and changes
nothing. -/
theorem preparing_stalls :
    let world := run step (World.start custombootWorkflow emptyCluster)
      (reconcileAlone 0 "")
    let reconciled := reconcile (sampleReplies 1 "") world.cluster world.stored.value
    world.status.state = .preparing ∧
      reconciled.returnedError world.stored.value.name .done = none ∧
      reconciled.result = {} ∧
      (reconcileAtomically world (sampleReplies 1 "") .done).status = world.status := by
  decide

end Tinkerbell.System
