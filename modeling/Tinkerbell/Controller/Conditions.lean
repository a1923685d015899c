import Tinkerbell.Api.Conditions
import Tinkerbell.Controller.Reconcile

/-!
Owns: what a reconcile does to the two netboot conditions of a workflow and to
the permissions on record, phase by phase.

Only the toggle touches them. `SameNetboot` is the frame of every other part;
`told_toggleIfDue` is the step of the toggle, which needs the read of the Hardware
to succeed when the permission is taken back: a failed read is recorded under the
condition for `true` whichever value is wanted.
-/

variable {second first third : WorkflowStatus}

namespace Tinkerbell.Controller

open Api

structure SameNetboot (before after : WorkflowStatus) : Prop where
  allowNetboot : after.bootOptions.allowNetboot = before.bootOptions.allowNetboot
  condition : ∀ allowPXE, after.condition (toggleCondition allowPXE) =
    before.condition (toggleCondition allowPXE)

namespace SameNetboot

variable (status : WorkflowStatus)

theorem refl : SameNetboot status status := ⟨rfl, fun _ => rfl⟩

theorem trans (left : SameNetboot first second)
    (right : SameNetboot second third) : SameNetboot first third where
  allowNetboot := right.allowNetboot.trans left.allowNetboot
  condition := fun allowPXE => (right.condition allowPXE).trans (left.condition allowPXE)

theorem of_fields {before after : WorkflowStatus}
    (allowNetboot : after.bootOptions.allowNetboot = before.bootOptions.allowNetboot)
    (conditions : after.conditions = before.conditions) : SameNetboot before after where
  allowNetboot
  condition := fun allowPXE => by rw [WorkflowStatus.condition, conditions]; rfl

theorem setCondition {condition : WorkflowCondition}
    (apart : ∀ allowPXE, condition.type ≠ toggleCondition allowPXE) :
    SameNetboot status (status.setCondition condition) where
  allowNetboot := rfl
  condition := fun allowPXE => by rw [condition_setCondition, if_neg (apart allowPXE)]

theorem setConditionIfDifferent {condition : WorkflowCondition}
    (apart : ∀ allowPXE, condition.type ≠ toggleCondition allowPXE) :
    SameNetboot status (status.setConditionIfDifferent condition) where
  allowNetboot := by rw [setConditionIfDifferent_eq]
  condition := fun allowPXE =>
    (condition_setConditionIfDifferent status condition).2 _ (apart allowPXE).symm

end SameNetboot

variable {type : WorkflowConditionType} {condition : WorkflowCondition} {after : WorkflowStatus}

theorem ne_toggleCondition (notTrue : type ≠ .toggleAllowNetbootTrue)
    (notFalse : type ≠ .toggleAllowNetbootFalse) (allowPXE : Bool) :
    type ≠ toggleCondition allowPXE := by
  cases allowPXE with
  | false => exact notFalse
  | true => exact notTrue

variable (replies : Replies) (state : State) (cluster : Cluster) (actions : List Bmc.Action)
  (name : String)

private theorem status_create (machine : String) :
    (create replies state actions name machine).1.status = state.status := by
  unfold create
  split
  · rfl
  · split <;> rfl

private theorem sameNetboot_createJob :
    SameNetboot state.status (createJob replies state actions name).state.status := by
  unfold createJob
  split
  · split
    · exact .refl _
    · exact .of_fields rfl rfl
  · split
    · exact .refl _
    · split
      · exact .refl _
      · next machine _ =>
        have status := status_create replies state actions name machine
        split
        · next created =>
          rw [created] at status
          simp only [status]
          exact .refl _
        · next created =>
          rw [created] at status
          simp only [status]
          exact .refl _

private theorem sameNetboot_trackRunningJob :
    SameNetboot state.status (trackRunningJob replies state name).1.state.status := by
  unfold trackRunningJob
  split
  · exact .refl _
  · split
    · exact .refl _
    · split
      · exact .of_fields rfl rfl
      · exact .refl _

private theorem sameNetboot_deleteExisting :
    SameNetboot state.status (deleteExisting replies state name).state.status := by
  unfold deleteExisting
  cases replies.deleteTasks with
  | refused err | lost err => exact .refl _
  | done =>
    cases replies.deleteJob with
    | refused err | lost err => exact .refl _
    | done => exact .of_fields rfl rfl

theorem sameNetboot_handleJob :
    SameNetboot state.status (handleJob replies state actions name).state.status := by
  have created := sameNetboot_createJob replies state actions name
  have tracked := sameNetboot_trackRunningJob replies state name
  unfold handleJob
  split
  · exact sameNetboot_deleteExisting replies state name
  · split
    · split
      · exact .refl _
      · unfold setUpJob
        simp only
        split
        · exact created.trans (.setCondition _ (ne_toggleCondition (by simp [conditionAt])
            (by simp [conditionAt])))
        · exact created.trans (.setCondition _ (ne_toggleCondition (by simp [conditionAt])
            (by simp [conditionAt])))
    · split
      · unfold trackJob
        simp only
        split
        · exact tracked.trans (.setCondition _ (ne_toggleCondition (by simp [conditionAt])
            (by simp [conditionAt])))
        · split
          · exact tracked.trans (.setCondition _ (ne_toggleCondition (by simp [conditionAt])
              (by simp [conditionAt])))
          · exact tracked
      · exact .refl _

theorem sameNetboot_setWorkflowState (workflowState : WorkflowState) :
    SameNetboot state.status (state.setWorkflowState workflowState).status :=
  .of_fields rfl rfl

theorem sameNetboot_adoptCurrentState :
    SameNetboot state.status (adoptCurrentState state).status := by
  unfold adoptCurrentState
  split
  · exact sameNetboot_setWorkflowState state _
  · exact .refl _

theorem sameNetboot_failWithCondition (apart : ∀ allowPXE, type ≠ toggleCondition allowPXE)
    (err : String) :
    SameNetboot state.status (failWithCondition replies state type err).state.status := by
  have recorded : SameNetboot state.status (state.setConditionIfDifferent
      (conditionAt replies.now type .false reasonError err)).status :=
    SameNetboot.setConditionIfDifferent state.status apart
  exact recorded.trans (sameNetboot_setWorkflowState _ .failed)

theorem sameNetboot_bootWithJob {hardwareCondition : WorkflowConditionType}
    (apart : ∀ allowPXE, hardwareCondition ≠ toggleCondition allowPXE)
    (actionsFor : Hardware → Except String (List Bmc.Action)) :
    SameNetboot state.status
      (bootWithJob replies state name hardwareCondition actionsFor).state.status := by
  unfold bootWithJob
  split
  · exact sameNetboot_failWithCondition replies state apart _
  · split
    · exact sameNetboot_failWithCondition replies state
        (ne_toggleCondition (by simp) (by simp)) _
    · next actions _ =>
      have handled := sameNetboot_handleJob replies state actions name
      simp only
      split
      · exact handled.trans (sameNetboot_setWorkflowState _ _)
      · split
        · exact handled.trans (sameNetboot_setWorkflowState _ _)
        · exact handled

private theorem sameNetboot_prepareBoot :
    SameNetboot state.status (prepareBoot replies state).state.status := by
  have setUp := @ne_toggleCondition .bootJobSetupFailed (by simp) (by simp)
  have complete := @ne_toggleCondition .bootJobSetupComplete (by simp) (by simp)
  have failed : ∀ err, SameNetboot state.status (failWith state err).state.status :=
    fun _ => sameNetboot_setWorkflowState state .failed
  unfold prepareBoot
  simp only
  split
  · split
    · exact sameNetboot_bootWithJob replies state _ setUp _
    · exact .refl _
  · split
    · split
      · exact failed _
      · exact sameNetboot_bootWithJob replies state _ complete _
    · exact .refl _
  · split
    · split
      · exact failed _
      · exact sameNetboot_bootWithJob replies state _ complete _
    · exact .refl _
  · split
    · exact sameNetboot_bootWithJob replies state _ setUp _
    · exact .refl _
  · exact sameNetboot_setWorkflowState state .pending

theorem sameNetboot_postBoot : SameNetboot state.status (postBoot replies state).state.status := by
  have posts := postsBoot_postBoot replies state
  generalize postBoot replies state = outcome at posts
  cases posts with
  | adopts => exact sameNetboot_adoptCurrentState state
  | fails => exact sameNetboot_setWorkflowState state .failed
  | @finishes name _ actions =>
    have handled := sameNetboot_handleJob replies state actions name
    unfold finishWithJob
    simp only
    split
    · exact handled.trans (sameNetboot_setWorkflowState _ _)
    · split
      · exact handled.trans (sameNetboot_adoptCurrentState _)
      · exact handled

def ReadsHardware (replies : Replies) (wf : Workflow) : Prop :=
  wf.spec.bootOptions.toggleAllowNetboot = true →
    wf.status.bootOptions.allowNetboot.toggledFalse = false →
      replies.toggleHardware.isOk = true

instance (replies : Replies) (wf : Workflow) : Decidable (ReadsHardware replies wf) := by
  unfold ReadsHardware
  infer_instance

/-- What a toggle does to the netboot conditions: nothing, or it records under the
condition of its own permission whether that was given. -/
inductive TogglesNetboot (allowPXE : Bool) (before after : WorkflowStatus) : Prop
  | same (same : SameNetboot before after)
  | failed (notYet : isToggled allowPXE before.bootOptions.allowNetboot = false)
      (allowNetboot : after.bootOptions.allowNetboot = before.bootOptions.allowNetboot)
      (own : after.hasCondition (toggleCondition allowPXE) .true = false)
      (other : after.condition (toggleCondition (!allowPXE)) =
        before.condition (toggleCondition (!allowPXE)))
  | recorded
      (allowNetboot : after.bootOptions.allowNetboot =
        recordToggle allowPXE before.bootOptions.allowNetboot)
      (own : after.hasCondition (toggleCondition allowPXE) .true = true)
      (other : after.condition (toggleCondition (!allowPXE)) =
        before.condition (toggleCondition (!allowPXE)))

theorem toggleCondition_not_ne (allowPXE : Bool) :
    toggleCondition (!allowPXE) ≠ toggleCondition allowPXE := by
  cases allowPXE <;> simp [toggleCondition]

variable {allowPXE : Bool} {before : WorkflowStatus} {stored : Workflow}

theorem togglesNetboot_setConditionIfDifferent {status : WorkflowStatus}
    (notYet : isToggled allowPXE status.bootOptions.allowNetboot = false)
    (type : condition.type = toggleCondition allowPXE) (isFalse : condition.status = .false) :
    TogglesNetboot allowPXE status (status.setConditionIfDifferent condition) := by
  obtain ⟨⟨_, isRecorded, sameStatus⟩, others⟩ :=
    condition_setConditionIfDifferent status condition
  refine .failed notYet ?_ ?_ ?_
  · rw [setConditionIfDifferent_eq]
  · rw [← type, WorkflowStatus.hasCondition, isRecorded]
    simp [sameStatus, isFalse]
  · apply others
    rw [type]
    exact toggleCondition_not_ne allowPXE

private theorem togglesNetboot_setCondition {status : WorkflowStatus}
    (allowNetboot : status.bootOptions.allowNetboot =
      recordToggle allowPXE before.bootOptions.allowNetboot)
    (conditions : status.conditions = before.conditions)
    (type : condition.type = toggleCondition allowPXE) (isTrue : condition.status = .true) :
    TogglesNetboot allowPXE before (status.setCondition condition) := by
  refine .recorded allowNetboot ?_ ?_
  · rw [WorkflowStatus.hasCondition, condition_setCondition, if_pos type]
    simp [isTrue]
  · rw [condition_setCondition, type, if_neg (toggleCondition_not_ne allowPXE).symm,
      WorkflowStatus.condition, conditions]
    rfl

theorem togglesNetboot_toggleIfDue (allowPXE : Bool)
    (reads : allowPXE = false → ReadsHardware replies state.workflow) :
    TogglesNetboot allowPXE state.status (toggleIfDue replies state allowPXE).1.status := by
  unfold toggleIfDue
  split
  · next due =>
    unfold toggleHardware
    split
    · next _ unread =>
      cases allowPXE with
      | true => exact togglesNetboot_setConditionIfDifferent due.2 rfl rfl
      | false =>
        have isOk := reads rfl due.1 due.2
        cases read : replies.toggleHardware with
        | error =>
          rw [read] at isOk
          cases isOk
        | ok =>
          rw [read] at unread
          cases unread
    · split
      · exact .same (.refl _)
      · split
        · exact togglesNetboot_setConditionIfDifferent due.2 rfl rfl
        · refine togglesNetboot_setCondition ?_ ?_ ?_ ?_
          · rfl
          · rfl
          · rfl
          · rfl
  · exact .same (.refl _)

theorem TogglesNetboot.trans_same
    (toggles : TogglesNetboot allowPXE first second) (same : SameNetboot second third) :
    TogglesNetboot allowPXE first third := by
  have hasCondition : third.hasCondition (toggleCondition allowPXE) .true =
      second.hasCondition (toggleCondition allowPXE) .true := by
    rw [WorkflowStatus.hasCondition, same.condition]
    rfl
  cases toggles with
  | same before => exact .same (before.trans same)
  | failed notYet allowNetboot own other =>
    exact .failed notYet (same.allowNetboot.trans allowNetboot) (hasCondition.trans own)
      ((same.condition _).trans other)
  | recorded allowNetboot own other =>
    exact .recorded (same.allowNetboot.trans allowNetboot) (hasCondition.trans own)
      ((same.condition _).trans other)

private theorem togglesNetboot_prepareWorkflow :
    TogglesNetboot true state.status (prepareWorkflow replies state).state.status := by
  have toggles := togglesNetboot_toggleIfDue replies state true (by simp)
  unfold prepareWorkflow
  split
  · next toggledState _ returned =>
    rw [returned] at toggles
    exact toggles.trans_same (sameNetboot_setWorkflowState toggledState .failed)
  · next toggledState returned =>
    rw [returned] at toggles
    exact toggles.trans_same (sameNetboot_prepareBoot replies toggledState)

theorem togglesNetboot_postActions (reads : ReadsHardware replies state.workflow) :
    TogglesNetboot false state.status (postActions replies state).state.status := by
  have toggles := togglesNetboot_toggleIfDue replies state false fun _ => reads
  unfold postActions
  split
  · next toggledState _ returned =>
    rw [returned] at toggles
    exact toggles.trans_same (sameNetboot_setWorkflowState toggledState .failed)
  · next toggledState returned =>
    rw [returned] at toggles
    exact toggles.trans_same (sameNetboot_postBoot replies toggledState)

def Told (status : WorkflowStatus) (allowPXE : Bool) : Prop :=
  status.hasCondition (toggleCondition allowPXE) .true =
    isToggled allowPXE status.bootOptions.allowNetboot

theorem SameNetboot.told (same : SameNetboot before after) (told : Told before allowPXE) :
    Told after allowPXE := by
  unfold Told WorkflowStatus.hasCondition at *
  rw [same.condition, same.allowNetboot]
  exact told

private theorem isToggled_recordToggle_not (allowPXE : Bool) (status : AllowNetbootStatus) :
    isToggled (!allowPXE) (recordToggle allowPXE status) = isToggled (!allowPXE) status := by
  cases allowPXE <;> rfl

theorem TogglesNetboot.told (toggles : TogglesNetboot allowPXE before after)
    (told : ∀ permission, Told before permission) (permission : Bool) :
    Told after permission := by
  have others : ∀ {status : WorkflowStatus},
      status.condition (toggleCondition (!allowPXE)) =
        before.condition (toggleCondition (!allowPXE)) →
      isToggled (!allowPXE) status.bootOptions.allowNetboot =
        isToggled (!allowPXE) before.bootOptions.allowNetboot →
      Told status (!allowPXE) := by
    intro status condition allowNetboot
    have was := told (!allowPXE)
    unfold Told WorkflowStatus.hasCondition at *
    rw [condition, allowNetboot]
    exact was
  cases toggles with
  | same same => exact same.told (told permission)
  | failed notYet allowNetboot own other =>
    by_cases isOwn : permission = allowPXE
    · subst isOwn
      rw [Told, own, allowNetboot, notYet]
    · obtain rfl : permission = !allowPXE := Bool.eq_not_of_ne isOwn
      exact others other (by rw [allowNetboot])
  | recorded allowNetboot own other =>
    by_cases isOwn : permission = allowPXE
    · subst isOwn
      rw [Told, own, allowNetboot, isToggled_recordToggle]
    · obtain rfl : permission = !allowPXE := Bool.eq_not_of_ne isOwn
      exact others other (by rw [allowNetboot, isToggled_recordToggle_not])

theorem told_processWorkflow (told : Told stored.status allowPXE) :
    Told (processWorkflow replies stored).1 allowPXE := by
  have processes := processes_processWorkflow replies stored
  generalize processWorkflow replies stored = processed at processes ⊢
  obtain ⟨_, _⟩ := processed
  cases processes with
  | failed =>
    have same : SameNetboot stored.status
        { stored.status with templateRendering := .failed } := .of_fields rfl rfl
    exact (same.trans (.setConditionIfDifferent _
      (ne_toggleCondition (by simp [conditionAt]) (by simp [conditionAt])))).told told
  | rendered => cases allowPXE <;> rfl

private theorem told_reconcileNew (told : Told stored.status allowPXE) :
    Told (reconcileNew replies cluster stored).updated allowPXE := by
  have processed := told_processWorkflow replies told
  unfold reconcileNew processNewWorkflow
  simp only
  split
  · exact told
  · split
    · next _ _ returned =>
      rw [returned] at processed
      exact processed
    · next _ returned =>
      rw [returned] at processed
      split
      · exact processed
      · exact processed

/-- A reconcile keeps the conditions true to the record, unless it is the one in
POST whose read of the Hardware fails. -/
theorem told_reconcile (reads : stored.status.state = .post → ReadsHardware replies stored)
    (told : ∀ permission, Told stored.status permission) (permission : Bool) :
    Told (reconcile replies cluster stored).updated permission := by
  unfold reconcile
  split
  · exact told permission
  · split
    · exact told_reconcileNew replies cluster (told permission)
    · exact (togglesNetboot_prepareWorkflow replies ⟨stored, cluster, []⟩).told told permission
    · have fields := (reconcilesRunning_reconcileRunning replies.now stored.status).fields
      have allowNetboot := congrArg (fun status => status.bootOptions.allowNetboot) fields
      have conditions := congrArg WorkflowStatus.conditions fields
      exact (SameNetboot.of_fields allowNetboot conditions).told (told permission)
    · next isPost =>
      exact (togglesNetboot_postActions replies ⟨stored, cluster, []⟩ (reads isPost)).told
        told permission
    · exact told permission
    · exact told permission
    · exact told permission
    · exact told permission
    · exact told_processWorkflow replies (told permission)
    · exact told permission

/-- Taking the permission back leaves the condition for giving it alone, whether the
toggle fails or not. -/
theorem condition_reconcile_post (isPost : stored.status.state = .post)
    (reads : ReadsHardware replies stored) :
    (reconcile replies cluster stored).updated.condition .toggleAllowNetbootTrue =
      stored.status.condition .toggleAllowNetbootTrue := by
  have toggles := togglesNetboot_postActions replies ⟨stored, cluster, []⟩ reads
  unfold reconcile
  split
  · rfl
  · simp only [isPost]
    cases toggles with
    | same same => exact same.condition true
    | failed notYet allowNetboot own other | recorded allowNetboot own other => exact other

end Tinkerbell.Controller
