import Tinkerbell.Rufio.World

/-!
Owns: one whole reconcile of a Task, with what it returns, what it leaves stored, and
whether it comes back at all; and that it is the steps that the interleaved model takes
for it.

The only list that is indexed without a look at its length is the one of the boot devices
of a one-time boot device action.
-/

namespace Tinkerbell.Rufio

open Api TransitionSystem
open Controller (WriteReply)

/-- The environment of one reconcile of a Task. -/
structure TaskReplies where
  now : Time
  (credentialsError connectError : Option String := none)
  /-- The answer to the call that the action stands for. -/
  callOk : Bool := true
  callError : Option String := none
  powerState : Except String String := .ok "on"
  completedAt : Time := now
  patch : WriteReply := .done

/-- How a reconcile ends. -/
inductive TaskOutcome where
  | panicked
  /-- The result and the error it returns, and the status that is stored then. -/
  | returned (requeueAfter : Option Duration) (err : Option String) (status : Bmc.TaskStatus)

def aggregate (first second : String) : String :=
  if first = second then first else "[" ++ first ++ ", " ++ second ++ "]"

/-- The stored status after a status patch, if nobody else writes it. -/
def patchedStatus (task : Bmc.Task) (patch : WriteReply) (updated : Bmc.TaskStatus) :
    Bmc.TaskStatus :=
  if patch.TookEffect then patchTaskStatus task.status updated task.status else task.status

def patchAndReturn (task : Bmc.Task) (patch : WriteReply) (updated : Bmc.TaskStatus)
    (err : Option String) : TaskOutcome :=
  let stored := patchedStatus task patch updated
  match patch.error with
  | none => .returned none err stored
  | some refusal =>
    let patchErr := "failed to patch Task " ++ task.namespace ++ "/" ++ task.name ++
      " status: " ++ refusal
    .returned none (some ((err.map (aggregate patchErr)).getD patchErr)) stored

inductive RunResult where
  | panicked
  | failed (err : String)
  | done

/-- The setting of a boot device is the only call whose `ok` is looked at. -/
def looksAtOk (action : Bmc.Action) : Bool :=
  action.powerAction.isNone && action.oneTimeBootDeviceAction.isNone &&
    action.bootDevice.isSome

def runTask (action : Bmc.Action) (ok : Bool) (err : Option String) : RunResult :=
  match actionCall action with
  | .panics => .panicked
  | .nothing => .failed "no action specified in Task, nothing to do"
  | .call _ =>
    if err.isSome || looksAtOk action && !ok then
      .failed (callFailedMessage action ok (err.getD "%!w(<nil>)"))
    else .done

def checkStarted (task : Bmc.Task) (replies : TaskReplies) : TaskOutcome :=
  let jobRunningTime := timeSub replies.now (task.status.startTime.getD zeroTime)
  if taskTimeout ≤ jobRunningTime then
    let timeOutErr := "bmc task timeout: " ++ toString jobRunningTime
    patchAndReturn task replies.patch (failTask timeOutErr task.status) (some timeOutErr)
  else
    match checkTaskStatus task.spec.task replies.powerState with
    | .error err => .returned none (some ("bmc task status check: " ++ err)) task.status
    | .ok (some requeueAfter) => .returned (some requeueAfter) none task.status
    | .ok none =>
      patchAndReturn task replies.patch (completeTask replies.completedAt task.status) none

def runNew (task : Bmc.Task) (replies : TaskReplies) : TaskOutcome :=
  let started := startTask replies.now task.status
  match runTask task.spec.task replies.callOk replies.callError with
  | .panicked => .panicked
  | .failed err => patchAndReturn task replies.patch (failTask err started) (some err)
  | .done => patchAndReturn task replies.patch started none

def doReconcile (task : Bmc.Task) (replies : TaskReplies) : TaskOutcome :=
  match replies.credentialsError with
  | some err => .returned none (some err) task.status
  | none =>
    match replies.connectError with
    | some err =>
      patchAndReturn task replies.patch
        (failTask ("Failed to connect to BMC: " ++ err) task.status) (some err)
    | none =>
      if taskStarted task.status then checkStarted task replies else runNew task replies

def taskReconcile (task : Bmc.Task) (replies : TaskReplies) : TaskOutcome :=
  if task.deletionTimestamp.isSome || taskEnded task.status then
    .returned none none task.status
  else doReconcile task replies

/-- The reconcile returns, and the Task is completed, has failed, or is due to be
reconciled again: an error or a requeue is returned. -/
def Settles (outcome : TaskOutcome) : Prop :=
  ∃ requeueAfter err status, outcome = .returned requeueAfter err status ∧
    (taskEnded status = true ∨ err.isSome ∨ requeueAfter.isSome)

/-- The reconcile comes to send the action of a Task that has not ended. -/
structure FirstRun (task : Bmc.Task) (replies : TaskReplies) : Prop where
  resolved : replies.credentialsError = none
  connected : replies.connectError = none
  notStarted : taskStarted task.status = false

/-- The first run reads the first device of an empty list. -/
structure ReadsNoDevice (task : Bmc.Task) (replies : TaskReplies) : Prop
    extends FirstRun task replies where
  noPower : task.spec.task.powerAction = none
  noDevice : ∃ efiBoot, task.spec.task.oneTimeBootDeviceAction = some ⟨[], efiBoot⟩

/-- The first run sends the action and records its start: `Result{}` and no error are
returned, and the Task has no condition yet. -/
structure OnlyStarts (task : Bmc.Task) (replies : TaskReplies) : Prop
    extends FirstRun task replies where
  done : runTask task.spec.task replies.callOk replies.callError = .done
  accepted : replies.patch = .done
  active : taskEnded task.status = false

section Patch

variable {task : Bmc.Task}

theorem settles_patch_error (patch : WriteReply) (updated : Bmc.TaskStatus) (err : String) :
    Settles (patchAndReturn task patch updated (some err)) := by
  cases patch with
  | done | refused refusal | lost refusal => exact ⟨_, _, _, rfl, .inr (.inl rfl)⟩

@[simp] theorem taskEnded_patchTaskStatus (stored updated : Bmc.TaskStatus) :
    taskEnded (patchTaskStatus stored updated stored) = taskEnded updated := by
  simp [taskEnded]

theorem settles_patch_iff (patch : WriteReply) (updated : Bmc.TaskStatus) :
    Settles (patchAndReturn task patch updated none) ↔
      (patch = .done → taskEnded updated = true) := by
  cases patch with
  | done =>
    constructor
    · rintro ⟨_, _, _, ⟨⟩, ended | isError | requeues⟩ _
      · exact (taskEnded_patchTaskStatus task.status updated).symm.trans ended
      · cases isError
      · cases requeues
    · intro ended
      refine ⟨_, _, _, rfl, .inl ?_⟩
      exact (taskEnded_patchTaskStatus task.status updated).trans (ended rfl)
  | refused refusal | lost refusal =>
    exact iff_of_true ⟨_, _, _, rfl, .inr (.inl rfl)⟩ nofun

end Patch

private theorem settles_checkStarted (task : Bmc.Task) (replies : TaskReplies) :
    Settles (checkStarted task replies) := by
  unfold checkStarted
  dsimp only
  split
  · apply settles_patch_error
  · split
    · exact ⟨_, _, _, rfl, .inr (.inl rfl)⟩
    · exact ⟨_, _, _, rfl, .inr (.inr rfl)⟩
    · rw [settles_patch_iff]
      simp [taskEnded]

private theorem actionCall_panics_iff (action : Bmc.Action) :
    actionCall action = .panics ↔ action.powerAction = none ∧
      ∃ efiBoot, action.oneTimeBootDeviceAction = some ⟨[], efiBoot⟩ := by
  obtain ⟨powerAction, oneTime, bootDevice, media⟩ := action
  cases powerAction with
  | some => simp [actionCall]
  | none =>
    cases oneTime with
    | some oneTime =>
      obtain ⟨devices, _⟩ := oneTime
      cases devices <;> simp [actionCall]
    | none => cases bootDevice <;> cases media <;> simp [actionCall]

private theorem runTask_panicked_iff (action : Bmc.Action) (ok : Bool) (err : Option String) :
    runTask action ok err = .panicked ↔ actionCall action = .panics := by
  unfold runTask
  cases actionCall action with
  | panics | nothing => simp
  | call =>
    simp only [reduceCtorEq, iff_false]
    split <;> exact nofun

private theorem settles_runNew_iff (task : Bmc.Task) (replies : TaskReplies) :
    Settles (runNew task replies) ↔
      actionCall task.spec.task ≠ .panics ∧
        (runTask task.spec.task replies.callOk replies.callError = .done →
          replies.patch = .done → taskEnded task.status = true) := by
  rw [ne_eq, ← runTask_panicked_iff task.spec.task replies.callOk replies.callError]
  unfold runNew
  cases runTask task.spec.task replies.callOk replies.callError with
  | panicked =>
    refine iff_of_false ?_ (fun fine => fine.1 rfl)
    rintro ⟨_, _, _, isReturned, _⟩
    cases isReturned
  | failed err => exact iff_of_true (settles_patch_error _ _ err) ⟨nofun, nofun⟩
  | done =>
    rw [settles_patch_iff]
    exact ⟨fun ended => ⟨nofun, fun _ => ended⟩, fun fine => fine.2 rfl⟩

theorem doReconcile_settles_iff (task : Bmc.Task) (replies : TaskReplies) :
    Settles (doReconcile task replies) ↔
      ¬ReadsNoDevice task replies ∧ ¬OnlyStarts task replies := by
  by_cases first : FirstRun task replies
  · have isRun : doReconcile task replies = runNew task replies := by
      unfold doReconcile
      simp [first.resolved, first.connected, first.notStarted]
    rw [isRun, settles_runNew_iff, ne_eq, actionCall_panics_iff]
    refine and_congr (not_congr ⟨fun reads => ⟨first, reads.1, reads.2⟩,
      fun reads => ⟨reads.noPower, reads.noDevice⟩⟩) ⟨?_, ?_⟩
    · intro ends starts
      have ended := ends starts.done starts.accepted
      rw [starts.active] at ended
      cases ended
    · intro notOnly done accepted
      by_contra active
      exact notOnly ⟨first, done, accepted, Bool.not_eq_true _ ▸ active⟩
  · refine iff_of_true ?_
      ⟨fun reads => first reads.toFirstRun, fun starts => first starts.toFirstRun⟩
    unfold doReconcile
    cases resolved : replies.credentialsError with
    | some => exact ⟨_, _, _, rfl, .inr (.inl rfl)⟩
    | none =>
      cases connected : replies.connectError with
      | some err => exact settles_patch_error replies.patch _ err
      | none =>
        cases started : taskStarted task.status with
        | true => exact settles_checkStarted task replies
        | false => exact absurd ⟨resolved, connected, started⟩ first

private theorem taskReconcile_settles_iff {task : Bmc.Task} (live : task.deletionTimestamp = none)
    (replies : TaskReplies) :
    Settles (taskReconcile task replies) ↔ taskEnded task.status = true ∨
      ¬ReadsNoDevice task replies ∧ ¬OnlyStarts task replies := by
  unfold taskReconcile
  rw [live, Option.isSome_none, Bool.false_or]
  cases ended : taskEnded task.status with
  | true => exact iff_of_true ⟨_, _, _, rfl, .inl ended⟩ (.inl rfl)
  | false =>
    simp only [Bool.false_eq_true, if_false, false_or]
    exact doReconcile_settles_iff task replies

/-- A reconcile returns, and leaves the Task completed, failed or due, exactly when it is
not the first run of a one-time boot device action without a device, nor a first run that
succeeds. Before it, a Task that has ended or is being deleted is passed over. -/
theorem reconcile_settles_iff (task : Bmc.Task) (replies : TaskReplies) :
    (Settles (doReconcile task replies) ↔
        ¬ReadsNoDevice task replies ∧ ¬OnlyStarts task replies) ∧
      (task.deletionTimestamp = none → (Settles (taskReconcile task replies) ↔
        taskEnded task.status = true ∨
          ¬ReadsNoDevice task replies ∧ ¬OnlyStarts task replies)) :=
  ⟨doReconcile_settles_iff task replies, fun live => taskReconcile_settles_iff live replies⟩

def newTask (action : Bmc.Action) : Bmc.Task :=
  { name := "task", «namespace» := "tink", spec := { task := action } }

/-- A one-time boot device action with an empty list of devices stops the reconcile, and
one that powers the machine on is neither completed nor due after its first run. -/
theorem empty_device_list_panics :
    ¬Settles (doReconcile (newTask { oneTimeBootDeviceAction := some { devices := [] } })
        { now := second }) ∧
      ¬Settles (doReconcile (newTask { powerAction := some .on }) { now := second }) := by
  constructor
  · rintro ⟨_, _, _, isReturned, _⟩
    cases isReturned
  · rw [doReconcile_settles_iff]
    exact fun fine => fine.2 ⟨⟨rfl, rfl, rfl⟩, rfl, rfl, rfl⟩

end Tinkerbell.Rufio
