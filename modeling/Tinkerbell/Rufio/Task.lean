import Tinkerbell.Api.Bmc
import Tinkerbell.Library.MergePatch

/-!
Owns: the Task reconciler of the BMC controller: the call to the BMC that an
action stands for, the check whether the action has taken effect, and the
status of the Task after each of them.

A Task is reconciled at least twice. The first reconcile sends the action and
records the start time; a later one, which finds the start time, checks the
power state where the action asks for one and records the completion.

Does not own: when the reads and writes of a reconcile happen, and the secrets
and provider options of a connection; whether a client could be made is an
answer of the environment.
-/

namespace Tinkerbell.Rufio

open Api

def containsText (text : List Char) : List Char → Bool
  | [] => text.isEmpty
  | c :: rest => text.isPrefixOf (c :: rest) || containsText text rest

def toPowerState (state : String) : Bmc.PowerState :=
  let lower := state.toList.map Char.toLower
  if containsText ['o', 'n'] lower then .on
  else if containsText ['o', 'f', 'f'] lower then .off
  else .unknown

def bootDeviceText : Bmc.BootDevice → String
  | .pxe => "pxe"
  | .disk => "disk"
  | .bios => "bios"
  | .cdrom => "cdrom"
  | .safe => "safe"
  | .other name => name

def virtualMediaKindText : Bmc.VirtualMediaKind → String
  | .cd => "CD"
  | .other name => name

/-- The calls to the BMC that change something. -/
inductive BmcCall where
  | setPowerState (action : Bmc.PowerAction)
  | setBootDevice (device : String) (setPersistent efiBoot : Bool)
  | setVirtualMedia (kind mediaURL : String)
deriving DecidableEq

inductive CallReply where
  | succeeded
  | failed (ok : Bool) (err : String)
deriving DecidableEq

/-- What `runTask` does for an action. -/
inductive ActionCall where
  | call (call : BmcCall)
  | nothing
  /-- The first device of an empty list is read. -/
  | panics

def actionCall (action : Bmc.Action) : ActionCall :=
  match action.powerAction with
  | some power => .call (.setPowerState power)
  | none =>
    match action.oneTimeBootDeviceAction with
    | some oneTime =>
      match oneTime.devices with
      | [] => .panics
      | device :: _ =>
        .call (.setBootDevice (bootDeviceText device) false oneTime.efiBoot)
    | none =>
      match action.bootDevice with
      | some config =>
        .call (.setBootDevice ((config.device.map bootDeviceText).getD "")
          config.persistent config.efiBoot)
      | none =>
        match action.virtualMediaAction with
        | some media =>
          .call (.setVirtualMedia (virtualMediaKindText media.kind) media.mediaURL)
        | none => .nothing

def callFailedMessage (action : Bmc.Action) (ok : Bool) (err : String) : String :=
  if action.powerAction.isSome then "failed to perform PowerAction: " ++ err
  else if action.oneTimeBootDeviceAction.isSome then
    "failed to perform OneTimeBootDeviceAction: " ++ err
  else if action.bootDevice.isSome then
    "failed to set BootDevice, ok: " ++ toString ok ++ ", err: " ++ err
  else "failed to perform SetVirtualMedia: " ++ err

def requestedState (action : Bmc.Action) : Option Bmc.PowerState :=
  match action.powerAction with
  | some .on => some .on
  | some .hardOff => some .off
  | some .softOff => some .off
  | _ => none

def actionDone (action : Bmc.Action) (state : Bmc.PowerState) : Bool :=
  match requestedState action with
  | some requested => state = requested
  | none => true

def taskTimeout : Duration := 600 * second

def taskStarted (status : Bmc.TaskStatus) : Bool :=
  match status.startTime with
  | none => false
  | some time => time ≠ zeroTime

def failTask (message : String) (status : Bmc.TaskStatus) : Bmc.TaskStatus :=
  status.setCondition .failed .true (some message)

def completeTask (now : Time) (status : Bmc.TaskStatus) : Bmc.TaskStatus :=
  ({ status with completionTime := some now } : Bmc.TaskStatus).setCondition
    .completed .true

def startTask (now : Time) (status : Bmc.TaskStatus) : Bmc.TaskStatus :=
  { status with startTime := some now }

def patchTaskStatus (read updated stored : Bmc.TaskStatus) : Bmc.TaskStatus where
  conditions := MergePatch.mergeField read.conditions updated.conditions
    stored.conditions
  startTime := MergePatch.mergeField (read.startTime.bind storedTime)
    (updated.startTime.bind storedTime) stored.startTime
  completionTime := MergePatch.mergeField (read.completionTime.bind storedTime)
    (updated.completionTime.bind storedTime) stored.completionTime

def taskEnded (status : Bmc.TaskStatus) : Bool :=
  status.hasCondition .failed .true || status.hasCondition .completed .true

structure ConnectReplies where
  now : Time
  (credentialsError connectError : Option String := none)

/-- What a reconcile does after it has got ready. -/
inductive TaskPhase where
  /-- The action is to be sent; the status has the new start time. -/
  | calling (status : Bmc.TaskStatus)
  /-- The power state is to be checked. -/
  | checking
  /-- The status is to be written. -/
  | patching (status : Bmc.TaskStatus)

/-- `Reconcile` and `doReconcile` up to the first call to the BMC; `none` when
the reconcile ends there. -/
def beginTask (task : Bmc.Task) (replies : ConnectReplies) : Option TaskPhase :=
  if task.deletionTimestamp.isSome || taskEnded task.status then none
  else
    match replies.credentialsError with
    | some _ => none
    | none =>
      match replies.connectError with
      | some err => some (.patching
          (failTask ("Failed to connect to BMC: " ++ err) task.status))
      | none =>
        if taskStarted task.status then
          let runningTime := timeSub replies.now (task.status.startTime.getD zeroTime)
          if taskTimeout ≤ runningTime then
            some (.patching
              (failTask ("bmc task timeout: " ++ toString runningTime) task.status))
          else some .checking
        else some (.calling (startTask replies.now task.status))

def afterCall (action : Bmc.Action) (status : Bmc.TaskStatus) :
    CallReply → Bmc.TaskStatus
  | .succeeded => status
  | .failed ok err => failTask (callFailedMessage action ok err) status

def powerActionRequeueAfter : Duration := 3 * second

/-- Whether the action has taken effect: an error, a time to wait, or `none`. Only
power actions are looked at. -/
def checkTaskStatus (action : Bmc.Action) (powerState : Except String String) :
    Except String (Option Duration) :=
  match action.powerAction with
  | none => .ok none
  | some _ =>
    match powerState with
    | .error err => .error ("failed to get power state: " ++ err)
    | .ok rawState =>
      if actionDone action (toPowerState rawState) then .ok none
      else .ok (some powerActionRequeueAfter)

def checkTask (task : Bmc.Task) (now : Time) (read : Except String String) :
    Option Bmc.TaskStatus :=
  match checkTaskStatus task.spec.task read with
  | .ok none => some (completeTask now task.status)
  | _ => none

theorem checkTaskStatus_done {action : Bmc.Action} {read : Except String String} :
    checkTaskStatus action read = .ok none ↔ action.powerAction = none ∨
      ∃ raw, read = .ok raw ∧ actionDone action (toPowerState raw) = true := by
  unfold checkTaskStatus actionDone requestedState
  cases action.powerAction with
  | none => simp
  | some =>
    cases read with
    | error | ok => simp

variable (message : String) (now : Time) (status : Bmc.TaskStatus)

@[simp] theorem failed_failTask :
    (failTask message status).hasCondition .failed .true = true := by
  simp [failTask, Bmc.TaskStatus.hasCondition_setCondition]

@[simp] theorem completed_failTask :
    (failTask message status).hasCondition .completed .true =
      status.hasCondition .completed .true := by
  simp [failTask, Bmc.TaskStatus.hasCondition_setCondition]

@[simp] theorem completed_completeTask :
    (completeTask now status).hasCondition .completed .true = true := by
  simp [completeTask, Bmc.TaskStatus.hasCondition_setCondition]

@[simp] theorem failed_completeTask :
    (completeTask now status).hasCondition .failed .true = status.hasCondition .failed .true := by
  simp only [completeTask, Bmc.TaskStatus.hasCondition_setCondition]
  rfl

@[simp] theorem hasCondition_startTask
    (type : Bmc.TaskConditionType) (wanted : Bmc.ConditionStatus) :
    (startTask now status).hasCondition type wanted = status.hasCondition type wanted := rfl

@[simp] theorem hasCondition_patchTaskStatus (stored updated : Bmc.TaskStatus)
    (type : Bmc.TaskConditionType) (wanted : Bmc.ConditionStatus) :
    (patchTaskStatus stored updated stored).hasCondition type wanted =
      updated.hasCondition type wanted := by
  simp [patchTaskStatus, Bmc.TaskStatus.hasCondition]

end Tinkerbell.Rufio
