import Tinkerbell.Api.Time
import Tinkerbell.Library.FirstMatch
import Tinkerbell.Library.KeyedMap

/-!
Owns: the `bmc.tinkerbell.org` objects: actions, Jobs, the Tasks that run the
actions of a Job one by one, and Machines, with their conditions.
-/

namespace Tinkerbell.Bmc

inductive PowerAction where
  | on
  | hardOff
  | softOff
  | cycle
  | reset
  | status
deriving DecidableEq

inductive BootDevice where
  | pxe
  | disk
  | bios
  | cdrom
  | safe
  | other (name : String)
deriving DecidableEq

inductive VirtualMediaKind where
  | cd
  | other (name : String)
deriving DecidableEq

structure OneTimeBootDeviceAction where
  devices : List BootDevice
  efiBoot : Bool := false
deriving DecidableEq

structure VirtualMediaAction where
  mediaURL : String := ""
  kind : VirtualMediaKind
deriving DecidableEq

structure BootDeviceConfig where
  device : Option BootDevice := none
  (persistent efiBoot : Bool := false)
deriving DecidableEq

/-- One BMC operation; at most one of the fields is set. -/
structure Action where
  powerAction : Option PowerAction := none
  oneTimeBootDeviceAction : Option OneTimeBootDeviceAction := none
  bootDevice : Option BootDeviceConfig := none
  virtualMediaAction : Option VirtualMediaAction := none
deriving DecidableEq

/-- A type that no controller here writes is `other`. -/
inductive JobConditionType where
  | completed
  | failed
  | running
  | other (name : String)
deriving DecidableEq

inductive ConditionStatus where
  | true
  | false
  | other (name : String)
deriving DecidableEq

structure JobCondition where
  type : JobConditionType
  status : ConditionStatus
  message : String := ""
deriving DecidableEq

structure OwnerReference where
  (apiVersion kind name uid : String)
  controller : Bool
deriving DecidableEq

/-- A `job.bmc.tinkerbell.org` object. `finalizers` is set while some other
controller still holds the object back from removal. -/
structure Job where
  (name «namespace» uid : String)
  (annotations labels : List (String × String) := [])
  ownerReferences : List OwnerReference := []
  finalizers : List String := []
  deletionTimestamp : Option Api.Time := none
  (machineName machineNamespace : String := "")
  tasks : List Action := []
  conditions : List JobCondition := []
  (startTime completionTime : Option Api.Time := none)

def Job.hasCondition (job : Job) (type : JobConditionType)
    (status : ConditionStatus) : Bool :=
  match job.conditions.find? (fun condition => condition.type = type) with
  | some condition => condition.status = status
  | none => false

/-- `SetCondition`: the message of an existing condition stays unless a new
one is given. -/
def Job.setCondition (job : Job) (type : JobConditionType)
    (status : ConditionStatus) (message : Option String := none) : Job :=
  { job with
    conditions := FirstMatch.update
      (fun condition : JobCondition => condition.type = type)
      (fun condition => { condition with
        status, message := message.getD condition.message })
      ⟨type, status, ""⟩ job.conditions }

theorem Job.hasCondition_setCondition (job : Job) (type other : JobConditionType)
    (status wanted : ConditionStatus) (message : Option String) :
    (job.setCondition type status message).hasCondition other wanted =
      if type = other then decide (status = wanted)
      else job.hasCondition other wanted := by
  unfold Job.hasCondition Job.setCondition
  by_cases same : type = other
  · subst same
    rw [if_pos rfl, FirstMatch.find?_update_same (by simp) (by simp)]
  · rw [if_neg same, FirstMatch.find?_update_other _ (by simp)]
    intro condition isType
    have typed : condition.type = type := by simpa using isType
    simp [typed, same]

/-- How a machine's BMC is reached. -/
structure Connection where
  host : String := ""
deriving DecidableEq

inductive TaskConditionType where
  | completed
  | failed
  | other (name : String)
deriving DecidableEq

structure TaskCondition where
  type : TaskConditionType
  status : ConditionStatus
  message : String := ""
deriving DecidableEq

structure TaskSpec where
  task : Action := {}
  connection : Connection := {}
deriving DecidableEq

structure TaskStatus where
  conditions : List TaskCondition := []
  (startTime completionTime : Option Api.Time := none)
deriving DecidableEq

/-- A `task.bmc.tinkerbell.org` object. -/
structure Task where
  (name «namespace» : String)
  labels : List (String × String) := []
  ownerReferences : List OwnerReference := []
  deletionTimestamp : Option Api.Time := none
  spec : TaskSpec := {}
  status : TaskStatus := {}
deriving DecidableEq

def TaskStatus.hasCondition (taskStatus : TaskStatus) (type : TaskConditionType)
    (status : ConditionStatus) : Bool :=
  match taskStatus.conditions.find? (fun condition => condition.type = type) with
  | some condition => condition.status = status
  | none => false

def TaskStatus.setCondition (taskStatus : TaskStatus) (type : TaskConditionType)
    (status : ConditionStatus) (message : Option String := none) : TaskStatus :=
  { taskStatus with
    conditions := FirstMatch.update
      (fun condition : TaskCondition => condition.type = type)
      (fun condition => { condition with
        status, message := message.getD condition.message })
      ⟨type, status, ""⟩ taskStatus.conditions }

theorem TaskStatus.hasCondition_setCondition (taskStatus : TaskStatus)
    (type other : TaskConditionType) (status wanted : ConditionStatus)
    (message : Option String) :
    (taskStatus.setCondition type status message).hasCondition other wanted =
      if type = other then decide (status = wanted)
      else taskStatus.hasCondition other wanted := by
  unfold TaskStatus.hasCondition TaskStatus.setCondition
  by_cases same : type = other
  · subst same
    rw [if_pos rfl, FirstMatch.find?_update_same (by simp) (by simp)]
  · rw [if_neg same, FirstMatch.find?_update_other _ (by simp)]
    intro condition isType
    have typed : condition.type = type := by simpa using isType
    simp [typed, same]

def Task.completed (task : Task) : Bool :=
  task.status.hasCondition .completed .true

def Task.failed (task : Task) : Bool :=
  task.status.hasCondition .failed .true

def formatTaskName (job : Job) (index : Nat) : String :=
  job.name ++ "-task-" ++ toString index

inductive PowerState where
  | on
  | off
  | unknown
deriving DecidableEq

inductive MachineConditionType where
  | contactable
  | other (name : String)
deriving DecidableEq

structure MachineCondition where
  type : MachineConditionType
  status : ConditionStatus
  lastUpdateTime : Option Api.Time := none
  message : String := ""
deriving DecidableEq

/-- `power` is `none` until a power state was stored. -/
structure MachineStatus where
  power : Option PowerState := none
  conditions : List MachineCondition := []

/-- A `machine.bmc.tinkerbell.org` object. -/
structure Machine where
  (name «namespace» : String)
  annotations : KeyedMap String String := KeyedMap.empty
  deletionTimestamp : Option Api.Time := none
  connection : Connection := {}
  status : MachineStatus := {}

def MachineStatus.setCondition (machineStatus : MachineStatus) (now : Api.Time)
    (type : MachineConditionType) (status : ConditionStatus) (message : String) :
    MachineStatus :=
  { machineStatus with
    conditions := FirstMatch.update
      (fun condition : MachineCondition => condition.type = type)
      (fun condition =>
        if condition.status = status then { condition with message }
        else { condition with
          status, lastUpdateTime := Api.storedTime now, message })
      ⟨type, status, Api.storedTime now, ""⟩ machineStatus.conditions }

def MachineStatus.condition (machineStatus : MachineStatus)
    (type : MachineConditionType) : Option ConditionStatus :=
  (machineStatus.conditions.find? fun condition => condition.type = type).map
    MachineCondition.status

@[simp] theorem MachineStatus.condition_setCondition (machineStatus : MachineStatus)
    (now : Api.Time) (type : MachineConditionType) (status : ConditionStatus)
    (message : String) :
    (machineStatus.setCondition now type status message).condition type = some status := by
  unfold MachineStatus.condition MachineStatus.setCondition
  rw [FirstMatch.find?_update_same]
  · apply congrArg some
    split
    · next same => exact same
    · rfl
  · intro condition isType
    split <;> exact isType
  · simp

end Tinkerbell.Bmc
