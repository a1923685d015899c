import Tinkerbell.Api.Hardware
import Tinkerbell.Template.Convert

/-!
Owns: what a reconcile of the workflow controller sees of the cluster and what
it does to it: the Jobs by name, the answers of the API server to each call it
makes, and the log of the writes that took effect.

Everything a reconcile does not control is a field of `Replies`: the clock, the
objects its reads return, whether a write is done, refused, or done although
its answer is lost. Objects of other kinds than Job are only ever read through
such a reply, so any number of other writers may act on them in between.
-/

namespace Tinkerbell.Controller

open Api

/-- `reconcile.Result`. -/
structure Result where
  requeue : Bool := false
  requeueAfter : Option Duration := none
deriving DecidableEq

/-- How the API server answers a write. -/
inductive WriteReply where
  | done
  | refused (err : String)
  | lost (err : String)
deriving DecidableEq

def WriteReply.error : WriteReply → Option String
  | .done => none
  | .refused err => some err
  | .lost err => some err

/-- The write took effect. -/
def WriteReply.TookEffect : WriteReply → Prop
  | .refused _ => False
  | _ => True

def WriteReply.isLost : WriteReply → Bool
  | .lost _ => true
  | _ => false

instance (reply : WriteReply) : Decidable reply.TookEffect := by
  unfold WriteReply.TookEffect
  cases reply <;> infer_instance

inductive UpdateReply where
  | accepted
  | conflict
  | failed (err : String)

structure UpdateAttempt where
  read : Except String Hardware
  update : UpdateReply

inductive ReadError where
  | notFound (err : String)
  | other (err : String)

def ReadError.text : ReadError → String
  | .notFound err => err
  | .other err => err

/-- Everything one reconcile learns from its surroundings. -/
structure Replies where
  now : Time
  /-- `processWorkflow`: the Template, the Hardware, the text of the data the
  template is rendered with, and the decoded rendering. -/
  template : Except ReadError String
  templateHardware : Except ReadError Hardware
  referenceError : Option String
  hardwareData : String
  decoded : Except String Template.Workflow
  imageError : String → Option String
  ids : Template.IdSource
  /-- `toggleHardware` and the attempts of `setAllowPXE`. -/
  toggleHardware : Except String Hardware
  attempt : Nat → UpdateAttempt
  /-- The boot modes: the Hardware and the rendering of media URLs. -/
  bootHardware : Except String Hardware
  render : String → HardwareSpec → Except String String
  /-- `deleteExisting`. -/
  (deleteTasks deleteJob : WriteReply)
  /-- A read of the Job that fails although the Job may exist. -/
  getJobError : Option String
  /-- `createJob`. -/
  jobHardware : Except String Hardware
  createJob : WriteReply
  newUID : String

/-- The Jobs in the namespace of the workflow, by name. -/
structure Cluster where
  jobs : String → Option Bmc.Job

/-- A write of the controller that took effect. -/
inductive Event where
  | hardwareUpdated (hardware : Hardware)
  | tasksDeleted (ownerName : String)
  | jobDeleted (name : String) (uid : Option String)
  | jobCreated (name : String) (uid : String)
deriving DecidableEq

def Cluster.setJob (cluster : Cluster) (name : String) (job : Option Bmc.Job) :
    Cluster where
  jobs := fun other => if other = name then job else cluster.jobs other

@[simp] theorem Cluster.setJob_same (cluster : Cluster) (name : String)
    (job : Option Bmc.Job) : (cluster.setJob name job).jobs name = job := by
  simp [setJob]

theorem Cluster.setJob_other (cluster : Cluster) {name other : String}
    (job : Option Bmc.Job) (different : other ≠ name) :
    (cluster.setJob name job).jobs other = cluster.jobs other := by
  simp [setJob, different]

def deletedJob (now : Time) (job : Bmc.Job) : Option Bmc.Job :=
  if job.finalizers = [] then none
  else some { job with deletionTimestamp := some (job.deletionTimestamp.getD now) }

def Cluster.deleteJob (cluster : Cluster) (now : Time) (name : String) : Cluster :=
  cluster.setJob name ((cluster.jobs name).bind (deletedJob now))

def Cluster.getJob (cluster : Cluster) (replies : Replies) (name : String) :
    Except String Bmc.Job :=
  match replies.getJobError with
  | some err => .error err
  | none =>
    match cluster.jobs name with
    | some job => .ok job
    | none => .error ("jobs.bmc.tinkerbell.org \"" ++ name ++ "\" not found")

structure State where
  workflow : Workflow
  cluster : Cluster
  events : List Event := []

/-- What a step of a reconcile returns. -/
structure Outcome where
  state : State
  result : Result := {}
  error : Option String := none

def State.status (state : State) : WorkflowStatus := state.workflow.status

def State.setStatus (state : State) (status : WorkflowStatus) : State :=
  { state with workflow := { state.workflow with status } }

def State.setWorkflowState (state : State) (workflowState : WorkflowState) : State :=
  state.setStatus { state.status with state := workflowState }

def State.setJobStatus (state : State) (name : String) (job : JobStatus) : State :=
  state.setStatus { state.status with
    bootOptions := { state.status.bootOptions with
      jobs := state.status.bootOptions.jobs.set name job } }

def State.setCluster (state : State) (cluster : Cluster) : State :=
  { state with cluster }

def State.log (state : State) (event : Event) : State :=
  { state with events := state.events ++ [event] }

def State.setCondition (state : State) (condition : WorkflowCondition) : State :=
  state.setStatus (state.status.setCondition condition)

def State.setConditionIfDifferent (state : State)
    (condition : WorkflowCondition) : State :=
  state.setStatus (state.status.setConditionIfDifferent condition)

def conditionAt (now : Time) (type : WorkflowConditionType)
    (status : ConditionStatus) (reason message : String) : WorkflowCondition where
  type
  status
  reason
  message
  time := storedTime now

def reasonError : String := "Error"

end Tinkerbell.Controller
