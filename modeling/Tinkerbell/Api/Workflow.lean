import Tinkerbell.Api.Bmc

/-!
Owns: the `workflow.tinkerbell.org` object: states, boot options, tasks and
actions, the observed status, and the two ways a condition is recorded in it.
-/

namespace Tinkerbell.Api

/-- `WorkflowState`: the declared states, the empty state of a new object, the
deprecated pending state, and any other text. -/
inductive WorkflowState where
  | unset
  | preparing
  | pending
  | running
  | post
  | success
  | failed
  | timeout
  | legacyPending
  | other (text : String)
deriving DecidableEq

inductive BootMode where
  | unset
  | netboot
  | iso
  | isoboot
  | customboot
  | other (text : String)
deriving DecidableEq

structure ActionNamespaces where
  (network pid : String := "")
deriving DecidableEq

/-- One workflow action and what the agent last reported about it. -/
structure Action where
  id : String
  (name image : String := "")
  timeout : Int := 0
  (command volumes : List String := [])
  pid : String := ""
  namespaces : Option ActionNamespaces := none
  environment : KeyedMap String String := KeyedMap.empty
  state : WorkflowState := .unset
  (executionStart executionStop : Option Time := none)
  (executionDuration message : String := "")
deriving DecidableEq

/-- The actions one agent has to run, in order. -/
structure Task where
  (id name agentID : String)
  actions : List Action
  volumes : List String := []
  environment : KeyedMap String String := KeyedMap.empty
deriving DecidableEq

def flatActions (tasks : List Task) : List Action :=
  tasks.flatMap Task.actions

structure CurrentState where
  (agentID taskID actionID : String := "")
  state : WorkflowState := .unset
  (actionName taskName : String := "")
deriving DecidableEq

/-- What the controller recorded about one BMC Job. -/
structure JobStatus where
  uid : String := ""
  (complete existingJobDeleted : Bool := false)
deriving DecidableEq

structure AllowNetbootStatus where
  (toggledTrue toggledFalse : Bool := false)
deriving DecidableEq

structure BootOptionsStatus where
  allowNetboot : AllowNetbootStatus := {}
  jobs : KeyedMap String JobStatus := KeyedMap.empty
deriving DecidableEq

inductive TemplateRendering where
  | unset
  | successful
  | failed
deriving DecidableEq

inductive WorkflowConditionType where
  | bootJobFailed
  | bootJobComplete
  | bootJobRunning
  | bootJobSetupFailed
  | bootJobSetupComplete
  | toggleAllowNetbootTrue
  | toggleAllowNetbootFalse
  | templateRenderedSuccess
  | other (name : String)
deriving DecidableEq

inductive ConditionStatus where
  | true
  | false
  | unknown
  | other (name : String)
deriving DecidableEq

structure WorkflowCondition where
  type : WorkflowConditionType
  status : ConditionStatus
  (reason message : String := "")
  time : Option Time := none
deriving DecidableEq

structure WorkflowStatus where
  agentID : String := ""
  state : WorkflowState := .unset
  bootOptions : BootOptionsStatus := {}
  templateRendering : TemplateRendering := .unset
  globalTimeout : Int := 0
  globalExecutionStop : Option Time := none
  currentState : Option CurrentState := none
  tasks : List Task := []
  conditions : List WorkflowCondition := []
deriving DecidableEq

structure CustombootConfig where
  (preparingActions postActions : List Bmc.Action := [])
deriving DecidableEq

structure BootOptions where
  toggleAllowNetboot : Bool := false
  isoURL : String := ""
  bootMode : BootMode := .unset
  custombootConfig : CustombootConfig := {}
deriving DecidableEq

structure WorkflowSpec where
  disabled : Option Bool := none
  (templateRef hardwareRef : String := "")
  hardwareMap : KeyedMap String String := KeyedMap.empty
  bootOptions : BootOptions := {}
deriving DecidableEq

structure Workflow where
  apiVersion : String := "tinkerbell.org/v1alpha1"
  kind : String := "Workflow"
  (name «namespace» : String)
  uid : String := ""
  (labels annotations : KeyedMap String String := KeyedMap.empty)
  ownerReferences : List Bmc.OwnerReference := []
  deletionTimestamp : Option Time := none
  spec : WorkflowSpec := {}
  status : WorkflowStatus := {}
deriving DecidableEq

/-- The job entry a Go map read gives: absent keys read as the zero value. -/
def WorkflowStatus.job (status : WorkflowStatus) (name : String) : JobStatus :=
  (status.bootOptions.jobs.get name).getD {}

def replaceCondition (condition : WorkflowCondition) :
    List WorkflowCondition → List WorkflowCondition
  | [] => [condition]
  | head :: rest =>
    if head.type = condition.type then condition :: rest
    else head :: replaceCondition condition rest

def WorkflowStatus.setCondition (status : WorkflowStatus)
    (condition : WorkflowCondition) : WorkflowStatus :=
  { status with conditions := replaceCondition condition status.conditions }

def WorkflowStatus.setConditionIfDifferent (status : WorkflowStatus)
    (condition : WorkflowCondition) : WorkflowStatus :=
  match status.conditions.find? (fun existing => existing.type = condition.type) with
  | some existing =>
    if existing.status = condition.status ∧ existing.reason = condition.reason ∧
        existing.message = condition.message then status
    else status.setCondition condition
  | none => status.setCondition condition

end Tinkerbell.Api
