import Tinkerbell.Controller.New
import Tinkerbell.Controller.Post
import Tinkerbell.Controller.Running
import Tinkerbell.Library.MergePatch

/-!
Owns: one reconcile of a workflow, from the status it read to the status it
wants, and the merge patch that carries the difference to the stored object.

The patch has no resource version: it is applied to whatever is stored by then
and writes only the fields in which `updated` differs from `original`.
-/

variable {second : WorkflowStatus}

namespace Tinkerbell.Controller

open Api MergePatch

def mergeAllowNetboot (original updated current : AllowNetbootStatus) :
    AllowNetbootStatus where
  toggledTrue := mergeField original.toggledTrue updated.toggledTrue current.toggledTrue
  toggledFalse :=
    mergeField original.toggledFalse updated.toggledFalse current.toggledFalse

def mergeJobStatus (original updated current : JobStatus) : JobStatus where
  uid := mergeField original.uid updated.uid current.uid
  complete := mergeField original.complete updated.complete current.complete
  existingJobDeleted := mergeField original.existingJobDeleted
    updated.existingJobDeleted current.existingJobDeleted

def mergeBootOptions (original updated current : BootOptionsStatus) :
    BootOptionsStatus where
  allowNetboot := mergeAllowNetboot original.allowNetboot updated.allowNetboot
    current.allowNetboot
  jobs := mergeEntries {} mergeJobStatus original.jobs updated.jobs current.jobs

def mergeCurrentState (original updated current : CurrentState) : CurrentState where
  agentID := mergeField original.agentID updated.agentID current.agentID
  taskID := mergeField original.taskID updated.taskID current.taskID
  actionID := mergeField original.actionID updated.actionID current.actionID
  state := mergeField original.state updated.state current.state
  actionName := mergeField original.actionName updated.actionName current.actionName
  taskName := mergeField original.taskName updated.taskName current.taskName

def mergeStatus (original updated current : WorkflowStatus) : WorkflowStatus where
  agentID := mergeField original.agentID updated.agentID current.agentID
  state := mergeField original.state updated.state current.state
  bootOptions := mergeBootOptions original.bootOptions updated.bootOptions
    current.bootOptions
  templateRendering := mergeField original.templateRendering
    updated.templateRendering current.templateRendering
  globalTimeout := mergeField original.globalTimeout updated.globalTimeout
    current.globalTimeout
  globalExecutionStop := mergeField original.globalExecutionStop
    updated.globalExecutionStop current.globalExecutionStop
  currentState := mergeObject {} mergeCurrentState original.currentState
    updated.currentState current.currentState
  tasks := mergeField original.tasks updated.tasks current.tasks
  conditions := mergeField original.conditions updated.conditions current.conditions

/-- `mergePatchStatus`: the stored status and the error returned. Nothing is
sent when the two statuses are equal. -/
def mergePatchStatus (name : String) (reply : WriteReply)
    (original updated current : WorkflowStatus) : WorkflowStatus × Option String :=
  if updated = original then (current, none)
  else
    (if reply.TookEffect then mergeStatus original updated current else current,
      reply.error.map fun err =>
        "error patching status of workflow: " ++ name ++ ", error: " ++ err)

/-- A reconcile up to its patch. `updated` equals `original` when the code
returns without calling `mergePatchStatus`. -/
structure Reconciled where
  (original updated : WorkflowStatus)
  result : Result := {}
  error : Option String := none
  cluster : Cluster
  events : List Event := []

def reconcileNew (replies : Replies) (cluster : Cluster) (stored : Workflow) :
    Reconciled :=
  let processed := processNewWorkflow replies stored
  -- The agent is the key of the server's index, so it is set even when disabled;
  -- the result and the error of the processing are dropped.
  if stored.spec.disabled = some true then
    { original := stored.status
      updated := { stored.status with agentID := processed.1.agentID }
      cluster }
  else
    { original := stored.status
      updated := processed.1
      result := processed.2.1
      error := processed.2.2
      cluster }

def Reconciled.ofOutcome (original : WorkflowStatus) (outcome : Outcome) :
    Reconciled where
  original
  updated := outcome.state.status
  result := outcome.result
  error := outcome.error
  cluster := outcome.state.cluster
  events := outcome.state.events

def Reconciled.idle (cluster : Cluster) (stored : Workflow) : Reconciled where
  original := stored.status
  updated := stored.status
  cluster

def reconcile (replies : Replies) (cluster : Cluster) (stored : Workflow) :
    Reconciled :=
  if stored.deletionTimestamp ≠ none then .idle cluster stored
  else
    match stored.status.state with
    | .unset => reconcileNew replies cluster stored
    | .preparing =>
      .ofOutcome stored.status (prepareWorkflow replies ⟨stored, cluster, []⟩)
    | .running =>
      let processed := reconcileRunning replies.now stored.status
      { original := stored.status
        updated := processed.1
        result := processed.2
        cluster }
    | .post =>
      .ofOutcome stored.status (postActions replies ⟨stored, cluster, []⟩)
    | .pending | .timeout | .failed | .success => .idle cluster stored
    | .legacyPending =>
      let processed := processWorkflow replies stored
      { original := stored.status
        updated := processed.1
        error := processed.2
        cluster }
    | .other _ => .idle cluster stored

def joinErrors (first second : Option String) : Option String :=
  match first, second with
  | some first, some second => some (first ++ "\n" ++ second)
  | some first, none => some first
  | none, second => second

def Reconciled.returnedError (reconciled : Reconciled) (name : String)
    (reply : WriteReply) : Option String :=
  joinErrors reconciled.error
    (mergePatchStatus name reply reconciled.original reconciled.updated
      reconciled.original).2

theorem mergeAllowNetboot_original (original updated : AllowNetbootStatus) :
    mergeAllowNetboot original updated original = updated := by
  simp [mergeAllowNetboot]

theorem mergeJobStatus_original (original updated : JobStatus) :
    mergeJobStatus original updated original = updated := by
  simp [mergeJobStatus]

theorem mergeCurrentState_original (original updated : CurrentState) :
    mergeCurrentState original updated original = updated := by
  simp [mergeCurrentState]

/-- The first status has the fields of the second that only the controller
writes: all but the state, the current state and the tasks. -/
def SameControllerFields (first second : WorkflowStatus) : Prop :=
  first = { second with
    state := first.state
    currentState := first.currentState
    tasks := first.tasks }

variable {first updated : WorkflowStatus} {stored : Workflow} {cluster : Cluster}
  {replies : Replies} {reconciled : Reconciled}

theorem SameControllerFields.of_common {common : WorkflowStatus}
    (left : SameControllerFields first common) (right : SameControllerFields second common) :
    SameControllerFields first second := by
  unfold SameControllerFields at *
  rw [right, left]

theorem SameControllerFields.globalExecutionStop (same : SameControllerFields first second) :
    first.globalExecutionStop = second.globalExecutionStop := by
  rw [same]

theorem SameControllerFields.bootOptions (same : SameControllerFields first second) :
    first.bootOptions = second.bootOptions := by
  rw [same]

structure Patched (original updated current patched : WorkflowStatus) : Prop where
  agentID : patched.agentID = updated.agentID
  allowNetboot : patched.bootOptions.allowNetboot = updated.bootOptions.allowNetboot
  jobs : ∀ name, patched.bootOptions.jobs.get name = updated.bootOptions.jobs.get name
  globalExecutionStop : patched.globalExecutionStop = updated.globalExecutionStop
  conditions : patched.conditions = updated.conditions
  state : patched.state = mergeField original.state updated.state current.state
  tasks : patched.tasks = mergeField original.tasks updated.tasks current.tasks
  currentState : patched.currentState = mergeObject {} mergeCurrentState
    original.currentState updated.currentState current.currentState

variable {name : String} {reply : WriteReply} {current : WorkflowStatus} {handled : Option String}
  {leaves : State → Prop}

theorem patched_mergePatchStatus {original : WorkflowStatus} (tookEffect : reply.TookEffect)
    (same : SameControllerFields original current) :
    Patched original updated current
      (mergePatchStatus name reply original updated current).1 := by
  unfold mergePatchStatus
  split
  · next unchanged =>
    subst unchanged
    rw [same]
    constructor <;> simp
  · have agentID : current.agentID = original.agentID := by rw [same]
    have bootOptions : current.bootOptions = original.bootOptions := by rw [same]
    have stop : current.globalExecutionStop = original.globalExecutionStop := by rw [same]
    have conditions : current.conditions = original.conditions := by rw [same]
    constructor
    · simp [mergeStatus, agentID]
    · simp [mergeStatus, mergeBootOptions, bootOptions, mergeAllowNetboot_original]
    · intro job
      simp only [mergeStatus, mergeBootOptions, bootOptions, get_mergeEntries]
      exact mergeObject_original mergeJobStatus_original _ _
    · simp [mergeStatus, stop]
    · simp [mergeStatus, conditions]
    · rfl
    · rfl
    · rfl

theorem Patched.state_cases {original patched : WorkflowStatus}
    (written : Patched original updated current patched) :
    patched.state = current.state ∨
      patched.state = updated.state ∧ updated.state ≠ original.state := by
  rw [written.state]
  unfold mergeField
  split
  · exact Or.inl rfl
  · next changed => exact Or.inr ⟨rfl, changed⟩

theorem mergePatchStatus_of_refused (refused : ¬reply.TookEffect)
    (original updated current : WorkflowStatus) :
    (mergePatchStatus name reply original updated current).1 = current := by
  unfold mergePatchStatus
  split
  · rfl
  · rfl

theorem state_mergePatchStatus (name : String) (reply : WriteReply)
    (original updated current : WorkflowStatus) :
    (mergePatchStatus name reply original updated current).1.state =
      if reply.TookEffect then mergeField original.state updated.state current.state
      else current.state := by
  unfold mergePatchStatus
  by_cases unchanged : updated = original
  · simp [unchanged]
  · rw [if_neg unchanged]
    split
    · rfl
    · rfl

@[simp] theorem reconcile_original (replies : Replies) (cluster : Cluster)
    (stored : Workflow) :
    (reconcile replies cluster stored).original = stored.status := by
  unfold reconcile
  split
  · rfl
  · split <;> try rfl
    unfold reconcileNew
    split <;> rfl

inductive Reconciles (replies : Replies) (cluster : Cluster) (stored : Workflow) :
    Reconciled → Prop
  | idle : Reconciles replies cluster stored (.idle cluster stored)
  | preparing (isPreparing : stored.status.state = .preparing) :
      Reconciles replies cluster stored
        (.ofOutcome stored.status (prepareWorkflow replies ⟨stored, cluster, []⟩))
  | running {updated : WorkflowStatus} {result : Result}
      (isRunning : stored.status.state = .running)
      (reconciles : ReconcilesRunning replies.now stored.status updated) :
      Reconciles replies cluster stored
        { original := stored.status
          updated
          result
          cluster }
  | post (isPost : stored.status.state = .post) :
      Reconciles replies cluster stored
        (.ofOutcome stored.status (postActions replies ⟨stored, cluster, []⟩))

theorem reconciles_reconcile (replies : Replies) (cluster : Cluster)
    (notNew : stored.status.state ≠ .unset) (notLegacy : stored.status.state ≠ .legacyPending) :
    Reconciles replies cluster stored (reconcile replies cluster stored) := by
  unfold reconcile
  split
  · exact .idle
  · split
    · next isNew => exact absurd isNew notNew
    · next isPreparing => exact .preparing isPreparing
    · next isRunning =>
      exact .running isRunning (reconcilesRunning_reconcileRunning _ _)
    · next isPost => exact .post isPost
    · exact .idle
    · exact .idle
    · exact .idle
    · exact .idle
    · next isLegacy => exact absurd isLegacy notLegacy
    · exact .idle

theorem status_ofWorks {after : State}
    (works : State.Works handled leaves ⟨stored, cluster, []⟩ after) :
    after.status = { stored.status with
      state := after.status.state
      bootOptions := after.status.bootOptions
      conditions := after.status.conditions } :=
  works.advances.status

theorem Reconciles.server_fields (reconciles : Reconciles replies cluster stored reconciled) :
    reconciled.original = stored.status ∧
      reconciled.updated.tasks = stored.status.tasks ∧
      reconciled.updated.currentState = stored.status.currentState := by
  cases reconciles with
  | idle => exact ⟨rfl, rfl, rfl⟩
  | preparing =>
    have status := status_ofWorks (works_prepareWorkflow replies ⟨stored, cluster, []⟩)
    have tasks := congrArg WorkflowStatus.tasks status
    have currentState := congrArg WorkflowStatus.currentState status
    exact ⟨rfl, tasks, currentState⟩
  | running _ reconciles =>
    have status := reconciles.fields
    have tasks := congrArg WorkflowStatus.tasks status
    have currentState := congrArg WorkflowStatus.currentState status
    exact ⟨rfl, tasks, currentState⟩
  | post =>
    have status := status_ofWorks (works_postActions replies ⟨stored, cluster, []⟩)
    have tasks := congrArg WorkflowStatus.tasks status
    have currentState := congrArg WorkflowStatus.currentState status
    exact ⟨rfl, tasks, currentState⟩

theorem Reconciles.agentID (reconciles : Reconciles replies cluster stored reconciled) :
    reconciled.updated.agentID = stored.status.agentID ∨
      reconciled.updated.agentID = (updateAgentIDIfNeeded stored.status).agentID := by
  cases reconciles with
  | idle => exact Or.inl rfl
  | preparing =>
    have status := status_ofWorks (works_prepareWorkflow replies ⟨stored, cluster, []⟩)
    have agentID := congrArg WorkflowStatus.agentID status
    exact Or.inl agentID
  | running _ reconciles =>
    cases reconciles with
    | timedOut | heldBack => exact Or.inl rfl
    | armed | handedOver => exact Or.inr rfl
  | post =>
    have status := status_ofWorks (works_postActions replies ⟨stored, cluster, []⟩)
    have agentID := congrArg WorkflowStatus.agentID status
    exact Or.inl agentID

def bootJobName (wf : Workflow) : Option String :=
  match wf.status.state with
  | .preparing => preparingJobName wf
  | .post => postJobName wf
  | _ => none

/-- What one reconcile does to the entry and the Job of a name. -/
def StepsJob (stored : Workflow) (cluster : Cluster) (reconciled : Reconciled)
    (name : String) : Prop :=
  JobStep name (stored.status.bootOptions.jobs.get name) (cluster.jobs name)
      (reconciled.updated.bootOptions.jobs.get name) (reconciled.cluster.jobs name)
      (jobEvents name reconciled.events) ∧
    (jobEvents name reconciled.events ≠ [] → bootJobName stored = some name)

theorem stepsJob_ofWorks {outcome : Outcome}
    (works : State.Works handled leaves ⟨stored, cluster, []⟩ outcome.state)
    (isHandled : bootJobName stored = handled) (name : String) :
    StepsJob stored cluster (.ofOutcome stored.status outcome) name := by
  obtain ⟨events, appended, follows⟩ := works.steps
  have isEvents : (Reconciled.ofOutcome stored.status outcome).events = events := appended
  unfold StepsJob
  rw [isEvents, isHandled]
  exact follows name

theorem Reconciles.stepsJob (reconciles : Reconciles replies cluster stored reconciled)
    (name : String) :
    StepsJob stored cluster reconciled name := by
  cases reconciles with
  | idle => exact ⟨.idle (by simp [jobEvents, Reconciled.idle]), fun traced => absurd rfl traced⟩
  | preparing isPreparing =>
    exact stepsJob_ofWorks (works_prepareWorkflow replies _)
      (by simp [bootJobName, isPreparing]) name
  | running _ reconciles =>
    have bootOptions := congrArg WorkflowStatus.bootOptions reconciles.fields
    unfold StepsJob
    rw [bootOptions]
    exact ⟨.idle (by simp [jobEvents]), fun traced => absurd rfl traced⟩
  | post isPost =>
    exact stepsJob_ofWorks (works_postActions replies _)
      (by simp [bootJobName, isPost]) name

/-- The state a reconcile reads and the state it wants. -/
inductive ControllerMove : WorkflowState → WorkflowState → Prop
  | stay (state : WorkflowState) : ControllerMove state state
  | prepare : ControllerMove .unset .preparing
  | start : ControllerMove .unset .pending
  | prepared : ControllerMove .preparing .pending
  | failPreparing : ControllerMove .preparing .failed
  | timeOut : ControllerMove .running .timeout
  | failPost : ControllerMove .post .failed
  | succeed : ControllerMove .post .success

section Targets

variable {original wanted : WorkflowState} (move : ControllerMove original wanted)
  (changed : wanted ≠ original)
include move changed

theorem ControllerMove.not_legacy : wanted ≠ .legacyPending := by
  cases move with
  | stay => exact absurd rfl changed
  | prepare | start | prepared | failPreparing | timeOut | failPost | succeed => simp

theorem ControllerMove.not_unset : wanted ≠ .unset := by
  cases move with
  | stay => exact absurd rfl changed
  | prepare | start | prepared | failPreparing | timeOut | failPost | succeed => simp

theorem ControllerMove.not_post : wanted ≠ .post := by
  cases move with
  | stay => exact absurd rfl changed
  | prepare | start | prepared | failPreparing | timeOut | failPost | succeed => simp

end Targets

structure Unprocessed (status : WorkflowStatus) : Prop where
  allowNetboot : status.bootOptions.allowNetboot = {}
  jobs : ∀ name, status.bootOptions.jobs.get name = none
  currentState : status.currentState = none

/-- A reconcile of a new workflow: its template was not rendered, or the status
of the rendered definition replaces everything and the first state is chosen. -/
inductive ReconcilesNew (replies : Replies) (stored : Workflow) :
    WorkflowStatus → Prop
  | unrendered {updated : WorkflowStatus}
      (state : updated.state = stored.status.state)
      (bootOptions : updated.bootOptions = stored.status.bootOptions)
      (currentState : updated.currentState = stored.status.currentState) :
      ReconcilesNew replies stored updated
  | preparing {wf : Template.Workflow} (accepted : renderTemplateHardware replies = .ok wf) :
      ReconcilesNew replies stored { renderedStatus replies wf with state := .preparing }
  | pending {wf : Template.Workflow} (accepted : renderTemplateHardware replies = .ok wf)
      (noToggle : stored.spec.bootOptions.toggleAllowNetboot = false)
      (noBootMode : stored.spec.bootOptions.bootMode = .unset) :
      ReconcilesNew replies stored { renderedStatus replies wf with state := .pending }

theorem reconcilesNew_reconcileNew (replies : Replies) (cluster : Cluster)
    (stored : Workflow) :
    ReconcilesNew replies stored (reconcileNew replies cluster stored).updated := by
  have processes := processes_processWorkflow replies stored
  unfold reconcileNew processNewWorkflow
  simp only
  split
  · exact .unrendered rfl rfl rfl
  · generalize processWorkflow replies stored = processed at processes ⊢
    obtain ⟨_, _⟩ := processed
    cases processes with
    | failed message =>
      have fields := renderingFailed_eq replies stored.status message
      have state := congrArg WorkflowStatus.state fields
      have bootOptions := congrArg WorkflowStatus.bootOptions fields
      have currentState := congrArg WorkflowStatus.currentState fields
      exact .unrendered state bootOptions currentState
    | rendered accepted =>
      simp only
      split
      · exact .preparing accepted
      · next notDue =>
        simp only [not_or, Bool.not_eq_true, not_not] at notDue
        exact .pending accepted notDue.1 notDue.2

theorem reconcilesNew_reconcile (replies : Replies) (cluster : Cluster)
    (isNew : stored.status.state = .unset) :
    ReconcilesNew replies stored (reconcile replies cluster stored).updated := by
  unfold reconcile
  split
  · exact .unrendered rfl rfl rfl
  · simp only [isNew]
    exact reconcilesNew_reconcileNew replies cluster stored

theorem reconcile_of_new (replies : Replies) (cluster : Cluster)
    (isNew : stored.status.state = .unset) :
    (reconcile replies cluster stored).cluster = cluster ∧
      (reconcile replies cluster stored).events = [] := by
  unfold reconcile
  split
  · exact ⟨rfl, rfl⟩
  · simp only [isNew, reconcileNew]
    split <;> exact ⟨rfl, rfl⟩

theorem ReconcilesNew.unprocessed (reconciles : ReconcilesNew replies stored updated)
    (unprocessed : Unprocessed stored.status) : Unprocessed updated := by
  cases reconciles with
  | unrendered _ bootOptions currentState =>
    refine ⟨?_, ?_, currentState.trans unprocessed.currentState⟩
    · rw [bootOptions]
      exact unprocessed.allowNetboot
    · rw [bootOptions]
      exact unprocessed.jobs
  | preparing accepted | pending accepted => exact ⟨rfl, fun _ => rfl, rfl⟩

theorem ReconcilesNew.controllerMove (reconciles : ReconcilesNew replies stored updated)
    (isNew : stored.status.state = .unset) : ControllerMove .unset updated.state := by
  cases reconciles with
  | unrendered state =>
    rw [state, isNew]
    exact .stay .unset
  | preparing => exact .prepare
  | pending => exact .start

theorem Reconciles.controllerMove (reconciles : Reconciles replies cluster stored reconciled)
    (post : stored.status.state = .post → ∃ currentState,
      stored.status.currentState = some currentState ∧ currentState.state = .success) :
    ControllerMove stored.status.state reconciled.updated.state := by
  cases reconciles with
  | idle => exact .stay _
  | preparing isPreparing =>
    have works := works_prepareWorkflow replies ⟨stored, cluster, []⟩
    simp only [Reconciled.ofOutcome]
    rcases works.state with same | failed | left
    · rw [same]
      exact .stay _
    · rw [failed, isPreparing]
      exact .failPreparing
    · rw [left.1.1, isPreparing]
      exact .prepared
  | running isRunning reconciles =>
    rcases reconciles.state with same | timedOut
    · rw [same]
      exact .stay _
    · rw [timedOut.1, isRunning]
      exact .timeOut
  | post isPost =>
    obtain ⟨success, isCurrent, succeeded⟩ := post isPost
    have works := works_postActions replies ⟨stored, cluster, []⟩
    simp only [Reconciled.ofOutcome]
    rcases works.state with same | failed | left
    · rw [same]
      exact .stay _
    · rw [failed, isPost]
      exact .failPost
    · obtain ⟨⟨adopted, isAdopted, entered⟩, _⟩ := left
      obtain rfl : success = adopted :=
        Option.some.inj (isCurrent.symm.trans isAdopted)
      rw [entered, isPost, succeeded]
      exact .succeed

end Tinkerbell.Controller
