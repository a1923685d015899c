import Mathlib.Data.List.Induction
import Tinkerbell.Controller.Reconcile
import Tinkerbell.Library.TransitionSystem
import Tinkerbell.Library.VersionedStore
import Tinkerbell.Server.ReportActionStatus

/-!
Owns: the system around one workflow object: the agents that run its actions,
the server handlers working for them, the controller, and the boot Jobs.

Every handler call and every reconcile is split at its read and its write, so
that a run is an arbitrary interleaving of reads and writes. A server write is
accepted only against the version it read; the patch of the controller carries
no version. One agent identifier is one sequential client: it has at most one
call outstanding, reports on the action it was last served, first RUNNING and
then one outcome, and a restart drops whatever call was outstanding.

`Inductive.run` packages the induction over runs: an invariant is checked once
for each kind of effect, with every accepted server write already known to act
on the stored workflow.
-/

namespace Tinkerbell.System

open Api Server Controller TransitionSystem

structure Holding where
  response : ActionResponse
  reportedRunning : Bool := false

inductive Request where
  | getAction
  | report (request : ActionStatusRequest)
deriving DecidableEq

structure Call where
  request : Request
  read : Option (Versioned Workflow) := none

structure Agent where
  holding : Option Holding := none
  call : Option Call := none

/-- `controller` holds a reconcile between its read and its patch, `log` the
writes of the controller that took effect on other objects. -/
structure World where
  stored : Versioned Workflow
  agents : String → Agent
  controller : Option Reconciled
  cluster : Cluster
  log : List Event

def World.start (wf : Workflow) (cluster : Cluster) : World where
  stored := ⟨wf, 0⟩
  agents := fun _ => {}
  controller := none
  cluster
  log := []

abbrev World.status (world : World) : WorkflowStatus := world.stored.value.status

/-- What a report says about the run of an action. -/
structure ReportDetails where
  (executionStart executionStop : Option Time := none)
  (executionDuration message : String := "")

/-- What others do to a Job: the BMC controller sets its conditions, a Job
marked for deletion goes away, somebody removes it. -/
inductive JobEvent where
  | conditionsSet (name : String) (conditions : List Bmc.JobCondition)
  | finalized (name : String)
  | removed (name : String)

inductive Label where
  | ask (agentID : String)
  | report (agentID : String) (state : StateType) (details : ReportDetails)
  | read (agentID : String)
  | write (agentID : String)
  | beginReconcile (replies : Replies)
  | patch (reply : WriteReply)
  | job (event : JobEvent)

def World.setAgent (world : World) (agentID : String) (agent : Agent) : World :=
  { world with agents := fun other =>
      if other = agentID then agent else world.agents other }

/-- RUNNING comes first, then one outcome. -/
def Holding.MayReport (holding : Holding) (state : StateType) : Prop :=
  if holding.reportedRunning then
    state = .success ∨ state = .failed ∨ state = .timeout
  else state = .running

instance (holding : Holding) (state : StateType) :
    Decidable (holding.MayReport state) := by
  unfold Holding.MayReport
  infer_instance

def reportRequest (agentID : String) (response : ActionResponse)
    (state : StateType) (details : ReportDetails) : ActionStatusRequest where
  workflowId := response.workflowId
  agentId := agentID
  taskId := response.taskId
  actionId := response.actionId
  actionName := response.name
  actionState := state
  executionStart := details.executionStart
  executionStop := details.executionStop
  executionDuration := details.executionDuration
  message := details.message

def reporting (agentID : String) (holding : Holding) (state : StateType)
    (details : ReportDetails) : Agent :=
  let request := reportRequest agentID holding.response state details
  { holding := some holding, call := some { request := .report request } }

def listWorkflows (agentID : String) (wf : Workflow) : List Workflow :=
  if agentID ≠ "" ∧ wf.status.agentID = agentID then [wf] else []

def readWorkflow (wf : Workflow) (name «namespace» : String) :
    Except String Workflow :=
  if name = wf.name ∧ «namespace» = wf.namespace then .ok wf
  else .error ("workflows.tinkerbell.org \"" ++ name ++ "\" not found")

def afterReport (request : ActionStatusRequest) (holding : Option Holding) :
    Option Holding :=
  if request.actionState = .running then
    holding.map fun holding => { holding with reportedRunning := true }
  else none

/-- One attempt of a handler on the workflow it read: the workflow to write and
what the agent holds once the write is accepted. -/
def attempt (agentID : String) (holding : Option Holding) (wf : Workflow) :
    Request → Except GrpcError (Workflow × Option Holding)
  | .getAction =>
    match doGetAction agentID (listWorkflows agentID wf) with
    | .error err => .error err
    | .ok (written, response) => .ok (written, some { response })
  | .report request =>
    match doReportActionStatus (readWorkflow wf) request with
    | .error err => .error err
    | .ok written => .ok (written, afterReport request holding)

def World.setRead (world : World) (agentID : String)
    (read : Option (Versioned Workflow)) : World :=
  match (world.agents agentID).call with
  | none => world
  | some call => world.setAgent agentID
      { world.agents agentID with call := some { call with read } }

def World.accept (world : World) (agentID : String) (stored : Versioned Workflow)
    (holding : Option Holding) : World :=
  { world with stored }.setAgent agentID { holding }

def World.write (world : World) (agentID : String) : World :=
  match (world.agents agentID).call with
  | some ⟨request, some read⟩ =>
    match attempt agentID (world.agents agentID).holding read.value request with
    | .error _ => world.setRead agentID none
    | .ok (written, holding) =>
      match world.stored.compareAndSwap read written with
      | none => world.setRead agentID none
      | some stored => world.accept agentID stored holding
  | _ => world

/-- A reconcile from its read to just before its patch. One that is still
outstanding is lost with the controller that ran it. -/
def World.beginReconcile (world : World) (replies : Replies) : World :=
  let reconciled := reconcile replies world.cluster world.stored.value
  { world with
    controller := some reconciled
    cluster := reconciled.cluster
    log := world.log ++ reconciled.events }

def patchedWorkflow (reconciled : Reconciled) (reply : WriteReply)
    (wf : Workflow) : Workflow :=
  { wf with status := (mergePatchStatus wf.name reply reconciled.original
      reconciled.updated wf.status).1 }

def World.applyPatch (world : World) (reconciled : Reconciled)
    (reply : WriteReply) : World :=
  { world with
    stored := world.stored.put (patchedWorkflow reconciled reply world.stored.value)
    controller := none }

def applyJobEvent (cluster : Cluster) : JobEvent → Cluster
  | .conditionsSet name conditions =>
    cluster.setJob name ((cluster.jobs name).map fun job =>
      { job with conditions })
  | .finalized name =>
    cluster.setJob name ((cluster.jobs name).filter fun job =>
      job.deletionTimestamp = none)
  | .removed name => cluster.setJob name none

def World.report (world : World) (agentID : String) (state : StateType)
    (details : ReportDetails) : World :=
  match (world.agents agentID).holding, (world.agents agentID).call with
  | some holding, none =>
    if holding.MayReport state then
      world.setAgent agentID (reporting agentID holding state details)
    else world
  | _, _ => world

def World.patch (world : World) (reply : WriteReply) : World :=
  match world.controller with
  | some reconciled => world.applyPatch reconciled reply
  | none => world

def step (world : World) : Label → World
  | .ask agentID => world.setAgent agentID { call := some { request := .getAction } }
  | .report agentID state details => world.report agentID state details
  | .read agentID => world.setRead agentID (some world.stored)
  | .write agentID => world.write agentID
  | .beginReconcile replies => world.beginReconcile replies
  | .patch reply => world.patch reply
  | .job event => { world with cluster := applyJobEvent world.cluster event }

def reconcileAtomically (world : World) (replies : Replies) (reply : WriteReply) :
    World :=
  step (step world (.beginReconcile replies)) (.patch reply)

@[simp] theorem agents_setAgent (world : World) (agentID other : String)
    (agent : Agent) :
    (world.setAgent agentID agent).agents other =
      if other = agentID then agent else world.agents other := rfl

@[simp] theorem stored_accept (world : World) (agentID : String)
    (stored : Versioned Workflow) (holding : Option Holding) :
    (world.accept agentID stored holding).stored = stored := rfl

@[simp] theorem agents_accept (world : World) (agentID other : String)
    (stored : Versioned Workflow) (holding : Option Holding) :
    (world.accept agentID stored holding).agents other =
      if other = agentID then { holding } else world.agents other := rfl

variable {world : World} {invariant : World → Prop}

variable {agentID : String} {reconciled : Reconciled} {label : Label} {start : World}
  {labels : List Label} {condition : World → Label → Prop}

theorem agents_accept_of_inFlight {other : String} {stored : Versioned Workflow}
    {holding : Option Holding} {call : Call}
    (inFlight : ((world.accept agentID stored holding).agents other).call = some call) :
    (world.accept agentID stored holding).agents other = world.agents other := by
  rw [agents_accept] at inFlight ⊢
  split at inFlight
  · cases inFlight
  · next different => exact if_neg different

@[simp] theorem value_applyPatch (world : World) (reconciled : Reconciled)
    (reply : WriteReply) :
    (world.applyPatch reconciled reply).stored.value =
      patchedWorkflow reconciled reply world.stored.value :=
  Versioned.put_value _ _

theorem status_applyPatch (world : World) (reconciled : Reconciled)
    (reply : WriteReply) :
    (world.applyPatch reconciled reply).status =
      (mergePatchStatus world.stored.value.name reply reconciled.original
        reconciled.updated world.status).1 := by
  rw [World.status, value_applyPatch, patchedWorkflow]

theorem step_patch (pending : world.controller = some reconciled) (reply : WriteReply) :
    step world (.patch reply) = world.applyPatch reconciled reply := by
  change world.patch reply = _
  rw [World.patch, pending]

@[simp] theorem controller_setRead (world : World) (agentID : String)
    (read : Option (Versioned Workflow)) :
    (world.setRead agentID read).controller = world.controller := by
  unfold World.setRead
  split <;> rfl

@[simp] theorem stored_setRead (world : World) (agentID : String)
    (read : Option (Versioned Workflow)) :
    (world.setRead agentID read).stored = world.stored := by
  unfold World.setRead
  split <;> rfl

theorem stored_step (noWrite : ∀ agentID, label ≠ .write agentID)
    (noPatch : ∀ reply, label ≠ .patch reply) :
    (step world label).stored = world.stored := by
  cases label with
  | ask | beginReconcile | job => rfl
  | read => exact stored_setRead world _ _
  | report agentID state details =>
    change (world.report agentID state details).stored = _
    unfold World.report
    split
    · split <;> rfl
    · rfl
  | write agentID => exact absurd rfl (noWrite agentID)
  | patch reply => exact absurd rfl (noPatch reply)

theorem controller_step (world : World) (label : Label) :
    (step world label).controller =
      match label with
      | .beginReconcile replies =>
        some (reconcile replies world.cluster world.stored.value)
      | .patch _ => none
      | _ => world.controller := by
  cases label with
  | ask | beginReconcile | job => rfl
  | read => exact controller_setRead world _ _
  | report agentID state details =>
    change (world.report agentID state details).controller = _
    unfold World.report
    split
    · split <;> rfl
    · rfl
  | write agentID =>
    change (world.write agentID).controller = _
    unfold World.write
    split
    · split
      · exact controller_setRead world _ _
      · split
        · exact controller_setRead world _ _
        · rfl
    · rfl
  | patch reply =>
    change (world.patch reply).controller = _
    unfold World.patch
    split
    · rfl
    · assumption

theorem controller_origin (idle : start.controller = none)
    (pending : (run step start labels).controller = some reconciled) :
    ∃ before replies middle, labels = before ++ .beginReconcile replies :: middle ∧
      reconciled = reconcile replies (run step start before).cluster
        (run step start before).stored.value := by
  induction labels using List.reverseRecOn with
  | nil =>
    rw [run_nil, idle] at pending
    cases pending
  | append_singleton before label ih =>
    rw [run_append, run_cons, run_nil, controller_step] at pending
    have earlier : (run step start before).controller = some reconciled →
        ∃ first replies middle,
          before ++ [label] = first ++ .beginReconcile replies :: middle ∧
          reconciled = reconcile replies (run step start first).cluster
            (run step start first).stored.value := by
      intro wasPending
      obtain ⟨first, replies, middle, split, isBegun⟩ := ih wasPending
      exact ⟨first, replies, middle ++ [label], by simp [split], isBegun⟩
    cases label with
    | beginReconcile replies =>
      cases pending
      exact ⟨before, replies, [], rfl, rfl⟩
    | patch => cases pending
    | ask | report | read | write | job => exact earlier pending

/-- The changes of an agent that leave the stored workflow alone. -/
inductive Prepares (world : World) : Label → String → Agent → Prop
  | ask (agentID : String) :
      Prepares world (.ask agentID) agentID { call := some { request := .getAction } }
  | report {agentID : String} {holding : Holding} {state : StateType}
      (details : ReportDetails)
      (held : (world.agents agentID).holding = some holding)
      (mayReport : holding.MayReport state) :
      Prepares world (.report agentID state details) agentID
        (reporting agentID holding state details)
  | setRead {agentID : String} {call : Call} (label : Label)
      (inFlight : (world.agents agentID).call = some call)
      (read : Option (Versioned Workflow))
      (current : ∀ snapshot, read = some snapshot → snapshot = world.stored) :
      Prepares world label agentID
        { world.agents agentID with call := some { call with read } }

structure Inductive (condition : World → Label → Prop) (invariant : World → Prop) :
    Prop where
  prepare : ∀ world label agentID agent, invariant world → condition world label →
    Prepares world label agentID agent → invariant (world.setAgent agentID agent)
  accept : ∀ world agentID call written holding, invariant world →
    condition world (.write agentID) →
    (world.agents agentID).call = some call →
    attempt agentID (world.agents agentID).holding world.stored.value call.request =
      .ok (written, holding) →
    invariant (world.accept agentID (world.stored.put written) holding)
  beginReconcile : ∀ world replies, invariant world →
    condition world (.beginReconcile replies) → invariant (world.beginReconcile replies)
  patch : ∀ world reply reconciled, invariant world → condition world (.patch reply) →
    world.controller = some reconciled → invariant (world.applyPatch reconciled reply)
  job : ∀ world event, invariant world → condition world (.job event) →
    invariant { world with cluster := applyJobEvent world.cluster event }

/-- Every read of a call in flight is one the store handed out. -/
def CoherentReads (world : World) : Prop :=
  ∀ agentID call read, (world.agents agentID).call = some call →
    call.read = some read → Versioned.Coherent world.stored read

theorem coherentReads_start (wf : Workflow) (cluster : Cluster) :
    CoherentReads (World.start wf cluster) := by
  intro agentID call read inFlight
  cases inFlight

private theorem coherentReads_setAgent {agent : Agent} (coherent : CoherentReads world)
    (new : ∀ call read, agent.call = some call → call.read = some read →
      Versioned.Coherent world.stored read) :
    CoherentReads (world.setAgent agentID agent) := by
  intro other call read inFlight isRead
  rw [agents_setAgent] at inFlight
  split at inFlight
  · exact new call read inFlight isRead
  · exact coherent other call read inFlight isRead

theorem coherentReads_put (coherent : CoherentReads world) (written : Workflow) :
    CoherentReads { world with stored := world.stored.put written } := by
  intro other call read inFlight isRead
  exact (coherent other call read inFlight isRead).put written

theorem inductive_coherentReads : Inductive (fun _ _ => True) CoherentReads where
  prepare world label agentID agent coherent _ prepares := by
    apply coherentReads_setAgent coherent
    intro call read inFlight isRead
    cases prepares with
    | ask | report =>
      cases inFlight
      cases isRead
    | setRead _ _ _ current =>
      cases inFlight
      rw [current read isRead]
      exact Versioned.Coherent.refl world.stored
  accept world agentID call written holding coherent _ _ _ := by
    apply coherentReads_setAgent (coherentReads_put coherent written)
    intro call read inFlight
    cases inFlight
  beginReconcile world replies coherent _ := coherent
  patch world reply reconciled coherent _ _ := coherentReads_put coherent _
  job world event coherent _ := coherent

theorem World.write_cases (world : World) (agentID : String)
    (coherent : CoherentReads world) :
    world.write agentID = world ∨ world.write agentID = world.setRead agentID none ∨
      ∃ call written holding, (world.agents agentID).call = some call ∧
        attempt agentID (world.agents agentID).holding world.stored.value
          call.request = .ok (written, holding) ∧
        world.write agentID = world.accept agentID (world.stored.put written) holding := by
  unfold World.write
  split
  · next request read inFlight =>
    split
    · exact Or.inr (Or.inl rfl)
    · next written holding attempted =>
      split
      · exact Or.inr (Or.inl rfl)
      · next _ swapped =>
        have isCoherent := coherent agentID _ read inFlight rfl
        obtain ⟨sameValue, rfl⟩ :=
          Versioned.compareAndSwap_eq_some isCoherent swapped
        rw [sameValue] at attempted
        exact Or.inr (Or.inr ⟨⟨request, some read⟩, written, holding, inFlight, attempted, rfl⟩)
  · exact Or.inl rfl

theorem Inductive.step (keeps : Inductive condition invariant) (coherent : CoherentReads world)
    (holds : invariant world) (meets : condition world label) :
    invariant (step world label) := by
  have setRead : ∀ agentID read,
      (∀ snapshot, read = some snapshot → snapshot = world.stored) →
      invariant (world.setRead agentID read) := by
    intro agentID read current
    unfold World.setRead
    split
    · exact holds
    · next _ inFlight =>
      exact keeps.prepare world label agentID _ holds meets
        (.setRead label inFlight read current)
  cases label with
  | ask agentID => exact keeps.prepare world _ agentID _ holds meets (.ask agentID)
  | report agentID state details =>
    change invariant (world.report agentID state details)
    unfold World.report
    split
    · next _ held _ =>
      split
      · next mayReport =>
        exact keeps.prepare world _ agentID _ holds meets
          (.report details held mayReport)
      · exact holds
    · exact holds
  | read agentID =>
    refine setRead agentID (some world.stored) fun snapshot same => ?_
    exact (Option.some.inj same).symm
  | write agentID =>
    change invariant (world.write agentID)
    rcases world.write_cases agentID coherent with same | dropped | accepted
    · rw [same]
      exact holds
    · rw [dropped]
      exact setRead agentID none (by simp)
    · obtain ⟨call, written, holding, inFlight, attempted, isAccepted⟩ := accepted
      rw [isAccepted]
      exact keeps.accept world agentID call written holding holds meets inFlight
        attempted
  | beginReconcile replies => exact keeps.beginReconcile world replies holds meets
  | patch reply =>
    change invariant (world.patch reply)
    unfold World.patch
    split
    · next reconciled pending =>
      exact keeps.patch world reply reconciled holds meets pending
    · exact holds
  | job event => exact keeps.job world event holds meets

theorem coherentReads_step (label : Label) (coherent : CoherentReads world) :
    CoherentReads (step world label) :=
  inductive_coherentReads.step coherent coherent trivial

theorem Inductive.run (keeps : Inductive condition invariant) (coherent : CoherentReads start)
    (initial : invariant start) (meets : Meets System.step condition start labels) :
    invariant (TransitionSystem.run System.step start labels) := by
  have both := TransitionSystem.run_invariant
    (fun world label (holds : CoherentReads world ∧ invariant world) met =>
      ⟨coherentReads_step label holds.1, keeps.step holds.1 holds.2 met⟩)
    ⟨coherent, initial⟩ meets
  exact both.2

theorem Inductive.run_start (keeps : Inductive (fun _ _ => True) invariant) {wf : Workflow}
    {cluster : Cluster} (initial : invariant (World.start wf cluster)) (labels : List Label) :
    invariant (TransitionSystem.run System.step (World.start wf cluster) labels) :=
  keeps.run (coherentReads_start wf cluster) initial (meets_of_forall (by simp))

theorem coherentReads_run (wf : Workflow) (cluster : Cluster) (labels : List Label) :
    CoherentReads (run step (World.start wf cluster) labels) :=
  inductive_coherentReads.run_start (coherentReads_start wf cluster) labels

def listedIds : Template.IdSource where
  task index := ["task-0", "task-1", "task-2"].getD index ""
  action taskIndex index :=
    ([["action-0-0", "action-0-1"], ["action-1-0"], ["action-2-0"]].getD
      taskIndex []).getD index ""

def emptyCluster : Cluster := ⟨fun _ => none⟩

def sampleWorkflow : Workflow := { name := "sample", «namespace» := "tink" }

def netbootWorkflow : Workflow :=
  { sampleWorkflow with spec := { bootOptions := { bootMode := .netboot } } }

def callAlone (agentID : String) : List Label := [.read agentID, .write agentID]

def startAction (agentID : String) : List Label :=
  .ask agentID :: callAlone agentID ++
    .report agentID .running { executionStart := some zeroTime } :: callAlone agentID

def runAction (agentID : String) : List Label :=
  startAction agentID ++
    .report agentID .success { executionStart := some second } :: callAlone agentID

def oneTask : Template.Workflow where
  name := "one task"
  globalTimeout := 600
  tasks := [{ name := "first", workerAddr := "agent-a",
              actions := [{ name := "partition", image := "one" }] }]

def twoActions : Template.Workflow where
  name := "two actions"
  globalTimeout := 600
  tasks := [{ name := "first", workerAddr := "agent-a",
              actions := [{ name := "partition", image := "one" },
                          { name := "install", image := "two" }] }]

def sampleHardware : Hardware where
  name := "machine"
  «namespace» := "tink"
  spec := { bmcRef := some "bmc", interfaces := [{}] }

def sampleReplies (now : Time) (newUID : String) : Replies where
  now
  template := .ok ""
  templateHardware := .ok sampleHardware
  referenceError := none
  hardwareData := ""
  decoded := .ok oneTask
  imageError := fun _ => none
  ids := listedIds
  toggleHardware := .ok sampleHardware
  attempt := fun _ => ⟨.ok sampleHardware, .accepted⟩
  bootHardware := .ok sampleHardware
  render := fun text _ => .ok text
  deleteTasks := .done
  deleteJob := .done
  getJobError := none
  jobHardware := .ok sampleHardware
  createJob := .done
  newUID

def reconcileAlone (now : Time) (newUID : String) : List Label :=
  [.beginReconcile (sampleReplies now newUID), .patch .done]

end Tinkerbell.System
