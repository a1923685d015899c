import Mathlib.Data.List.GetD
import Tinkerbell.System.World

/-!
Owns: a disabled workflow among others, under any reconciles and any `GetAction` calls.

A reconcile may read an old version from its cache, and its patch carries no version.
A call that was served wrote to the version it read, so only reads of the stored
version count. The index lists the workflow, under the agent that the reconcile
recorded, with any other workflows around it.

Nothing in the server asks whether a workflow is disabled. That it is never served
rests on its status: the controller writes nothing into it but the agent, so there
are no tasks, and the server passes over a workflow without tasks.
-/

namespace Tinkerbell.System

open Api Server Controller TransitionSystem

structure Among where
  stored : Workflow
  past : List Workflow := []
  controller : Option Reconciled := none
  cluster : Cluster
  served : List ActionResponse := []

def Among.start (wf : Workflow) (cluster : Cluster) : Among :=
  { stored := wf, cluster }

inductive AmongLabel where
  /-- The index lists other workflows before and after this one. -/
  | getAction (agentID : String) (before after : List Workflow)
  /-- `lag` says how many versions the cache is behind. -/
  | beginReconcile (lag : Nat) (replies : Replies)
  | patch (reply : WriteReply)
  | job (event : JobEvent)

namespace Among

variable (world : Among)

def isStored (wf : Workflow) : Bool :=
  wf.name = world.stored.name && wf.namespace = world.stored.namespace

def listed (agentID : String) (before after : List Workflow) : List Workflow :=
  before.filter (fun wf => !world.isStored wf) ++ listWorkflows agentID world.stored ++
    after.filter (fun wf => !world.isStored wf)

def put (wf : Workflow) : Among :=
  { world with stored := wf, past := world.stored :: world.past }

def getAction (agentID : String) (before after : List Workflow) : Among :=
  match doGetAction agentID (world.listed agentID before after) with
  | .error _ => world
  | .ok (written, response) =>
    if world.isStored written then
      { world.put written with served := world.served ++ [response] }
    else world

def beginReconcile (lag : Nat) (replies : Replies) : Among :=
  let reconciled := reconcile replies world.cluster
    ((world.stored :: world.past).getD lag world.stored)
  { world with controller := some reconciled, cluster := reconciled.cluster }

def patch (reply : WriteReply) : Among :=
  match world.controller with
  | none => world
  | some reconciled =>
    { world.put (patchedWorkflow reconciled reply world.stored) with controller := none }

end Among

def amongStep (world : Among) : AmongLabel → Among
  | .getAction agentID before after => world.getAction agentID before after
  | .beginReconcile lag replies => world.beginReconcile lag replies
  | .patch reply => world.patch reply
  | .job event => { world with cluster := applyJobEvent world.cluster event }

def OnlyAgent (wf version : Workflow) : Prop :=
  ∃ agentID, version = { wf with status := { agentID } }

/-- A reconcile that was meant to write the agent at most. -/
def WritesAgent (reconciled : Reconciled) : Prop :=
  ∃ before after, reconciled.original = { agentID := before } ∧
    reconciled.updated = { agentID := after }

variable {wf version : Workflow}

private theorem tasks_of_onlyAgent (only : OnlyAgent wf version) : version.status.tasks = [] := by
  obtain ⟨_, rfl⟩ := only
  rfl

private theorem writesAgent_reconcile (isDisabled : wf.spec.disabled = some true)
    (only : OnlyAgent wf version) (replies : Replies) (cluster : Cluster) :
    WritesAgent (reconcile replies cluster version) := by
  obtain ⟨agentID, rfl⟩ := only
  unfold reconcile
  split
  · exact ⟨agentID, agentID, rfl, rfl⟩
  · unfold reconcileNew
    rw [if_pos isDisabled]
    exact ⟨agentID, _, rfl, rfl⟩

private theorem onlyAgent_patched (only : OnlyAgent wf version) {reconciled : Reconciled}
    (writes : WritesAgent reconciled) (reply : WriteReply) :
    OnlyAgent wf (patchedWorkflow reconciled reply version) := by
  obtain ⟨agentID, rfl⟩ := only
  obtain ⟨before, after, isOriginal, isUpdated⟩ := writes
  unfold patchedWorkflow mergePatchStatus
  rw [isOriginal, isUpdated]
  split
  · exact ⟨agentID, rfl⟩
  · split
    · exact ⟨MergePatch.mergeField before after agentID, rfl⟩
    · exact ⟨agentID, rfl⟩

private theorem not_served {world : Among} (only : OnlyAgent wf world.stored) {agentID : String}
    {before after : List Workflow} {written : Workflow} {response : ActionResponse}
    (served : doGetAction agentID (world.listed agentID before after) = .ok (written, response)) :
    world.isStored written = false := by
  obtain ⟨chosen, member, _, _, serves, rfl, _⟩ := doGetAction_eq_ok served
  show world.isStored chosen = false
  unfold Among.listed at member
  rw [List.mem_append, List.mem_append] at member
  rcases member with (inBefore | isThis) | inAfter
  · simpa using (List.mem_filter.mp inBefore).2
  · unfold listWorkflows at isThis
    split at isThis
    · rw [List.mem_singleton.mp isThis] at serves
      have selected := serves.taskSelected
      rw [tasks_of_onlyAgent only] at selected
      cases selected
    · cases isThis
  · simpa using (List.mem_filter.mp inAfter).2

structure Untouched (wf : Workflow) (world : Among) : Prop where
  versions : ∀ version ∈ world.stored :: world.past, OnlyAgent wf version
  controller : ∀ reconciled, world.controller = some reconciled → WritesAgent reconciled
  served : world.served = []

theorem Untouched.getAction {world : Among} (untouched : Untouched wf world) (agentID : String)
    (before after : List Workflow) :
    Untouched wf (world.getAction agentID before after) := by
  unfold Among.getAction
  split
  · exact untouched
  · next served =>
    have other := not_served (untouched.versions world.stored List.mem_cons_self) served
    rw [if_neg (by rw [other]; exact Bool.false_ne_true)]
    exact untouched

theorem Untouched.patch {world : Among} (untouched : Untouched wf world) (reply : WriteReply) :
    Untouched wf (world.patch reply) := by
  unfold Among.patch
  split
  · exact untouched
  · next reconciled pending =>
    have stored := untouched.versions world.stored List.mem_cons_self
    have patched := onlyAgent_patched stored (untouched.controller reconciled pending) reply
    refine ⟨?_, by simp, untouched.served⟩
    intro version member
    rcases List.mem_cons.mp member with rfl | older
    · exact patched
    · exact untouched.versions version older

theorem Untouched.step (isDisabled : wf.spec.disabled = some true) {world : Among}
    (untouched : Untouched wf world) (label : AmongLabel) :
    Untouched wf (amongStep world label) := by
  cases label with
  | getAction agentID before after => exact untouched.getAction agentID before after
  | beginReconcile lag =>
    refine ⟨untouched.versions, ?_, untouched.served⟩
    intro reconciled pending
    cases pending
    apply writesAgent_reconcile isDisabled
    by_cases inRange : lag < (world.stored :: world.past).length
    · rw [List.getD_eq_getElem _ _ inRange]
      exact untouched.versions _ (List.getElem_mem inRange)
    · rw [List.getD_eq_default _ _ (Nat.le_of_not_lt inRange)]
      exact untouched.versions _ List.mem_cons_self
  | patch reply => exact untouched.patch reply
  | job => exact ⟨untouched.versions, untouched.controller, untouched.served⟩

/-- The workflow has no tasks and no state, none of its actions was handed out, and
nothing of it changed but the agent. -/
structure DoesNothing (wf : Workflow) (world : Among) : Prop where
  tasks : world.stored.status.tasks = []
  state : world.stored.status.state = .unset
  served : world.served = []
  onlyAgent : world.stored =
    { wf with status := { wf.status with agentID := world.stored.status.agentID } }

/-- A workflow that is disabled when it is created does nothing, in every sequence of
reconciles and `GetAction` calls. -/
theorem disabled_does_nothing (wf : Workflow) (cluster : Cluster) (labels : List AmongLabel)
    (isDisabled : wf.spec.disabled = some true) (isNew : wf.status = {}) :
    DoesNothing wf (run amongStep (Among.start wf cluster) labels) := by
  have initial : Untouched wf (Among.start wf cluster) := by
    refine ⟨?_, by simp [Among.start], rfl⟩
    intro version member
    obtain rfl := List.mem_singleton.mp member
    refine ⟨"", ?_⟩
    rw [← isNew]
  have keeps : ∀ world label, Untouched wf world → True → Untouched wf (amongStep world label) :=
    fun _ label before _ => before.step isDisabled label
  have untouched : Untouched wf (run amongStep (Among.start wf cluster) labels) :=
    run_invariant keeps initial (meets_of_forall fun _ _ => trivial)
  obtain ⟨_, isStored⟩ := untouched.versions _ List.mem_cons_self
  refine ⟨?_, ?_, untouched.served, ?_⟩
  · rw [isStored]
  · rw [isStored]
  · rw [isStored, isNew]

/-- A disabled workflow whose template is rendered gets its agent, and the agent asks. -/
theorem disabled_does_nothing_agent :
    DoesNothing { sampleWorkflow with spec := { disabled := some true } }
      (run amongStep
        (Among.start { sampleWorkflow with spec := { disabled := some true } } emptyCluster)
        [.beginReconcile 0 (sampleReplies 0 ""), .patch .done, .getAction "agent-a" [] []]) :=
  disabled_does_nothing _ emptyCluster _ rfl rfl

end Tinkerbell.System
