import Mathlib.Data.List.Perm.Basic
import Tinkerbell.Server.GetAction

/-!
Owns: how the order in which the backend lists the workflows of an agent
decides which of them `GetAction` serves.

The backend promises no order. The loop over the listing passes over workflows
without tasks only; the first workflow with tasks ends it, whether it can be
served or not.
-/

namespace Tinkerbell.Server

open Api

def Runnable (wf : Workflow) : Prop :=
  wf.status.tasks ≠ [] ∧ (wf.status.state = .pending ∨ wf.status.state = .running)

def Finished (wf : Workflow) : Prop :=
  wf.status.state = .success ∨ wf.status.state = .failed ∨
    wf.status.state = .timeout ∨ wf.status.state = .post

instance (wf : Workflow) : Decidable (Runnable wf) := by
  unfold Runnable
  infer_instance

instance (wf : Workflow) : Decidable (Finished wf) := by
  unfold Finished
  infer_instance

def notActive : GrpcError :=
  ⟨.failedPrecondition, "Workflow not in pending or running state"⟩

variable {before : List Workflow} {wf : Workflow} {agentID : String}

variable (rest : List Workflow)

private theorem selectWorkflow_skip (empty : ∀ other ∈ before, other.status.tasks = []) :
    selectWorkflow (before ++ rest) = selectWorkflow rest := by
  induction before with
  | nil => rfl
  | cons head tail ih =>
    have headEmpty : head.status.tasks = [] := empty head (by simp)
    have tailEmpty : ∀ other ∈ tail, other.status.tasks = [] := by
      intro other member
      exact empty other (by simp [member])
    rw [List.cons_append, selectWorkflow, if_pos headEmpty]
    exact ih tailEmpty

theorem selectWorkflow_runnable (runnable : Runnable wf) :
    selectWorkflow (wf :: rest) = .ok wf := by
  obtain ⟨tasks, active⟩ := runnable
  have prepared : wf.status.state ≠ .preparing := by
    rcases active with pending | running
    · simp [pending]
    · simp [running]
  rw [selectWorkflow, if_neg tasks, if_neg (by simp [prepared]), if_neg]
  rintro ⟨notPending, notRunning⟩
  exact active.elim notPending notRunning

private theorem selectWorkflow_finished (tasks : wf.status.tasks ≠ []) (finished : Finished wf) :
    selectWorkflow (wf :: rest) = .error notActive := by
  have states : wf.status.state ≠ .preparing ∧ wf.status.state ≠ .pending ∧
      wf.status.state ≠ .running := by
    rcases finished with state | state | state | state <;> simp [state]
  rw [selectWorkflow, if_neg tasks, if_neg (by simp [states.1]), if_pos states.2]
  rfl

theorem selectWorkflow_hidden (idle : ∀ other ∈ before, other.status.tasks = [] ∨ Finished other)
    (hides : ∃ other ∈ before, other.status.tasks ≠ []) :
    selectWorkflow (before ++ rest) = .error notActive := by
  induction before with
  | nil =>
    obtain ⟨_, member, _⟩ := hides
    cases member
  | cons head tail ih =>
    by_cases headEmpty : head.status.tasks = []
    · rw [List.cons_append, selectWorkflow, if_pos headEmpty]
      apply ih
      · intro other member
        exact idle other (by simp [member])
      · obtain ⟨other, member, tasks⟩ := hides
        rcases List.mem_cons.mp member with same | later
        · exact absurd (same ▸ headEmpty) tasks
        · exact ⟨other, later, tasks⟩
    · have finished : Finished head := (idle head (by simp)).resolve_left headEmpty
      exact selectWorkflow_finished (tail ++ rest) headEmpty finished

theorem selectWorkflow_eq_ok_iff (after : List Workflow) (runnable : Runnable wf)
    (idle : ∀ other ∈ before, other.status.tasks = [] ∨ Finished other) :
    selectWorkflow (before ++ wf :: after) = .ok wf ↔
      ∀ other ∈ before, other.status.tasks = [] := by
  constructor
  · intro chosen other member
    by_contra tasks
    have hidden := selectWorkflow_hidden (wf :: after) idle ⟨other, member, tasks⟩
    rw [hidden] at chosen
    cases chosen
  · intro empty
    rw [selectWorkflow_skip (wf :: after) empty]
    exact selectWorkflow_runnable after runnable

variable {err : GrpcError} {wfs : List Workflow}

private theorem error_of_bind_eq_error {α β : Type} {first : Except GrpcError α}
    {next : α → Except GrpcError β} (failed : (first >>= next) = .error err) :
    first = .error err ∨ ∃ value, first = .ok value ∧ next value = .error err := by
  cases first with
  | error =>
    left
    cases failed
    rfl
  | ok value => exact Or.inr ⟨value, rfl, failed⟩

theorem selectTask_ne_notActive (tasks : List Task) : selectTask tasks ≠ .error notActive := by
  fun_cases selectTask tasks <;> simp_all [notActive]

private theorem nextAction_ne_notActive (actionID : String) (actions : List Action) :
    nextAction actionID actions ≠ .error notActive := by
  fun_induction nextAction actionID actions <;> simp_all [notActive]

private theorem resolveAction_ne_notActive (task : Task) (current : Option CurrentState) :
    resolveAction task current ≠ .error notActive := by
  have started (actions : List Action) :
      resolveStarted actions current ≠ .error notActive := by
    fun_cases resolveStarted actions current
    case case5 => exact nextAction_ne_notActive _ actions
    all_goals simp_all [notActive]
  unfold resolveAction
  split
  · simp
  · exact started _

theorem doGetAction_of_selected (selected : selectWorkflow wfs = .ok wf) (runnable : Runnable wf) :
    doGetAction agentID wfs = doGetAction agentID [wf] := by
  have listed : wfs ≠ [] := by
    rintro rfl
    cases selected
  have alone : selectWorkflow [wf] = .ok wf := selectWorkflow_runnable [] runnable
  simp only [doGetAction, listed, List.cons_ne_nil, selected, alone]

private theorem doGetAction_of_refused (agent : agentID ≠ "") (listed : wfs ≠ [])
    (refused : selectWorkflow wfs = .error err) :
    doGetAction agentID wfs = .error err := by
  rw [doGetAction, if_neg agent, if_neg listed, refused]
  rfl

private theorem doGetAction_runnable_ne_notActive (agentID : String) (runnable : Runnable wf) :
    doGetAction agentID [wf] ≠ .error notActive := by
  unfold doGetAction
  split
  · simp [notActive]
  · rw [if_neg (List.cons_ne_nil wf []), selectWorkflow_runnable [] runnable]
    intro failed
    rcases error_of_bind_eq_error failed with chosen | ⟨_, _, failed⟩
    · cases chosen
    · rcases error_of_bind_eq_error failed with noTask | ⟨task, _, failed⟩
      · exact selectTask_ne_notActive _ noTask
      · split at failed
        · simp [notActive] at failed
        · rcases error_of_bind_eq_error failed with noAction | ⟨action, _, failed⟩
          · exact resolveAction_ne_notActive _ _ noAction
          · split at failed <;> simp [notActive] at failed

theorem doGetAction_eq_alone_iff (after : List Workflow) (agent : agentID ≠ "")
    (runnable : Runnable wf) (idle : ∀ other ∈ before, other.status.tasks = [] ∨ Finished other) :
    doGetAction agentID (before ++ wf :: after) = doGetAction agentID [wf] ↔
      ∀ other ∈ before, other.status.tasks = [] := by
  rw [← selectWorkflow_eq_ok_iff after runnable idle]
  constructor
  · intro same
    by_contra notChosen
    rw [selectWorkflow_eq_ok_iff after runnable idle] at notChosen
    simp only [not_forall] at notChosen
    obtain ⟨other, member, tasks⟩ := notChosen
    have refused := doGetAction_of_refused agent (by simp)
      (selectWorkflow_hidden (wf :: after) idle ⟨other, member, tasks⟩)
    exact doGetAction_runnable_ne_notActive agentID runnable (same ▸ refused)
  · intro chosen
    exact doGetAction_of_selected chosen runnable

/-- For an agent with one runnable workflow among finished ones and ones
without tasks: it is chosen, and served as if it were listed alone, exactly
when no workflow with tasks is listed before it; and the answer is the same
for every order of the listing exactly when no other workflow has tasks. A
request without an agent ID is refused before the listing is read. -/
theorem finished_workflow_hides_iff (agentID : String)
    (before after : List Workflow) (wf : Workflow) (runnable : Runnable wf)
    (idle : ∀ other ∈ before ++ after, other.status.tasks = [] ∨ Finished other) :
    (selectWorkflow (before ++ wf :: after) = .ok wf ↔
      ∀ other ∈ before, other.status.tasks = []) ∧
    (doGetAction agentID (before ++ wf :: after) = doGetAction agentID [wf] ↔
      agentID = "" ∨ ∀ other ∈ before, other.status.tasks = []) ∧
    ((∀ listing, listing.Perm (before ++ wf :: after) →
        doGetAction agentID listing = doGetAction agentID [wf]) ↔
      agentID = "" ∨ ∀ other ∈ before ++ after, other.status.tasks = []) := by
  have idleBefore : ∀ other ∈ before, other.status.tasks = [] ∨ Finished other := by
    intro other member
    exact idle other (by simp [member])
  refine ⟨selectWorkflow_eq_ok_iff after runnable idleBefore, ?_, ?_⟩
  · by_cases agent : agentID = ""
    · simp [agent, doGetAction]
    · simp only [agent, false_or]
      exact doGetAction_eq_alone_iff after agent runnable idleBefore
  · by_cases agent : agentID = ""
    · simp [agent, doGetAction]
    · simp only [agent, false_or]
      constructor
      · intro anyOrder
        -- The order that lists every other workflow first decides.
        have last : (before ++ after ++ [wf]).Perm (before ++ wf :: after) := by
          rw [List.append_assoc]
          exact List.Perm.append_left before (List.perm_append_singleton wf after)
        exact (doGetAction_eq_alone_iff [] agent runnable idle).mp (anyOrder _ last)
      · intro empty listing permuted
        obtain ⟨front, back, rfl⟩ := List.append_of_mem
          (permuted.mem_iff.mpr (show wf ∈ before ++ wf :: after by simp))
        have others : (front ++ back).Perm (before ++ after) := by
          have moved := (List.perm_middle.symm.trans permuted).trans List.perm_middle
          exact List.Perm.cons_inv moved
        have frontEmpty : ∀ other ∈ front, other.status.tasks = [] := by
          intro other member
          exact empty other (others.mem_iff.mp (by simp [member]))
        rw [doGetAction_eq_alone_iff back agent runnable
          (fun other member => Or.inl (frontEmpty other member))]
        exact frontEmpty

def oneActionWorkflow (name : String) (state : WorkflowState) : Workflow where
  name
  «namespace» := "tink"
  status :=
    { state
      tasks := [{ id := "task", name := "os", agentID := "agent"
                  actions := [{ id := "action", state := .pending }] }] }

theorem finished_workflow_hides_iff_alone :
    selectWorkflow ([] ++ oneActionWorkflow "new" .pending ::
        [oneActionWorkflow "old" .success]) = .ok (oneActionWorkflow "new" .pending) :=
  (finished_workflow_hides_iff "agent" [] [oneActionWorkflow "old" .success]
    (oneActionWorkflow "new" .pending) (by decide) (by decide)).1.mpr (by decide)

/-- A finished workflow listed first makes the call refuse the agent that has
a pending workflow behind it; listed the other way round it is served. -/
theorem finished_workflow_hides_pending :
    doGetAction "agent"
        [oneActionWorkflow "old" .success, oneActionWorkflow "new" .pending] =
      .error ⟨.failedPrecondition, "Workflow not in pending or running state"⟩ ∧
    (doGetAction "agent"
        [oneActionWorkflow "new" .pending, oneActionWorkflow "old" .success]).isOk := by
  decide

end Tinkerbell.Server
