import Tinkerbell.Server.GetAction

/-!
Owns: one attempt of the `ReportActionStatus` handler: how the reported action
is found and what the report changes in the status.

The two nested loops of the handler look for the first action with the reported
identifier in a task of the reporting agent. `locate` returns the place they
stop at together with what stands before and after it, so that the index test
of the handler ("the last action in the last task") reads off that place.
-/

namespace Tinkerbell.Server

open Api

/-- `ActionStatusRequest.StateType`, an open enumeration. -/
inductive StateType where
  | unspecified
  | pending
  | running
  | failed
  | timeout
  | success
  | unrecognized (number : Int)
deriving DecidableEq

def StateType.workflowState : StateType → WorkflowState
  | .unspecified => .other "UNSPECIFIED"
  | .pending => .pending
  | .running => .running
  | .failed => .failed
  | .timeout => .timeout
  | .success => .success
  | .unrecognized number => .other (toString number)

theorem StateType.eq_success_of_workflowState {state : StateType}
    (succeeded : state.workflowState = .success) : state = .success := by
  cases state <;> simp [StateType.workflowState] at succeeded
  rfl

structure ActionStatusRequest where
  (workflowId agentId taskId actionId : String)
  actionName : String := ""
  actionState : StateType
  (executionStart executionStop : Option Time := none)
  (executionDuration message : String := "")
deriving DecidableEq

/-- The time recorded for a reported timestamp. `AsTime` of an absent timestamp
is the Unix epoch; an agent that has no start time yet sends the zero time. -/
def reportedTime (timestamp : Option Time) : Option Time :=
  storedTime (timestamp.getD 0)

def applyReport (req : ActionStatusRequest) (action : Action) : Action :=
  { action with
    state := req.actionState.workflowState
    executionStart := reportedTime req.executionStart
    executionStop := reportedTime req.executionStop
    executionDuration := req.executionDuration
    message := req.message }

structure Place where
  before : List Task
  task : Task
  after : List Task
  earlier : List Action
  action : Action
  later : List Action

def findAction (matching : Action → Bool) :
    List Action → Option (List Action × Action × List Action)
  | [] => none
  | action :: rest =>
    if matching action then some ([], action, rest)
    else
      (findAction matching rest).map fun found =>
        (action :: found.1, found.2.1, found.2.2)

def findPlace (matching : Task → Action → Bool) : List Task → Option Place
  | [] => none
  | task :: rest =>
    match findAction (matching task) task.actions with
    | some found => some ⟨[], task, rest, found.1, found.2.1, found.2.2⟩
    | none => (findPlace matching rest).map fun place =>
      { place with before := task :: place.before }

def locate (actionID agentID : String) : List Task → Option Place :=
  findPlace fun task action => action.id = actionID && task.agentID = agentID

def Place.replace (place : Place) (action : Action) : List Task :=
  place.before ++
    { place.task with actions := place.earlier ++ action :: place.later } ::
      place.after

/-- The last action of the last task. -/
def Place.isLast (place : Place) : Prop := place.after = [] ∧ place.later = []

instance (place : Place) : Decidable place.isLast := by
  unfold Place.isLast
  infer_instance

def reportedState (req : ActionStatusRequest) (place : Place)
    (state : WorkflowState) : WorkflowState :=
  let state := if req.actionState ≠ .success then req.actionState.workflowState
    else state
  if place.isLast ∧ req.actionState = .success then .post else state

def reportedStatus (req : ActionStatusRequest) (place : Place)
    (status : WorkflowStatus) : WorkflowStatus :=
  { status with
    tasks := place.replace (applyReport req place.action)
    state := reportedState req place status.state
    currentState := some
      { agentID := req.agentId
        taskID := req.taskId
        actionID := req.actionId
        state := req.actionState.workflowState
        actionName := req.actionName
        taskName := place.task.name } }

def recordReport (req : ActionStatusRequest) (status : WorkflowStatus) :
    Option WorkflowStatus :=
  (locate req.actionId req.agentId status.tasks).map fun place =>
    reportedStatus req place status

def cutWorkflowId (id : String) : String × String :=
  let parts := id.toList.span (· ≠ '/')
  (String.ofList parts.1, String.ofList (parts.2.drop 1))

def doReportActionStatus (read : String → String → Except String Workflow)
    (req : ActionStatusRequest) : Except GrpcError Workflow :=
  if req.workflowId = "" then .error ⟨.invalidArgument, "invalid workflow id"⟩
  else if req.taskId = "" then .error ⟨.invalidArgument, "invalid task name"⟩
  else if req.actionId = "" then .error ⟨.invalidArgument, "invalid action name"⟩
  else
    let key := cutWorkflowId req.workflowId
    match read key.2 key.1 with
    | .error err => .error ⟨.internal, "error getting workflow: " ++ err⟩
    | .ok wf =>
      match recordReport req wf.status with
      | none => .error ⟨.notFound, "action not found"⟩
      | some status => .ok { wf with status }

/-- A place decomposes the task list. -/
structure Place.In (place : Place) (tasks : List Task) : Prop where
  tasks_eq : tasks = place.before ++ place.task :: place.after
  actions_eq : place.task.actions = place.earlier ++ place.action :: place.later

variable {place : Place} {tasks : List Task} {matching : Task → Action → Bool}

theorem Place.In.flatActions_eq (inTasks : place.In tasks) :
    flatActions tasks = flatActions place.before ++
      (place.earlier ++ place.action :: place.later) ++ flatActions place.after := by
  rw [inTasks.tasks_eq]
  simp [flatActions, inTasks.actions_eq]

theorem Place.flatActions_replace (place : Place) (action : Action) :
    flatActions (place.replace action) = flatActions place.before ++
      (place.earlier ++ action :: place.later) ++ flatActions place.after := by
  simp [flatActions, Place.replace]

variable {actions : List Action}

private theorem findAction_spec {matching : Action → Bool}
    {found : List Action × Action × List Action}
    (isFound : findAction matching actions = some found) :
    actions = found.1 ++ found.2.1 :: found.2.2 ∧ matching found.2.1 = true ∧
      ∀ action ∈ found.1, matching action = false := by
  induction actions generalizing found with
  | nil => cases isFound
  | cons _ _ ih =>
    unfold findAction at isFound
    split at isFound
    · next headMatches =>
      cases isFound
      exact ⟨rfl, headMatches, by simp⟩
    · next headDiffers =>
      obtain ⟨_, innerFound, rfl⟩ := Option.map_eq_some_iff.mp isFound
      obtain ⟨split, isMatch, noneEarlier⟩ := ih innerFound
      refine ⟨by simpa using split, isMatch, ?_⟩
      intro action member
      rcases List.mem_cons.mp member with rfl | inEarlier
      · exact Bool.eq_false_iff.mpr headDiffers
      · exact noneEarlier action inEarlier

private theorem findAction_eq_none_iff {matching : Action → Bool} :
    findAction matching actions = none ↔ ∀ action ∈ actions, matching action = false := by
  induction actions with
  | nil => simp [findAction]
  | cons _ _ ih =>
    unfold findAction
    split
    · next headMatches => simp [headMatches]
    · next headDiffers => simp [ih, headDiffers]

theorem findPlace_eq_none_iff :
    findPlace matching tasks = none ↔
      ∀ task ∈ tasks, ∀ action ∈ task.actions, matching task action = false := by
  induction tasks with
  | nil => simp [findPlace]
  | cons head _ ih =>
    unfold findPlace
    split
    · next found foundHere =>
      obtain ⟨actionsSplit, isMatch, _⟩ := findAction_spec foundHere
      constructor
      · intro impossible
        cases impossible
      · intro absent
        have notHere := absent head (by simp) found.2.1 (by rw [actionsSplit]; simp)
        rw [isMatch] at notHere
        cases notHere
    · next notHere =>
      rw [Option.map_eq_none_iff, ih]
      have noneHere := findAction_eq_none_iff.mp notHere
      constructor
      · intro noneRest task member
        rcases List.mem_cons.mp member with rfl | inRest
        · exact noneHere
        · exact noneRest task inRest
      · intro absent task member
        exact absent task (List.mem_cons_of_mem head member)

structure Place.IsFirst (matching : Task → Action → Bool) (tasks : List Task)
    (place : Place) : Prop where
  inTasks : place.In tasks
  isMatch : matching place.task place.action = true
  noneEarlier : ∀ action ∈ place.earlier, matching place.task action = false
  noneBefore : ∀ task ∈ place.before, ∀ action ∈ task.actions, matching task action = false

private theorem findPlace_isFirst (found : findPlace matching tasks = some place) :
    place.IsFirst matching tasks := by
  induction tasks generalizing place with
  | nil => cases found
  | cons _ _ ih =>
    unfold findPlace at found
    split at found
    · next _ foundHere =>
      obtain ⟨actionsSplit, isMatch, noneEarlier⟩ := findAction_spec foundHere
      cases found
      exact ⟨⟨rfl, actionsSplit⟩, isMatch, noneEarlier, by simp⟩
    · next notHere =>
      obtain ⟨_, innerFound, rfl⟩ := Option.map_eq_some_iff.mp found
      have isFirst := ih innerFound
      refine ⟨⟨?_, isFirst.inTasks.actions_eq⟩, isFirst.isMatch, isFirst.noneEarlier, ?_⟩
      · simpa using isFirst.inTasks.tasks_eq
      · intro task member
        rcases List.mem_cons.mp member with rfl | inBefore
        · exact findAction_eq_none_iff.mp notHere
        · exact isFirst.noneBefore task inBefore

theorem Place.In.action_mem (inTasks : place.In tasks) : place.action ∈ place.task.actions := by
  rw [inTasks.actions_eq]
  simp

private theorem Place.IsFirst.unique {other : Place} (isFirst : place.IsFirst matching tasks)
    (otherFirst : other.IsFirst matching tasks) : place = other := by
  have hasMatch {candidate : Place} (first : candidate.IsFirst matching tasks) :
      candidate.task.actions.any (matching candidate.task) = true :=
    List.any_eq_true.mpr ⟨_, first.inTasks.action_mem, first.isMatch⟩
  have noMatch {candidate : Place} (first : candidate.IsFirst matching tasks) :
      ∀ task ∈ candidate.before, task.actions.any (matching task) = false := by
    intro task member
    simpa using first.noneBefore task member
  obtain ⟨sameBefore, sameTask, sameAfter⟩ := FirstMatch.split_unique
    (isFirst.inTasks.tasks_eq.symm.trans otherFirst.inTasks.tasks_eq)
    (hasMatch isFirst) (hasMatch otherFirst) (noMatch isFirst) (noMatch otherFirst)
  obtain ⟨_, _, _, _, _, _⟩ := other
  cases sameBefore
  cases sameTask
  cases sameAfter
  obtain ⟨rfl, rfl, rfl⟩ := FirstMatch.split_unique
    (isFirst.inTasks.actions_eq.symm.trans otherFirst.inTasks.actions_eq)
    isFirst.isMatch otherFirst.isMatch isFirst.noneEarlier otherFirst.noneEarlier
  rfl

theorem findPlace_eq_some_iff :
    findPlace matching tasks = some place ↔
      place.In tasks ∧ matching place.task place.action = true ∧
        (∀ action ∈ place.earlier, matching place.task action = false) ∧
        ∀ task ∈ place.before, ∀ action ∈ task.actions, matching task action = false := by
  constructor
  · intro found
    have isFirst := findPlace_isFirst found
    exact ⟨isFirst.inTasks, isFirst.isMatch, isFirst.noneEarlier, isFirst.noneBefore⟩
  · rintro ⟨inTasks, isMatch, noneEarlier, noneBefore⟩
    have isFirst : place.IsFirst matching tasks :=
      ⟨inTasks, isMatch, noneEarlier, noneBefore⟩
    cases result : findPlace matching tasks with
    | none =>
      have memTasks : place.task ∈ tasks := by
        rw [inTasks.tasks_eq]
        simp
      have noMatch := findPlace_eq_none_iff.mp result _ memTasks _ inTasks.action_mem
      rw [isMatch] at noMatch
      cases noMatch
    | some => rw [isFirst.unique (findPlace_isFirst result)]

theorem doReportActionStatus_eq_ok {read : String → String → Except String Workflow}
    {req : ActionStatusRequest} {written : Workflow}
    (recorded : doReportActionStatus read req = .ok written) :
    ∃ wf place, read (cutWorkflowId req.workflowId).2
        (cutWorkflowId req.workflowId).1 = .ok wf ∧
      locate req.actionId req.agentId wf.status.tasks = some place ∧
      written = { wf with status := reportedStatus req place wf.status } := by
  unfold doReportActionStatus at recorded
  split at recorded
  · cases recorded
  · split at recorded
    · cases recorded
    · split at recorded
      · cases recorded
      · simp only at recorded
        split at recorded
        · cases recorded
        · next wf found =>
          split at recorded
          · cases recorded
          · next _ updated =>
            cases recorded
            obtain ⟨place, located, rfl⟩ := Option.map_eq_some_iff.mp updated
            exact ⟨wf, place, found, located, rfl⟩

end Tinkerbell.Server
