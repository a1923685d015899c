import Tinkerbell.Template.Convert

/-!
Owns: which workflow definitions the validator accepts, and what the conversion makes of
them.

The agent of the status is the first worker address that is not empty. `validate` does
not look at worker addresses; `renderTemplateHardware` refuses an empty one before the
conversion, and only then is the agent sure to be that of the first task.
-/

namespace Tinkerbell.Template

open Api

/-- A name of 1 to 199 bytes. -/
def ValidLength (name : String) : Prop := 1 ≤ name.utf8ByteSize ∧ name.utf8ByteSize ≤ 199

structure WellFormedAction (imageError : String → Option String) (action : Action) : Prop where
  name : ValidLength action.name
  image : imageError action.image = none

structure WellFormedTask (imageError : String → Option String) (task : Task) : Prop where
  name : ValidLength task.name
  actions : ∀ action ∈ task.actions, WellFormedAction imageError action
  distinct : (task.actions.map Action.name).Nodup

structure WellFormed (imageError : String → Option String) (wf : Workflow) : Prop where
  name : ValidLength wf.name
  someTask : wf.tasks ≠ []
  tasks : ∀ task ∈ wf.tasks, WellFormedTask imageError task
  distinct : (wf.tasks.map Task.name).Nodup

theorem hasValidLength_iff {name : String} : hasValidLength name = true ↔ ValidLength name := by
  simp only [hasValidLength, ValidLength, Bool.and_eq_true, decide_eq_true_eq]
  omega

variable {seen : List String} {imageError : String → Option String}

theorem fresh_cons {name : String} {names : List String} :
    ((name :: names).Nodup ∧ ∀ other ∈ name :: names, other ∉ seen) ↔
      name ∉ seen ∧ names.Nodup ∧ ∀ other ∈ names, other ∉ name :: seen := by
  constructor
  · rintro ⟨distinct, unseen⟩
    obtain ⟨notLater, distinctLater⟩ := List.nodup_cons.mp distinct
    refine ⟨unseen name List.mem_cons_self, distinctLater, ?_⟩
    intro other member isSeen
    rcases List.mem_cons.mp isSeen with rfl | before
    · exact notLater member
    · exact unseen other (List.mem_cons_of_mem name member) before
  · rintro ⟨notBefore, distinctLater, unseen⟩
    constructor
    · apply List.nodup_cons.mpr
      exact ⟨fun later => unseen name later List.mem_cons_self, distinctLater⟩
    · intro other member
      rcases List.mem_cons.mp member with rfl | later
      · exact notBefore
      · exact fun before => unseen other later (List.mem_cons_of_mem name before)

private theorem validateActions_eq_none_iff {actions : List Action} :
    validateActions imageError seen actions = none ↔
      (∀ action ∈ actions, WellFormedAction imageError action) ∧
        (actions.map Action.name).Nodup ∧ ∀ name ∈ actions.map Action.name, name ∉ seen := by
  induction actions generalizing seen with
  | nil => simp [validateActions]
  | cons head _ ih =>
    rw [List.map_cons, fresh_cons, List.forall_mem_cons]
    unfold validateActions
    cases isLength : hasValidLength head.name with
    | false =>
      have notLength : ¬ValidLength head.name := by
        rw [← hasValidLength_iff, isLength]
        exact Bool.false_ne_true
      constructor
      · intro impossible
        cases impossible
      · rintro ⟨⟨headFormed, _⟩, _⟩
        exact absurd headFormed.name notLength
    | true =>
      rw [if_neg (by simp)]
      cases isImage : imageError head.image with
      | some =>
        constructor
        · intro impossible
          cases impossible
        · rintro ⟨⟨headFormed, _⟩, _⟩
          have accepted := headFormed.image
          rw [isImage] at accepted
          cases accepted
      | none =>
        have headFormed : WellFormedAction imageError head :=
          ⟨hasValidLength_iff.mp isLength, isImage⟩
        by_cases isSeen : head.name ∈ seen
        · simp [isSeen]
        · simp only [isSeen, if_false]
          rw [ih]
          simp [headFormed]

private theorem wellFormedTask_iff {task : Task} :
    WellFormedTask imageError task ↔
      ValidLength task.name ∧ validateActions imageError [] task.actions = none := by
  rw [validateActions_eq_none_iff]
  constructor
  · rintro ⟨name, actions, distinct⟩
    exact ⟨name, actions, distinct, by simp⟩
  · rintro ⟨name, actions, distinct, _⟩
    exact ⟨name, actions, distinct⟩

theorem validateTasks_eq_none_iff {tasks : List Task} :
    validateTasks imageError seen tasks = none ↔
      (∀ task ∈ tasks, WellFormedTask imageError task) ∧
        (tasks.map Task.name).Nodup ∧ ∀ name ∈ tasks.map Task.name, name ∉ seen := by
  induction tasks generalizing seen with
  | nil => simp [validateTasks]
  | cons head _ ih =>
    rw [List.map_cons, fresh_cons, List.forall_mem_cons, wellFormedTask_iff, ← hasValidLength_iff]
    unfold validateTasks
    cases isLength : hasValidLength head.name with
    | false => simp
    | true =>
      rw [if_neg (by simp)]
      by_cases isSeen : head.name ∈ seen
      · simp [isSeen]
      · simp only [isSeen, if_false]
        cases validateActions imageError [] head.actions with
        | some => simp
        | none =>
          rw [ih]
          simp

private theorem validate_eq_none_iff {wf : Workflow} :
    validate imageError wf = none ↔ WellFormed imageError wf := by
  unfold validate
  constructor
  · intro accepted
    split at accepted
    · cases accepted
    · next isLength =>
      split at accepted
      · cases accepted
      · next someTask =>
        obtain ⟨tasks, distinct, _⟩ := validateTasks_eq_none_iff.mp accepted
        have length : ValidLength wf.name :=
          hasValidLength_iff.mp (Bool.not_eq_false _ ▸ isLength)
        exact ⟨length, someTask, tasks, distinct⟩
  · rintro ⟨name, someTask, tasks, distinct⟩
    rw [hasValidLength_iff.mpr name, if_neg (by simp), if_neg someTask]
    exact validateTasks_eq_none_iff.mpr ⟨tasks, distinct, by simp⟩

structure ActionCorresponds (action : Action) (converted : Api.Action) : Prop where
  name : converted.name = action.name
  image : converted.image = action.image
  timeout : converted.timeout = action.timeout
  command : converted.command = action.command
  volumes : converted.volumes = action.volumes
  environment : converted.environment = action.environment
  pid : converted.pid = action.pid
  namespaces : converted.namespaces.map (fun spaces => (spaces.network, spaces.pid)) =
    if action.namespaces.network = "" ∧ action.namespaces.pid = "" then none
    else some (action.namespaces.network, action.namespaces.pid)
  pending : converted.state = .pending

structure TaskCorresponds (task : Task) (converted : Api.Task) : Prop where
  name : converted.name = task.name
  agent : converted.agentID = task.workerAddr
  volumes : converted.volumes = task.volumes
  environment : converted.environment = task.environment
  actions : List.Forall₂ ActionCorresponds task.actions converted.actions

/-- Tasks and actions correspond one to one and in order. -/
structure Corresponds (wf : Workflow) (status : WorkflowStatus) : Prop where
  globalTimeout : status.globalTimeout = wf.globalTimeout
  tasks : List.Forall₂ TaskCorresponds wf.tasks status.tasks
  /-- The agent is the first task's exactly if that names one or none does. -/
  agent : ∀ first rest, wf.tasks = first :: rest →
    (status.agentID = first.workerAddr ↔
      first.workerAddr ≠ "" ∨ ∀ task ∈ wf.tasks, task.workerAddr = "")

theorem forall₂_mapIdx {α β : Type} {related : α → β → Prop} {convert : Nat → α → β}
    (relates : ∀ index item, related item (convert index item)) (items : List α) :
    List.Forall₂ related items (items.mapIdx convert) := by
  induction items generalizing convert with
  | nil => exact .nil
  | cons head _ ih =>
    rw [List.mapIdx_cons]
    exact .cons (relates 0 head) (ih fun index item => relates (index + 1) item)

private theorem actionCorresponds_convertAction (ids : IdSource) (taskIndex actionIndex : Nat)
    (action : Action) :
    ActionCorresponds action (convertAction ids taskIndex actionIndex action) := by
  refine ⟨rfl, rfl, rfl, rfl, rfl, rfl, rfl, ?_, rfl⟩
  by_cases noNetwork : action.namespaces.network = ""
  · by_cases noPid : action.namespaces.pid = ""
    · simp [convertAction, noNetwork, noPid]
    · simp [convertAction, noNetwork, noPid]
  · simp [convertAction, noNetwork]

private theorem taskCorresponds_convertTask (ids : IdSource) (taskIndex : Nat) (task : Task) :
    TaskCorresponds task (convertTask ids taskIndex task) :=
  ⟨rfl, rfl, rfl, rfl, forall₂_mapIdx (actionCorresponds_convertAction ids taskIndex) _⟩

private theorem foldl_agentID {agentID : String} (found : agentID ≠ "") (tasks : List Task) :
    tasks.foldl (fun agentID task => if agentID = "" then task.workerAddr else agentID)
      agentID = agentID := by
  induction tasks with
  | nil => rfl
  | cons _ _ ih =>
    rw [List.foldl_cons, if_neg found]
    exact ih

theorem firstAgentID_cons (first : Task) (rest : List Task) :
    firstAgentID (first :: rest) =
      if first.workerAddr = "" then firstAgentID rest else first.workerAddr := by
  rw [firstAgentID, List.foldl_cons, if_pos rfl]
  split
  · next unnamed => rw [unnamed, firstAgentID]
  · next named => exact foldl_agentID named rest

private theorem firstAgentID_eq_empty_iff (tasks : List Task) :
    firstAgentID tasks = "" ↔ ∀ task ∈ tasks, task.workerAddr = "" := by
  induction tasks with
  | nil => simp [firstAgentID]
  | cons _ _ ih =>
    rw [firstAgentID_cons, List.forall_mem_cons, ← ih]
    split
    · next unnamed => simp [unnamed]
    · next named => simp [named]

private theorem corresponds_yamlToStatus (ids : IdSource) (wf : Workflow) :
    Corresponds wf (yamlToStatus ids wf) := by
  refine ⟨rfl, forall₂_mapIdx (taskCorresponds_convertTask ids) wf.tasks, ?_⟩
  intro first rest isFirst
  change firstAgentID wf.tasks = first.workerAddr ↔ _
  by_cases unnamed : first.workerAddr = ""
  · rw [unnamed, firstAgentID_eq_empty_iff]
    simp
  · rw [isFirst, firstAgentID_cons, if_neg unnamed]
    simp [unnamed]

/-- The validator accepts exactly the well-formed definitions, and the status of an
accepted one corresponds to it. -/
theorem validation_and_conversion_agree (imageError : String → Option String)
    (ids : IdSource) (wf : Workflow) :
    (validate imageError wf = none ↔ WellFormed imageError wf) ∧
      (validate imageError wf = none → Corresponds wf (yamlToStatus ids wf)) :=
  ⟨validate_eq_none_iff, fun _ => corresponds_yamlToStatus ids wf⟩

def twoWorkers (first second : String) : Workflow where
  name := "install"
  tasks :=
    [{ name := "partition", workerAddr := first,
       actions := [{ name := "wipe", image := "wipe:v1" }] },
     { name := "write", workerAddr := second,
       actions := [{ name := "copy", image := "image2disk:v1" }] }]

def numberedIds : IdSource where
  task index := toString index
  action taskIndex actionIndex := toString taskIndex ++ "-" ++ toString actionIndex

theorem validation_and_conversion_agree_twoWorkers :
    WellFormed (fun _ => none) (twoWorkers "a" "b") ∧
      Corresponds (twoWorkers "a" "b") (yamlToStatus numberedIds (twoWorkers "a" "b")) :=
  have agree := validation_and_conversion_agree (fun _ => none) numberedIds (twoWorkers "a" "b")
  have accepted : validate (fun _ => none) (twoWorkers "a" "b") = none := by decide +kernel
  ⟨agree.1.mp accepted, agree.2 accepted⟩

/-- A definition whose first task names no worker is accepted, and the status gets the
agent of the second task. -/
theorem second_worker_becomes_agent :
    validate (fun _ => none) (twoWorkers "" "b") = none ∧
      (twoWorkers "" "b").tasks.head?.map Task.workerAddr = some "" ∧
      (yamlToStatus numberedIds (twoWorkers "" "b")).agentID = "b" := by
  decide +kernel

end Tinkerbell.Template
