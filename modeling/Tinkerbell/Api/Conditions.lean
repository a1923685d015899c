import Tinkerbell.Api.Workflow
import Tinkerbell.Library.RecordMap

/-!
Owns: the condition lists of workflows, BMC Jobs and BMC Tasks as finite maps from
the type of a condition to its status.

The state machines of the controllers read and write their conditions by type. That
this is sound rests on `conditions_behave_like_a_map`: after any calls no type is
there twice, and `HasCondition` tells what the last call for its type wrote.
-/

namespace Tinkerbell.Api

def WorkflowStatus.condition (status : WorkflowStatus) (type : WorkflowConditionType) :
    Option WorkflowCondition :=
  status.conditions.find? fun condition => condition.type = type

def WorkflowStatus.hasCondition (status : WorkflowStatus) (type : WorkflowConditionType)
    (conditionStatus : ConditionStatus) : Bool :=
  match status.condition type with
  | some condition => condition.status = conditionStatus
  | none => false

theorem replaceCondition_eq_update (condition : WorkflowCondition)
    (conditions : List WorkflowCondition) :
    replaceCondition condition conditions =
      FirstMatch.update (fun existing => existing.type = condition.type)
        (fun _ => condition) condition conditions := by
  induction conditions with
  | nil => rfl
  | cons _ _ ih =>
    simp only [replaceCondition, FirstMatch.update, ih, decide_eq_true_eq]

theorem condition_setCondition (status : WorkflowStatus) (condition : WorkflowCondition)
    (type : WorkflowConditionType) :
    (status.setCondition condition).condition type =
      if condition.type = type then some condition else status.condition type := by
  unfold WorkflowStatus.setCondition WorkflowStatus.condition
  rw [replaceCondition_eq_update]
  split
  · next same =>
    subst same
    rw [FirstMatch.find?_update_same (by simp) (by simp)]
  · next different =>
    apply FirstMatch.find?_update_other ?_ (by simp)
    intro existing isType
    have typed : existing.type = condition.type := by simpa using isType
    simp [typed, different]

/-- Setting a condition unless it says the same already: its type ends up with the
status wanted, and no other type is touched. -/
theorem condition_setConditionIfDifferent (status : WorkflowStatus)
    (condition : WorkflowCondition) :
    (∃ recorded, (status.setConditionIfDifferent condition).condition condition.type =
        some recorded ∧ recorded.status = condition.status) ∧
      ∀ type, type ≠ condition.type →
        (status.setConditionIfDifferent condition).condition type = status.condition type := by
  have set : (∃ recorded, (status.setCondition condition).condition condition.type =
        some recorded ∧ recorded.status = condition.status) ∧
      ∀ type, type ≠ condition.type →
        (status.setCondition condition).condition type = status.condition type := by
    constructor
    · refine ⟨condition, ?_, rfl⟩
      rw [condition_setCondition, if_pos rfl]
    · intro type different
      rw [condition_setCondition, if_neg different.symm]
  unfold WorkflowStatus.setConditionIfDifferent
  split
  · next existing found =>
    split
    · next unchanged => exact ⟨⟨existing, found, unchanged.1⟩, fun _ _ => rfl⟩
    · exact set
  · exact set

end Tinkerbell.Api

namespace Tinkerbell

open RecordMap

namespace Api

/-- A call that records a condition of a workflow. -/
inductive WorkflowConditionCall where
  | setCondition (condition : WorkflowCondition)
  | setConditionIfDifferent (condition : WorkflowCondition)

def WorkflowConditionCall.condition : WorkflowConditionCall → WorkflowCondition
  | .setCondition condition => condition
  | .setConditionIfDifferent condition => condition

def WorkflowStatus.call (status : WorkflowStatus) : WorkflowConditionCall → WorkflowStatus
  | .setCondition condition => status.setCondition condition
  | .setConditionIfDifferent condition => status.setConditionIfDifferent condition

variable (status : WorkflowStatus)

theorem writes_setCondition (condition : WorkflowCondition) :
    Writes WorkflowCondition.type WorkflowCondition.status condition.type condition.status
      status.conditions (status.setCondition condition).conditions := by
  unfold WorkflowStatus.setCondition
  rw [replaceCondition_eq_update]
  apply writes_update
  · exact fun _ _ => rfl
  · exact fun _ _ => rfl
  · rfl

theorem writes_setConditionIfDifferent (condition : WorkflowCondition) :
    Writes WorkflowCondition.type WorkflowCondition.status condition.type condition.status
      status.conditions (status.setConditionIfDifferent condition).conditions := by
  have set := writes_setCondition status condition
  unfold WorkflowStatus.setConditionIfDifferent
  split
  · next existing found =>
    split
    · next unchanged =>
      have isThere : condition.type ∈ status.conditions.map WorkflowCondition.type := by
        apply List.mem_map.mpr
        exact ⟨existing, List.mem_of_find?_eq_some found, by
          simpa using List.find?_some found⟩
      refine ⟨(if_pos isThere).symm, ?_, fun _ _ => rfl⟩
      rw [lookup, found, Option.map_some, unchanged.1]
    · exact set
  · exact set

theorem writes_call (call : WorkflowConditionCall) :
    Writes WorkflowCondition.type WorkflowCondition.status call.condition.type
      call.condition.status status.conditions (status.call call).conditions := by
  cases call with
  | setCondition condition => exact writes_setCondition status condition
  | setConditionIfDifferent condition => exact writes_setConditionIfDifferent status condition

theorem WorkflowStatus.hasCondition_iff (type : WorkflowConditionType) (wanted : ConditionStatus) :
    status.hasCondition type wanted = true ↔
      lookup WorkflowCondition.type WorkflowCondition.status status.conditions type =
        some wanted := by
  unfold WorkflowStatus.hasCondition WorkflowStatus.condition lookup
  cases status.conditions.find? fun condition => condition.type = type with
  | none | some condition => simp

end Api

namespace Bmc

structure JobConditionCall where
  type : JobConditionType
  status : ConditionStatus
  messages : List String := []

def Job.call (job : Job) (call : JobConditionCall) : Job :=
  job.setCondition call.type call.status call.messages.getLast?

theorem Job.writes_call (job : Job) (call : JobConditionCall) :
    Writes JobCondition.type JobCondition.status call.type call.status job.conditions
      (job.call call).conditions := by
  apply writes_update
  · exact fun _ isType => isType
  · exact fun _ _ => rfl
  · rfl

theorem Job.hasCondition_iff (job : Job) (type : JobConditionType)
    (wanted : ConditionStatus) :
    job.hasCondition type wanted = true ↔
      lookup JobCondition.type JobCondition.status job.conditions type = some wanted := by
  unfold Job.hasCondition lookup
  cases job.conditions.find? fun condition => condition.type = type with
  | none | some condition => simp

/-- A call of `SetCondition` on a Task. -/
structure TaskConditionCall where
  type : TaskConditionType
  status : ConditionStatus
  messages : List String := []

def TaskStatus.call (taskStatus : TaskStatus) (call : TaskConditionCall) : TaskStatus :=
  taskStatus.setCondition call.type call.status call.messages.getLast?

theorem TaskStatus.writes_call (taskStatus : TaskStatus) (call : TaskConditionCall) :
    Writes TaskCondition.type TaskCondition.status call.type call.status
      taskStatus.conditions (taskStatus.call call).conditions := by
  apply writes_update
  · exact fun _ isType => isType
  · exact fun _ _ => rfl
  · rfl

theorem TaskStatus.hasCondition_iff (taskStatus : TaskStatus) (type : TaskConditionType)
    (wanted : ConditionStatus) :
    taskStatus.hasCondition type wanted = true ↔
      lookup TaskCondition.type TaskCondition.status taskStatus.conditions type = some wanted := by
  unfold TaskStatus.hasCondition lookup
  cases taskStatus.conditions.find? fun condition => condition.type = type with
  | none | some condition => simp

end Bmc

namespace Api

section Maps

variable {α κ σ : Type} [DecidableEq κ]

/-- At most one condition of a type, in the order in which the types came first, and
`HasCondition` tells the status of the last call for a type, or the initial one. -/
structure BehavesLikeMap (type : α → κ) (status : α → σ) (initial : List α)
    (calls : List (κ × σ)) (final : List α) (hasCondition : κ → σ → Bool) : Prop where
  atMostOne : (final.map type).Nodup
  order : final.map type = (initial.map type ++ calls.map Prod.fst).eraseDups
  hasCondition_iff : ∀ wantedType wanted, hasCondition wantedType wanted = true ↔
    lastWritten (lookup type status initial) calls wantedType = some wanted

theorem behavesLikeMap_of_likeMap {type : α → κ} {status : α → σ} {initial final : List α}
    {calls : List (κ × σ)} {hasCondition : κ → σ → Bool}
    (likeMap : LikeMap type status initial calls final)
    (has : ∀ wantedType wanted, hasCondition wantedType wanted = true ↔
      lookup type status final wantedType = some wanted) :
    BehavesLikeMap type status initial calls final hasCondition where
  atMostOne := likeMap.distinct
  order := likeMap.order
  hasCondition_iff := by
    intro wantedType wanted
    rw [has, likeMap.written]

end Maps

/-- The conditions of workflows, Jobs and Tasks behave like maps under every sequence
of calls. -/
theorem conditions_behave_like_a_map :
    (∀ (status : WorkflowStatus) (calls : List WorkflowConditionCall),
      (status.conditions.map WorkflowCondition.type).Nodup →
        BehavesLikeMap WorkflowCondition.type WorkflowCondition.status status.conditions
          (calls.map fun call => (call.condition.type, call.condition.status))
          (calls.foldl WorkflowStatus.call status).conditions
          (calls.foldl WorkflowStatus.call status).hasCondition) ∧
    (∀ (job : Bmc.Job) (calls : List Bmc.JobConditionCall),
      (job.conditions.map Bmc.JobCondition.type).Nodup →
        BehavesLikeMap Bmc.JobCondition.type Bmc.JobCondition.status job.conditions
          (calls.map fun call => (call.type, call.status))
          (calls.foldl Bmc.Job.call job).conditions
          (calls.foldl Bmc.Job.call job).hasCondition) ∧
    (∀ (taskStatus : Bmc.TaskStatus) (calls : List Bmc.TaskConditionCall),
      (taskStatus.conditions.map Bmc.TaskCondition.type).Nodup →
        BehavesLikeMap Bmc.TaskCondition.type Bmc.TaskCondition.status taskStatus.conditions
          (calls.map fun call => (call.type, call.status))
          (calls.foldl Bmc.TaskStatus.call taskStatus).conditions
          (calls.foldl Bmc.TaskStatus.call taskStatus).hasCondition) := by
  refine ⟨?_, ?_, ?_⟩
  · intro status calls distinct
    exact behavesLikeMap_of_likeMap (writes_foldl writes_call distinct calls)
      (WorkflowStatus.hasCondition_iff _)
  · intro job calls distinct
    exact behavesLikeMap_of_likeMap (writes_foldl Bmc.Job.writes_call distinct calls)
      (Bmc.Job.hasCondition_iff _)
  · intro taskStatus calls distinct
    exact behavesLikeMap_of_likeMap (writes_foldl Bmc.TaskStatus.writes_call distinct calls)
      (Bmc.TaskStatus.hasCondition_iff _)

/-- A Job that was running already and has a condition of somebody else. -/
theorem conditions_behave_like_a_map_job :
    let calls : List Bmc.JobConditionCall :=
      [⟨.completed, .true, []⟩, ⟨.failed, .true, ["no answer"]⟩, ⟨.running, .false, []⟩]
    let job : Bmc.Job :=
      { name := "boot", «namespace» := "metal", uid := "1"
        conditions := [⟨.other "Audited", .true, ""⟩, ⟨.running, .true, ""⟩] }
    BehavesLikeMap Bmc.JobCondition.type Bmc.JobCondition.status job.conditions
        (calls.map fun call => (call.type, call.status))
        (calls.foldl Bmc.Job.call job).conditions
        (calls.foldl Bmc.Job.call job).hasCondition ∧
      (calls.foldl Bmc.Job.call job).conditions =
        [⟨.other "Audited", .true, ""⟩, ⟨.running, .false, ""⟩, ⟨.completed, .true, ""⟩,
          ⟨.failed, .true, "no answer"⟩] := by
  intro calls job
  exact ⟨conditions_behave_like_a_map.2.1 job calls (by decide), by decide⟩

end Api

end Tinkerbell
