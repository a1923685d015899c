import Mathlib.Data.List.Perm.Basic
import Tinkerbell.Api.Bmc
import Tinkerbell.Library.MergePatch

/-!
Owns: the Job reconciler of the BMC controller: which Tasks it lists for a Job,
what it decides from them, the Task it creates next, and the status it writes.

A reconcile lists the Tasks through an index on the name of the controlling
Job. It walks over the list, counts the completed Tasks and stops at the first
one that is not completed; the count is the index of the next action.
-/

namespace Tinkerbell.Rufio

open Api

def groupVersion : String := "bmc.tinkerbell.org/v1alpha1"

def controllerOf (task : Bmc.Task) : Option Bmc.OwnerReference :=
  task.ownerReferences.find? fun owner => owner.controller

def taskOwnerIndexFunc (task : Bmc.Task) : List String :=
  match controllerOf task with
  | none => []
  | some owner =>
    if owner.kind ≠ "Job" ∨ owner.apiVersion ≠ groupVersion then []
    else [owner.name]

def listedFor (job : Bmc.Job) (task : Bmc.Task) : Bool :=
  job.name ∈ taskOwnerIndexFunc task

def ownerReference (job : Bmc.Job) : Bmc.OwnerReference where
  apiVersion := groupVersion
  kind := "Job"
  name := job.name
  uid := job.uid
  controller := true

def ownedBy (job : Bmc.Job) (task : Bmc.Task) : Bool :=
  controllerOf task = some (ownerReference job)

/-- What a reconcile decides from the listed Tasks. -/
inductive Decision where
  | taskFailed (task : Bmc.Task)
  | waiting
  | completed
  | create (index : Nat)

/-- The loop over the listed Tasks and the comparison after it. `count` is the
number of completed Tasks seen so far, `actions` that of the Job's actions. -/
def decideTasks (actions : Nat) (count : Nat) : List Bmc.Task → Decision
  | [] => if count = actions then .completed else .create count
  | task :: rest =>
    if task.completed then decideTasks actions (count + 1) rest
    else if task.failed then .taskFailed task
    else .waiting

def markRunning (now : Time) (job : Bmc.Job) : Bmc.Job :=
  if job.hasCondition .running .true then job
  else ({ job with startTime := some now } : Bmc.Job).setCondition .running .true

def failJob (message : String) (job : Bmc.Job) : Bmc.Job :=
  job.setCondition .failed .true (some message)

def completeJob (now : Time) (job : Bmc.Job) : Bmc.Job :=
  { job.setCondition .completed .true with completionTime := some now }

def taskFailedMessage (task : Bmc.Task) : String :=
  "task " ++ task.namespace ++ "/" ++ task.name ++ " failed"

def createFailedMessage (job : Bmc.Job) (index : Nat) (err : String) : String :=
  "failed to create Task " ++ job.namespace ++ "/" ++
    Bmc.formatTaskName job index ++ ": " ++ err

def ownTask (job : Bmc.Job) (index : Nat) (action : Bmc.Action)
    (connection : Bmc.Connection) : Bmc.Task where
  name := Bmc.formatTaskName job index
  «namespace» := job.namespace
  labels := [("owner-name", job.name)]
  ownerReferences := [ownerReference job]
  spec := { task := action, connection }

/-- `patchStatus`: the difference between the Job read and the Job computed,
applied to the stored one. -/
def patchJobStatus (read updated stored : Bmc.Job) : Bmc.Job :=
  { stored with
    conditions := MergePatch.mergeField read.conditions updated.conditions
      stored.conditions
    startTime := MergePatch.mergeField (read.startTime.bind storedTime)
      (updated.startTime.bind storedTime) stored.startTime
    completionTime := MergePatch.mergeField (read.completionTime.bind storedTime)
      (updated.completionTime.bind storedTime) stored.completionTime }

def jobEnded (job : Bmc.Job) : Bool :=
  job.hasCondition .completed .true || job.hasCondition .failed .true

@[simp] theorem hasCondition_markRunning (now : Time) (job : Bmc.Job)
    {type : Bmc.JobConditionType} (other : type ≠ .running)
    (wanted : Bmc.ConditionStatus) :
    (markRunning now job).hasCondition type wanted = job.hasCondition type wanted := by
  unfold markRunning
  split
  · rfl
  · rw [Bmc.Job.hasCondition_setCondition, if_neg (Ne.symm other)]
    rfl

@[simp] theorem completed_failJob (message : String) (job : Bmc.Job) :
    (failJob message job).hasCondition .completed .true = job.hasCondition .completed .true := by
  simp [failJob, Bmc.Job.hasCondition_setCondition]

@[simp] theorem failed_completeJob (now : Time) (job : Bmc.Job) :
    (completeJob now job).hasCondition .failed .true = job.hasCondition .failed .true := by
  show (job.setCondition .completed .true).hasCondition .failed .true = _
  simp [Bmc.Job.hasCondition_setCondition]

@[simp] theorem hasCondition_patchJobStatus (stored updated : Bmc.Job)
    (type : Bmc.JobConditionType) (wanted : Bmc.ConditionStatus) :
    (patchJobStatus stored updated stored).hasCondition type wanted =
      updated.hasCondition type wanted := by
  simp [patchJobStatus, Bmc.Job.hasCondition]

theorem decideTasks_eq_find (actions count : Nat) (tasks : List Bmc.Task) :
    decideTasks actions count tasks =
      match tasks.find? (fun task => !task.completed) with
      | some task => if task.failed then .taskFailed task else .waiting
      | none =>
        if count + tasks.length = actions then .completed
        else .create (count + tasks.length) := by
  induction tasks generalizing count with
  | nil => rfl
  | cons task rest ih =>
    unfold decideTasks
    by_cases completed : task.completed = true
    · rw [if_pos completed, ih, List.find?_cons]
      simp only [completed, Bool.not_true, List.length_cons]
      rw [show count + 1 + rest.length = count + (rest.length + 1) by omega]
    · rw [if_neg completed, List.find?_cons]
      simp [completed]

variable {actions : Nat} {task : Bmc.Task} {job : Bmc.Job}

variable {count : Nat} {tasks : List Bmc.Task}

theorem decideTasks_all_completed (completed : ∀ task ∈ tasks, task.completed = true) :
    decideTasks actions count tasks =
      if count + tasks.length = actions then .completed
      else .create (count + tasks.length) := by
  have none : tasks.find? (fun task => !task.completed) = none := by
    simpa using completed
  rw [decideTasks_eq_find, none]

theorem decideTasks_unfinished (found : tasks.find? (fun task => !task.completed) = some task) :
    decideTasks actions count tasks =
      if task.failed then .taskFailed task else .waiting := by
  rw [decideTasks_eq_find, found]

/-- At most one Task of the list is not completed. -/
def OneUnfinished (tasks : List Bmc.Task) : Prop :=
  ∀ first ∈ tasks, ∀ second ∈ tasks,
    first.completed = false → second.completed = false → first = second

theorem decideTasks_perm {left right : List Bmc.Task} (permuted : left.Perm right)
    (unique : OneUnfinished left) :
    decideTasks actions 0 left = decideTasks actions 0 right := by
  rw [decideTasks_eq_find, decideTasks_eq_find, permuted.length_eq]
  have sameFirst : left.find? (fun task => !task.completed) =
      right.find? (fun task => !task.completed) := by
    cases found : right.find? (fun task => !task.completed) with
    | none =>
      rw [List.find?_eq_none] at found ⊢
      intro task member
      exact found task (permuted.mem_iff.mp member)
    | some task =>
      have isRight := List.mem_of_find?_eq_some found
      have unfinished : task.completed = false := by simpa using List.find?_some found
      have isLeft := permuted.mem_iff.mpr isRight
      cases other : left.find? (fun task => !task.completed) with
      | none =>
        rw [List.find?_eq_none] at other
        exact absurd (by simpa using unfinished) (other task isLeft)
      | some first =>
        have open' : first.completed = false := by simpa using List.find?_some other
        rw [unique first (List.mem_of_find?_eq_some other) task isLeft open' unfinished]
  rw [sameFirst]

theorem listedFor_of_ownedBy (owned : ownedBy job task = true) : listedFor job task = true := by
  have controller : controllerOf task = some (ownerReference job) := by
    simpa [ownedBy] using owned
  simp [listedFor, taskOwnerIndexFunc, controller, ownerReference]

theorem ownedBy_of_unlisted (unlisted : listedFor job task = false) : ownedBy job task = false := by
  cases owned : ownedBy job task with
  | false => rfl
  | true =>
    rw [listedFor_of_ownedBy owned] at unlisted
    cases unlisted

theorem ownedBy_ownTask (job : Bmc.Job) (index : Nat) (action : Bmc.Action)
    (connection : Bmc.Connection) :
    ownedBy job (ownTask job index action connection) = true := by
  simp [ownedBy, controllerOf, ownTask, ownerReference]

end Tinkerbell.Rufio
