import Tinkerbell.Rufio.Leftover

/-!
Owns: Job reconciles that list the Tasks from a cache. The list may show any
earlier state of the Task set, while a create is answered by the server.

A Job fails when a listed Task has failed or a create is refused. Under
`CacheShowsNewest` a refusal never comes from the Job's own Task, so a Job that
fails has a failed Task of its own or met some other refusal.
-/

namespace Tinkerbell.Rufio

open Api
open TransitionSystem

/-- The list is that of the present or of an earlier Task set. -/
def ListedBefore (world : World) (listed : List Bmc.Task) : Prop :=
  ∃ tasks ∈ world.tasks :: world.past, listed.Perm (listedTasks world.job tasks)

instance (world : World) (listed : List Bmc.Task) : Decidable (ListedBefore world listed) :=
  inferInstanceAs (Decidable (∃ tasks ∈ world.tasks :: world.past, _))

def NotCreated (world : World) (index : Nat) : Prop :=
  (world.tasks.find (Bmc.formatTaskName world.job index)).all
    (fun task => !ownedBy world.job task) = true

instance (world : World) (index : Nat) : Decidable (NotCreated world index) :=
  inferInstanceAs (Decidable (_ = true))

/-- What the list leaves to the server: while a Task under way is listed,
nothing; when all listed Tasks are completed, the next Task must not exist. A
failed Task that is listed first must be the Job's own. -/
def ShowsNewest (world : World) (listed : List Bmc.Task) : Option Bmc.Task → Prop
  | some task => task.failed = true → ownedBy world.job task = true
  | none => listed.length ≠ world.job.tasks.length → NotCreated world listed.length

instance (world : World) (listed : List Bmc.Task) :
    (first : Option Bmc.Task) → Decidable (ShowsNewest world listed first)
  | some _ | none => inferInstanceAs (Decidable (_ → _))

def CacheShowsNewest (world : World) : Label → Prop
  | .listTasks _ (.ok listed) => ListedBefore world listed ∧
      ShowsNewest world listed (listed.find? fun task => !task.completed)
  | label => Undisturbed world label

instance (world : World) : (label : Label) → Decidable (CacheShowsNewest world label)
  | .listTasks _ (.ok _) => inferInstanceAs (Decidable (_ ∧ _))
  | .createTask _ | .addTask _ => inferInstanceAs (Decidable (_ = false))
  | .removeTask name => inferInstanceAs (Decidable (Undisturbed world (.removeTask name)))
  | .listTasks _ (.error _) | .beginJob _ _ | .patchJob _ | .beginTask _ _ | .callBmc _ _
  | .checkTask _ _ _ | .patchTask _ _ => isTrue trivial

variable {world after : World} {label : Label} {index : Nat}

theorem undisturbed_of_newest (newest : CacheShowsNewest world label) :
    Undisturbed world label := by
  cases label with
  | addTask | removeTask | createTask => exact newest
  | _ => trivial

def HasFailedTask (world : World) : Prop := ∃ task ∈ world.own, task.failed = true

theorem notCreated_iff :
    NotCreated world index ↔ ∀ task,
      world.tasks.find (Bmc.formatTaskName world.job index) = some task →
        ownedBy world.job task = false := by
  unfold NotCreated
  cases world.tasks.find (Bmc.formatTaskName world.job index) with
  | none | some task => simp

theorem HasFailedTask.effect (failed : HasFailedTask world) (reads : Reads world)
    (undisturbed : Undisturbed world label) (effect : Effect world label after) :
    HasFailedTask after := by
  obtain ⟨task, member, isFailed⟩ := failed
  have kept : task ∈ after.own → HasFailedTask after :=
    fun stays => ⟨task, stays, isFailed⟩
  cases effect with
  | create _ _ connection index action inFlight _ free =>
    apply kept
    obtain ⟨rfl, _⟩ := reads.job _ inFlight
    show task ∈ ownTasks world.job (world.tasks.insert _)
    rw [ownTasks_insert free (ownedBy_ownTask world.job index action connection)]
    exact List.mem_append_left _ member
  | patchTask name _ read status inFlight =>
    apply kept
    have ended : taskEnded task.status = true := by
      unfold taskEnded
      rw [show task.status.hasCondition .failed .true = true from isFailed]
      rfl
    show task ∈ (world.writeTask name read.status status).own
    rw [World.own_writeTask]
    exact List.mem_map.mpr ⟨task, member, World.changeAt_ended reads inFlight member ended⟩
  | addTask other =>
    apply kept
    show task ∈ ownTasks world.job (world.tasks.insert other)
    rw [ownTasks_insert_foreign undisturbed]
    exact member
  | removeTask name =>
    apply kept
    show task ∈ ownTasks world.job (world.tasks.remove name)
    rw [ownTasks_remove_foreign fun _ found => ownedBy_of_removed undisturbed found]
    exact member
  | _ => exact kept member

/-- The Job has a failed Task, or the server refused one of its Tasks for
another reason than that this very Task exists. -/
def Excused (world : World) : Prop :=
  HasFailedTask world ∨ ∃ index refusal, refusal ≠ .sameTask ∧
    .createRefused (ownRef world.job index) refusal ∈ world.log

theorem Excused.effect (excused : Excused world) (reads : Reads world)
    (undisturbed : Undisturbed world label) (effect : Effect world label after) :
    Excused after := by
  rcases excused with failed | ⟨index, refusal, other, logged⟩
  · exact Or.inl (failed.effect reads undisturbed effect)
  · refine Or.inr ⟨index, refusal, other, ?_⟩
    cases effect with
    | create | refuse | patchJob | call | check | patchTask => exact List.mem_append_left _ logged
    | _ => exact logged

/-- What every run keeps whose lists meet the condition. -/
structure FailsWithCause (world : World) : Prop where
  reads : Reads world
  /-- A failed Task that the cache may still show is still there. -/
  shown : ∀ tasks ∈ world.past, ∀ task ∈ ownTasks world.job tasks,
    task.failed = true → HasFailedTask world
  creating : ∀ run connection index, world.jobRun = some run →
    run.phase = .creating connection index → NotCreated world index
  failing : ∀ run, world.jobRun = some run →
    run.updated.hasCondition .failed .true = true → Excused world
  failed : world.job.hasCondition .failed .true = true → Excused world

theorem FailsWithCause.listed_failed (cause : FailsWithCause world) {listed : List Bmc.Task}
    (before : ListedBefore world listed) {task : Bmc.Task} (member : task ∈ listed)
    (owned : ownedBy world.job task = true) (failed : task.failed = true) :
    HasFailedTask world := by
  obtain ⟨tasks, isState, permuted⟩ := before
  have isItem : task ∈ tasks.items :=
    (List.mem_filter.mp (permuted.mem_iff.mp member)).1
  have isOwn : task ∈ ownTasks world.job tasks := List.mem_filter.mpr ⟨isItem, owned⟩
  rcases List.mem_cons.mp isState with rfl | earlier
  · exact ⟨task, isOwn, failed⟩
  · exact cause.shown tasks earlier task isOwn failed

/-- A decision made from the cache fails the Job with a cause, and leads to a
create only of a Task that the Job does not have yet. -/
theorem FailsWithCause.decided {world : World} (cause : FailsWithCause world)
    {now : Time} {run next : JobRun} {connection : Bmc.Connection}
    {listed : List Bmc.Task} (active : jobEnded run.updated = false)
    (newest : CacheShowsNewest world (.listTasks now (.ok listed)))
    (decided : World.decided now run connection
      (decideTasks world.job.tasks.length 0 listed) = some next) :
    (∀ other index, next.phase = .creating other index → NotCreated world index) ∧
      (next.updated.hasCondition .failed .true = true → HasFailedTask world) := by
  obtain ⟨before, shows⟩ := newest
  obtain ⟨_, notFailed⟩ := jobEnded_eq_false.mp active
  cases first : listed.find? (fun task => !task.completed) with
  | some =>
    rw [first] at shows
    rw [decideTasks_unfinished first] at decided
    split at decided
    · next failed =>
      cases decided
      refine ⟨by simp, fun _ => ?_⟩
      exact cause.listed_failed before (List.mem_of_find?_eq_some first)
        (shows failed) failed
    · cases decided
  | none =>
    rw [first] at shows
    have completed : ∀ task ∈ listed, task.completed = true := by simpa using first
    rw [decideTasks_all_completed completed, Nat.zero_add] at decided
    split at decided
    · cases decided
      refine ⟨by simp, ?_⟩
      intro failed
      rw [failed_completeJob, notFailed] at failed
      cases failed
    · next missing =>
      cases decided
      refine ⟨?_, ?_⟩
      · intro other index isPhase
        cases isPhase
        exact shows missing
      · intro failed
        rw [show run.updated.hasCondition .failed .true = true from failed] at notFailed
        cases notFailed

theorem notCreated_of_find {world after : World} {index : Nat}
    (notCreated : NotCreated world index) (sameJob : after.job = world.job)
    (found : ∀ name task, after.tasks.find name = some task →
      ownedBy world.job task = true → ∃ old, world.tasks.find name = some old ∧
        ownedBy world.job old = true) : NotCreated after index := by
  rw [notCreated_iff] at notCreated ⊢
  rw [sameJob]
  intro task isThere
  cases owned : ownedBy world.job task with
  | false => rfl
  | true =>
    obtain ⟨old, isOld, oldOwned⟩ := found _ task isThere owned
    rw [notCreated old isOld] at oldOwned
    cases oldOwned

theorem FailsWithCause.creating_effect (cause : FailsWithCause world)
    (newest : CacheShowsNewest world label) (effect : Effect world label after) :
    ∀ run connection index, after.jobRun = some run →
      run.phase = .creating connection index → NotCreated after index := by
  intro run connection index inFlight isPhase
  cases effect with
  | idle => exact cause.creating run connection index inFlight isPhase
  | dropJob => cases inFlight
  | beginJob =>
    cases inFlight
    cases isPhase
  | decide _ _ _ _ _ isRun =>
    obtain ⟨rfl, _⟩ := cause.reads.job _ isRun
    have undecided := (cause.reads.consistent _ isRun).undecided (by simp)
    exact (cause.decided undecided newest inFlight).1 connection index isPhase
  | create | refuse =>
    cases inFlight
    cases isPhase
  | patchJob => cases inFlight
  | patchTask name _ task status =>
    have notCreated := cause.creating run connection index inFlight isPhase
    apply notCreated_of_find notCreated
    · rfl
    · intro other stored found owned
      change (world.writeTask name task.status status).tasks.find other = some stored at found
      rw [World.find_writeTask] at found
      split at found
      · obtain ⟨old, isOld, rfl⟩ := Option.map_eq_some_iff.mp found
        exact ⟨old, isOld, owned⟩
      · exact ⟨stored, found, owned⟩
  | addTask =>
    have notCreated := cause.creating run connection index inFlight isPhase
    apply notCreated_of_find notCreated
    · rfl
    · intro name stored found owned
      rcases ObjectStore.found_insert found with old | rfl
      · exact ⟨stored, old, owned⟩
      · have foreign : ownedBy world.job stored = false := newest
        rw [foreign] at owned
        cases owned
  | removeTask =>
    have notCreated := cause.creating run connection index inFlight isPhase
    apply notCreated_of_find notCreated
    · rfl
    · intro other stored found owned
      exact ⟨stored, ObjectStore.found_remove found, owned⟩
  | _ => exact cause.creating run connection index inFlight isPhase

theorem refusal_ne_sameTask {world : World} {action : Bmc.Action} {index : Nat}
    {connection : Bmc.Connection} {reply : Controller.WriteReply} {refusal : Refusal}
    (notCreated : NotCreated world index)
    (answer : world.createAnswer (ownTask world.job index action connection) reply =
      some refusal) : refusal ≠ .sameTask := by
  rintro rfl
  cases reply with
  | refused | lost => cases answer
  | done =>
    unfold World.createAnswer at answer
    dsimp only at answer
    split at answer
    · next existing found =>
      have foreign := notCreated_iff.mp notCreated existing found
      rw [foreign] at answer
      cases answer
    · cases answer

theorem FailsWithCause.failing_effect (cause : FailsWithCause world)
    (newest : CacheShowsNewest world label) (effect : Effect world label after) :
    ∀ run, after.jobRun = some run →
      run.updated.hasCondition .failed .true = true → Excused after := by
  intro run inFlight failed
  have undisturbed := undisturbed_of_newest newest
  have carry : Excused world → Excused after :=
    fun excused => excused.effect cause.reads undisturbed effect
  cases effect with
  | dropJob => cases inFlight
  | beginJob now _ _ active =>
    cases inFlight
    rw [hasCondition_markRunning now world.job (by simp) .true,
      (jobEnded_eq_false.mp active).2] at failed
    cases failed
  | decide _ _ _ _ _ isRun =>
    obtain ⟨rfl, _⟩ := cause.reads.job _ isRun
    have undecided := (cause.reads.consistent _ isRun).undecided (by simp)
    exact carry (Or.inl ((cause.decided undecided newest inFlight).2 failed))
  | create _ _ _ _ _ isRun =>
    cases inFlight
    have undecided := (cause.reads.consistent _ isRun).undecided (by simp)
    rw [(jobEnded_eq_false.mp undecided).2] at failed
    cases failed
  | refuse _ _ connection index _ _ refusal isRun _ answer =>
    obtain ⟨rfl, _⟩ := cause.reads.job _ isRun
    have notCreated := cause.creating _ connection index isRun rfl
    refine Or.inr ⟨index, refusal, refusal_ne_sameTask notCreated answer, ?_⟩
    exact List.mem_append_right _ (List.mem_singleton_self _)
  | patchJob => cases inFlight
  | _ => exact carry (cause.failing run inFlight failed)

theorem FailsWithCause.failed_effect (cause : FailsWithCause world)
    (newest : CacheShowsNewest world label) (effect : Effect world label after) :
    after.job.hasCondition .failed .true = true → Excused after := by
  intro failed
  have undisturbed := undisturbed_of_newest newest
  have carry : Excused world → Excused after :=
    fun excused => excused.effect cause.reads undisturbed effect
  cases effect with
  | patchJob _ _ updated isRun =>
    obtain ⟨rfl, _⟩ := cause.reads.job _ isRun
    change (patchJobStatus world.job updated world.job).hasCondition _ _ = _ at failed
    rw [hasCondition_patchJobStatus] at failed
    exact carry (cause.failing _ isRun failed)
  | _ => exact carry (cause.failed failed)

theorem Effect.ownedBy_eq (effect : Effect world label after) :
    ownedBy after.job = ownedBy world.job := by
  cases effect <;> rfl

theorem FailsWithCause.step (cause : FailsWithCause world) (newest : CacheShowsNewest world label) :
    FailsWithCause (step world label) := by
  have undisturbed := undisturbed_of_newest newest
  have effect := undisturbed.act_effect
  have reads := cause.reads.effect undisturbed effect
  have creating := cause.creating_effect newest effect
  have failing := cause.failing_effect newest effect
  have failed := cause.failed_effect newest effect
  have sameOwner := effect.ownedBy_eq
  refine ⟨⟨reads.job, reads.consistent, reads.task⟩, ?_, creating, failing, failed⟩
  intro tasks isPast task isOwn isFailed
  have still : HasFailedTask world := by
    change task ∈ tasks.items.filter (ownedBy (world.act label).job) at isOwn
    rw [sameOwner] at isOwn
    rcases List.mem_cons.mp isPast with rfl | earlier
    · exact ⟨task, isOwn, isFailed⟩
    · exact cause.shown tasks earlier task isOwn isFailed
  have kept := still.effect cause.reads undisturbed effect
  exact kept

theorem failsWithCause_start {job : Bmc.Job} (tasks : TaskStore)
    (notFailed : job.hasCondition .failed .true = false) :
    FailsWithCause (World.start job tasks) := by
  refine ⟨⟨?_, ?_, ?_⟩, ?_, ?_, ?_, ?_⟩
  · simp [World.start]
  · simp [World.start]
  · simp [World.start]
  · simp [World.start]
  · simp [World.start]
  · simp [World.start]
  · intro failed
    rw [show job.hasCondition .failed .true = true from failed] at notFailed
    cases notFailed

/-- However far the cache lags behind, as long as it shows the Job's newest Task
before the next one is due, a Job fails only with a cause. -/
theorem stale_cache_fails_with_cause (job : Bmc.Job) (tasks : TaskStore)
    (labels : List Label) (notFailed : job.hasCondition .failed .true = false)
    (newest : Meets step CacheShowsNewest (World.start job tasks) labels) :
    (run step (World.start job tasks) labels).job.hasCondition .failed .true = true →
      Excused (run step (World.start job tasks) labels) := by
  have cause : FailsWithCause (run step (World.start job tasks) labels) := by
    apply run_invariant _ (failsWithCause_start tasks notFailed) newest
    intro world label kept shows
    exact kept.step shows
  exact cause.failed

def failTaskSteps (name : String) : List Label :=
  [.beginTask name ⟨3, none, none⟩, .callBmc name (.failed false "no route"),
    .patchTask name .done]

def failingRun : List Label :=
  let start := World.start bootJob noTasks
  let created := reconcileJob start
  let failed := created ++ failTaskSteps (Bmc.formatTaskName bootJob 0)
  failed ++ reconcileJob (run step start created) ++ reconcileJob (run step start failed)

theorem stale_cache_fails_with_cause_boot :
    let world := run step (World.start bootJob noTasks) failingRun
    world.job.hasCondition .failed .true = true ∧ Excused world := by
  have failed : (run step (World.start bootJob noTasks) failingRun).job.hasCondition
      .failed .true = true := by decide +kernel
  refine ⟨failed, ?_⟩
  refine stale_cache_fails_with_cause bootJob noTasks failingRun ?_ ?_ failed
  · decide
  · decide +kernel

/-- The second reconcile still sees no Task, asks for the first Task again, and
fails the Job because it exists. -/
theorem stale_cache_fails_job :
    let reconcile := [.beginJob 1 (.ok {}), .listTasks 2 (.ok []), .createTask .done,
      .patchJob .done]
    let created := run step (World.start bootJob noTasks) reconcile
    let world := run step created reconcile
    ListedBefore created [] ∧
      world.job.hasCondition .failed .true = true ∧
      (∀ task ∈ world.tasks.items, task.failed = false) ∧
      world.log = [.taskCreated (ownRef bootJob 0),
        .createRefused (ownRef bootJob 0) .sameTask, .jobFailed] := by
  decide +kernel

end Tinkerbell.Rufio
