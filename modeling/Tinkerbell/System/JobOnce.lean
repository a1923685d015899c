import Tinkerbell.System.BootJob

/-!
Owns: when the controller keeps a boot Job it created, and the run in which it takes
its own Job for a leftover.
-/

namespace Tinkerbell.System

open Api Server Controller TransitionSystem


def createsJob (name : String) : Event → Bool
  | .jobCreated other _ => other = name
  | _ => false

def touchesJob (name : String) : Event → Bool
  | .jobCreated other _ => other = name
  | .jobDeleted other _ => other = name
  | _ => false

def CreatedOnce (name : String) (log : List Event) : Prop :=
  log.Pairwise fun first later =>
    createsJob name first = true → touchesJob name later = false

instance (name : String) (log : List Event) : Decidable (CreatedOnce name log) := by
  unfold CreatedOnce
  infer_instance

/-- The log has the creation of a Job of the name. -/
def WasCreated (name : String) (log : List Event) : Prop :=
  ∃ event ∈ log, createsJob name event = true

def FindsJob (world : World) : Label → Prop
  | .beginReconcile _ => ∀ name ∈ bootJobName world.stored.value,
      world.entry name ≠ none ∨ world.cluster.jobs name ≠ none
  | .job (.removed _) => False
  | _ => True

instance (world : World) : (label : Label) → Decidable (FindsJob world label)
  | .job (.removed _) => isFalse id
  | .ask _ | .report _ _ _ | .read _ | .write _ | .beginReconcile _ | .patch _
  | .job (.conditionsSet _ _) | .job (.finalized _) => by
      unfold FindsJob
      infer_instance

structure JobKept (name : String) (entry : Option JobStatus) (job : Option Bmc.Job)
    (log : List Event) : Prop where
  once : CreatedOnce name log
  cleaned : WasCreated name log →
    ∃ status, entry = some status ∧ status.existingJobDeleted = true
  present : WasCreated name log →
    ∃ found, job = some found ∧ found.deletionTimestamp = none

variable {event : Event}

theorem isAboutJob_of_touchesJob {name : String} (touches : touchesJob name event = true) :
    event.isAboutJob name = true := by
  cases event with
  | jobCreated | jobDeleted => exact touches
  | hardwareUpdated | tasksDeleted => cases touches

theorem touchesJob_of_createsJob {name : String} (creates : createsJob name event = true) :
    touchesJob name event = true := by
  cases event with
  | jobCreated => exact creates
  | hardwareUpdated | tasksDeleted | jobDeleted => cases creates

theorem mem_jobEvents_of_touchesJob {name : String} {events : List Event} (member : event ∈ events)
    (touches : touchesJob name event = true) :
    event ∈ jobEvents name events :=
  List.mem_filter.mpr ⟨member, isAboutJob_of_touchesJob touches⟩

theorem wasCreated_append {name : String} {log events : List Event} :
    WasCreated name (log ++ events) ↔
      WasCreated name log ∨ WasCreated name (jobEvents name events) := by
  constructor
  · rintro ⟨event, member, creates⟩
    rcases List.mem_append.mp member with inLog | inEvents
    · exact Or.inl ⟨event, inLog, creates⟩
    · exact Or.inr ⟨event, mem_jobEvents_of_touchesJob inEvents
        (touchesJob_of_createsJob creates), creates⟩
  · rintro (⟨event, inLog, creates⟩ | ⟨event, inTrace, creates⟩)
    · exact ⟨event, List.mem_append_left events inLog, creates⟩
    · exact ⟨event, List.mem_append_right log (List.mem_filter.mp inTrace).1, creates⟩

theorem CreatedOnce.append {name : String} {log events : List Event}
    (once : CreatedOnce name log) (traceOnce : CreatedOnce name (jobEvents name events))
    (apart : WasCreated name log →
      ∀ event ∈ jobEvents name events, touchesJob name event = false) :
    CreatedOnce name (log ++ events) := by
  refine List.pairwise_append.mpr ⟨once, ?_, ?_⟩
  · refine (List.pairwise_filter.mp traceOnce).imp ?_
    intro first later related creates
    by_contra touches
    rw [Bool.not_eq_false] at touches
    have kept := related (isAboutJob_of_touchesJob (touchesJob_of_createsJob creates))
      (isAboutJob_of_touchesJob touches) creates
    rw [touches] at kept
    cases kept
  · intro first inLog later inEvents creates
    by_contra touches
    rw [Bool.not_eq_false] at touches
    have kept := apart ⟨first, inLog, creates⟩ later
      (mem_jobEvents_of_touchesJob inEvents touches)
    rw [touches] at kept
    cases kept

theorem jobKept_of_not_created {name : String} {log : List Event}
    (once : CreatedOnce name log) (notCreated : ¬WasCreated name log)
    (entry : Option JobStatus) (job : Option Bmc.Job) : JobKept name entry job log :=
  ⟨once, fun isCreated => absurd isCreated notCreated,
    fun isCreated => absurd isCreated notCreated⟩

namespace JobKept

variable {name : String} {entry : Option JobStatus} {job : Option Bmc.Job}
  {log events : List Event} (kept : JobKept name entry job log)
include kept

theorem untouched {recorded : Option JobStatus}
    (quiet : ∀ event ∈ jobEvents name events, touchesJob name event = false)
    (cleaned : ∀ status, entry = some status → status.existingJobDeleted = true →
      ∃ next, recorded = some next ∧ next.existingJobDeleted = true) :
    JobKept name recorded job (log ++ events) := by
  have noneCreated : ∀ event ∈ jobEvents name events, createsJob name event ≠ true := by
    intro event member creates
    have touches := touchesJob_of_createsJob creates
    rw [quiet event member] at touches
    cases touches
  have before : WasCreated name (log ++ events) → WasCreated name log := by
    intro isCreated
    rcases wasCreated_append.mp isCreated with inLog | ⟨event, member, creates⟩
    · exact inLog
    · exact absurd creates (noneCreated event member)
  refine ⟨kept.once.append ?_ (fun _ => quiet), ?_, ?_⟩
  · refine List.pairwise_of_forall_mem_list ?_
    intro first member later _ creates
    exact absurd creates (noneCreated first member)
  · intro isCreated
    obtain ⟨status, isEntry, isCleaned⟩ := kept.cleaned (before isCreated)
    exact cleaned status isEntry isCleaned
  · intro isCreated
    exact kept.present (before isCreated)

theorem not_created_of_due {status : JobStatus} (found : entry = some status)
    (due : status.existingJobDeleted = false) : ¬WasCreated name log := by
  intro isCreated
  obtain ⟨_, isEntry, isCleaned⟩ := kept.cleaned isCreated
  rw [found] at isEntry
  cases isEntry
  rw [due] at isCleaned
  cases isCleaned

theorem not_created_of_absent (absent : job = none) : ¬WasCreated name log := by
  intro isCreated
  obtain ⟨_, isFound, _⟩ := kept.present isCreated
  rw [absent] at isFound
  cases isFound

theorem jobStep {recorded : Option JobStatus} {left : Option Bmc.Job}
    (follows : JobStep name entry job recorded left (jobEvents name events))
    (finds : jobEvents name events ≠ [] → entry ≠ none ∨ job ≠ none) :
    JobKept name entry left (log ++ events) ∧
      JobKept name recorded left (log ++ events) := by
  have append := @CreatedOnce.append name log events kept.once
  have created := @wasCreated_append name log events
  have untouched := fun recorded => @JobKept.untouched name entry job log events kept recorded
  generalize jobEvents name events = trace at follows finds append created untouched
  cases follows with
  | idle quiet =>
    have same := untouched entry (fun event member => by rw [quiet event member]; rfl)
      fun status isEntry isCleaned => ⟨status, isEntry, isCleaned⟩
    exact ⟨same, same⟩
  | @deleted _ _ found due =>
    have notCreated := kept.not_created_of_due found due
    have notNow : ¬WasCreated name (log ++ events) := by
      intro isCreated
      rcases created.mp isCreated with inLog | inTrace
      · exact notCreated inLog
      · simp [WasCreated, createsJob] at inTrace
    have once : CreatedOnce name (log ++ events) :=
      append (by simp [CreatedOnce, createsJob]) fun isCreated => absurd isCreated notCreated
    exact ⟨jobKept_of_not_created once notNow _ _, jobKept_of_not_created once notNow _ _⟩
  | @created new cleaned absent unmarked =>
    have notCreated := kept.not_created_of_absent absent
    have isCleaned : ∃ status, entry = some status ∧ status.existingJobDeleted = true := by
      rcases cleaned with noEntry | isCleaned
      · rcases finds (by simp) with hasEntry | hasJob
        · exact absurd noEntry hasEntry
        · exact absurd absent hasJob
      · exact isCleaned
    have same : JobKept name entry (some new) (log ++ events) :=
      ⟨append (by simp [CreatedOnce]) fun isCreated => absurd isCreated notCreated,
        fun _ => isCleaned, fun _ => ⟨new, rfl, unmarked⟩⟩
    exact ⟨same, same⟩
  | adopted =>
    refine ⟨untouched entry (by simp) fun status isEntry isCleaned =>
      ⟨status, isEntry, isCleaned⟩, untouched _ (by simp) ?_⟩
    intro status isEntry isCleaned
    refine ⟨_, rfl, ?_⟩
    rw [isEntry]
    exact isCleaned
  | @completed status _ _ cleaned =>
    exact ⟨untouched entry (by simp) fun status isEntry isCleaned =>
      ⟨status, isEntry, isCleaned⟩, untouched _ (by simp) fun _ _ _ => ⟨_, rfl, cleaned⟩⟩

end JobKept

theorem jobProperty_jobKept : JobProperty FindsJob JobKept where
  fresh name job := by
    refine ⟨List.Pairwise.nil, ?_, ?_⟩ <;> rintro ⟨event, member, _⟩ <;> cases member
  step world replies name recorded left events finds kept follows handles := by
    apply kept.jobStep follows
    intro traced
    exact finds name (handles traced)
  job world event name entry finds kept := by
    refine ⟨kept.once, kept.cleaned, ?_⟩
    intro isCreated
    obtain ⟨found, isFound, unmarked⟩ := kept.present isCreated
    cases event with
    | removed => exact absurd finds id
    | conditionsSet other conditions =>
      by_cases same : name = other
      · subst same
        refine ⟨{ found with conditions }, ?_, unmarked⟩
        rw [applyJobEvent, Cluster.setJob_same, isFound]
        rfl
      · rw [applyJobEvent, Cluster.setJob_other _ _ same]
        exact ⟨found, isFound, unmarked⟩
    | finalized other =>
      by_cases same : name = other
      · subst same
        rw [applyJobEvent, Cluster.setJob_same, isFound]
        simp [unmarked]
      · rw [applyJobEvent, Cluster.setJob_other _ _ same]
        exact ⟨found, isFound, unmarked⟩

/-- In a run in which every reconcile that works on a Job finds an entry or a Job
of the name, and nobody else removes Jobs, a Job the workflow created is never
deleted and never created again. -/
theorem own_job_kept (wf : Workflow) (cluster : Cluster) (labels : List Label)
    (name : String) (isNew : wf.status = {})
    (finds : Meets step FindsJob (World.start wf cluster) labels) :
    CreatedOnce name (run step (World.start wf cluster) labels).log :=
  ((jobProperty_jobKept.run isNew finds).stored name).once

/-- With a leftover the new Job is created once. -/
theorem own_job_kept_netboot :
    let world := run step (World.start netbootWorkflow leftoverCluster)
      (bootLabels ++ reconcileAlone 5 "")
    .jobCreated "netboot-sample" "created" ∈ world.log ∧
      CreatedOnce "netboot-sample" world.log :=
  ⟨by decide, own_job_kept netbootWorkflow leftoverCluster
    (bootLabels ++ reconcileAlone 5 "") "netboot-sample" rfl (by decide)⟩

/-- Without a leftover the first Job is taken for one: it is adopted, deleted and
created again. -/
theorem own_job_destroyed :
    let world := run step (World.start netbootWorkflow emptyCluster)
      (reconcileAlone 0 "" ++ reconcileAlone 1 "first" ++ reconcileAlone 2 "" ++
        reconcileAlone 3 "" ++ reconcileAlone 4 "second")
    world.status.state = .preparing ∧
      world.log = [.jobCreated "netboot-sample" "first", .tasksDeleted "netboot-sample",
        .jobDeleted "netboot-sample" (some "first"),
        .jobCreated "netboot-sample" "second"] ∧
      ¬CreatedOnce "netboot-sample" world.log := by
  decide

end Tinkerbell.System
