import Tinkerbell.System.Lifecycle

/-!
Owns: the boot Jobs over whole runs, whatever patches fail and whichever
reconciles are repeated.

A property of one Job relates its entry in the status, the Job object and the
log of deletions and creations. `JobProperty.inductive_jobsHave` carries any such
property along a run once the steps of the protocol keep it.

Nobody but the controller creates Jobs of the names in question; others may
remove them and set their conditions.
-/

namespace Tinkerbell.System

open Api Server Controller TransitionSystem

/-- The entry of a Job in the stored status. -/
abbrev World.entry (world : World) (name : String) : Option JobStatus :=
  world.status.bootOptions.jobs.get name

variable {wf : Workflow} {world : World} {uid : String} {events : List Event}

theorem Lifecycle.stepsJob (holds : Lifecycle wf world) (replies : Replies) (name : String) :
    StepsJob world.stored.value world.cluster
      (reconcile replies world.cluster world.stored.value) name := by
  by_cases isNew : world.status.state = .unset
  · obtain ⟨cluster, events⟩ := reconcile_of_new replies world.cluster isNew
    have unprocessed := holds.unprocessed isNew
    have updated := (reconcilesNew_reconcile replies world.cluster isNew).unprocessed
      unprocessed
    unfold StepsJob
    rw [cluster, events, unprocessed.jobs name, updated.jobs name]
    exact ⟨.idle (by simp [jobEvents]), fun traced => absurd rfl traced⟩
  · exact (reconciles_reconcile replies world.cluster isNew holds.notLegacy).stepsJob name

abbrev JobPredicate := String → Option JobStatus → Option Bmc.Job → List Event → Prop

structure JobsHave (wf : Workflow) (property : JobPredicate) (world : World) : Prop where
  lifecycle : Lifecycle wf world
  stored : ∀ name, property name (world.entry name) (world.cluster.jobs name) world.log
  outstanding : ∀ reconciled, world.controller = some reconciled → ∀ name,
    property name (reconciled.updated.bootOptions.jobs.get name)
      (world.cluster.jobs name) world.log

/-- The steps of the protocol and the events of others keep the property, for the
entry that was read and for the one to record. -/
structure JobProperty (condition : World → Label → Prop) (property : JobPredicate) :
    Prop where
  fresh : ∀ name job, property name none job []
  step : ∀ world replies name recorded left events,
    condition world (.beginReconcile replies) →
    property name (world.entry name) (world.cluster.jobs name) world.log →
    JobStep name (world.entry name) (world.cluster.jobs name) recorded left
      (jobEvents name events) →
    (jobEvents name events ≠ [] → bootJobName world.stored.value = some name) →
    property name (world.entry name) left (world.log ++ events) ∧
      property name recorded left (world.log ++ events)
  job : ∀ world event name entry, condition world (.job event) →
    property name entry (world.cluster.jobs name) world.log →
    property name entry ((applyJobEvent world.cluster event).jobs name) world.log

section Runs

variable {condition : World → Label → Prop} {property : JobPredicate}
  (keeps : JobProperty condition property)
include keeps

variable {wf : Workflow}

theorem JobProperty.jobsHave_start (isNew : wf.status = {}) (cluster : Cluster) :
    JobsHave wf property (World.start wf cluster) where
  lifecycle := lifecycle_start (startable_of_new isNew) cluster
  stored := by
    intro name
    have absent : (World.start wf cluster).entry name = none := by
      rw [World.entry, status_start_of_new isNew]
      rfl
    rw [absent]
    exact keeps.fresh name _
  outstanding := by
    intro reconciled pending
    cases pending

theorem JobProperty.inductive_jobsHave (wf : Workflow) :
    Inductive condition (JobsHave wf property) where
  prepare world label agentID agent holds _ prepares :=
    { holds with
      lifecycle := (inductive_lifecycle wf).prepare world label agentID agent
        holds.lifecycle trivial prepares }
  accept world agentID call written holding holds _ inFlight attempted := by
    have attempts := attempts_of_ok attempted
    refine ⟨holds.lifecycle.accept inFlight attempts, ?_, holds.outstanding⟩
    intro name
    have entry : (world.accept agentID (world.stored.put written) holding).entry name =
        world.entry name := by
      have sameOptions := attempts.written_eq.2.bootOptions
      simp [World.entry, World.status, sameOptions]
    rw [entry]
    exact holds.stored name
  beginReconcile world replies holds meets := by
    have follows := holds.lifecycle.stepsJob replies
    have kept := fun name => keeps.step world replies name _ _ _ meets
      (holds.stored name) (follows name).1 (follows name).2
    refine ⟨(inductive_lifecycle wf).beginReconcile world replies holds.lifecycle trivial,
      fun name => (kept name).1, ?_⟩
    intro reconciled pending name
    cases pending
    exact (kept name).2
  patch world reply reconciled holds _ pending := by
    refine ⟨holds.lifecycle.patch pending reply, ?_, ?_⟩
    · intro name
      rcases holds.lifecycle.patch_cases pending reply with same | written
      · rw [World.entry, same]
        exact holds.stored name
      · rw [World.entry, written.jobs name]
        exact holds.outstanding reconciled pending name
    · intro other impossible
      cases impossible
  job world event holds meets :=
    ⟨(inductive_lifecycle wf).job world event holds.lifecycle trivial,
      fun name => keeps.job world event name _ meets (holds.stored name),
      fun reconciled pending name =>
        keeps.job world event name _ meets (holds.outstanding reconciled pending name)⟩

theorem JobProperty.run {cluster : Cluster} {labels : List Label} (isNew : wf.status = {})
    (meets : Meets System.step condition (World.start wf cluster) labels) :
    JobsHave wf property
      (TransitionSystem.run System.step (World.start wf cluster) labels) :=
  (keeps.inductive_jobsHave wf).run (coherentReads_start wf cluster)
    (keeps.jobsHave_start isNew cluster) meets

end Runs

private theorem applyJobEvent_jobs {cluster : Cluster} {event : JobEvent} {name : String}
    {found : Bmc.Job} (isFound : (applyJobEvent cluster event).jobs name = some found) :
    ∃ was, cluster.jobs name = some was ∧ was.uid = found.uid ∧
      was.deletionTimestamp = found.deletionTimestamp := by
  cases event with
  | conditionsSet other =>
    by_cases same : name = other
    · subst same
      rw [applyJobEvent, Cluster.setJob_same] at isFound
      obtain ⟨was, isWas, rfl⟩ := Option.map_eq_some_iff.mp isFound
      exact ⟨was, isWas, rfl, rfl⟩
    · rw [applyJobEvent, Cluster.setJob_other _ _ same] at isFound
      exact ⟨found, isFound, rfl, rfl⟩
  | finalized other =>
    by_cases same : name = other
    · subst same
      rw [applyJobEvent, Cluster.setJob_same] at isFound
      exact ⟨found, (Option.filter_eq_some_iff.mp isFound).1, rfl, rfl⟩
    · rw [applyJobEvent, Cluster.setJob_other _ _ same] at isFound
      exact ⟨found, isFound, rfl, rfl⟩
  | removed other =>
    by_cases same : name = other
    · subst same
      rw [applyJobEvent, Cluster.setJob_same] at isFound
      cases isFound
    · rw [applyJobEvent, Cluster.setJob_other _ _ same] at isFound
      exact ⟨found, isFound, rfl, rfl⟩

def CreatedAfterDeletion (name uid : String) (log : List Event) : Prop :=
  ∃ early existing late, log = early ++ .jobDeleted name existing :: late ∧
    .jobCreated name uid ∈ late

theorem CreatedAfterDeletion.append {name : String} {log : List Event}
    (created : CreatedAfterDeletion name uid log) (events : List Event) :
    CreatedAfterDeletion name uid (log ++ events) := by
  obtain ⟨early, existing, late, rfl, member⟩ := created
  exact ⟨early, existing, late ++ events, by simp, List.mem_append_left events member⟩

theorem createdAfterDeletion_of_mem {name : String} {existing : Option String} {log : List Event}
    (deleted : .jobDeleted name existing ∈ log) (created : .jobCreated name uid ∈ events) :
    CreatedAfterDeletion name uid (log ++ events) := by
  obtain ⟨early, late, rfl⟩ := List.append_of_mem deleted
  exact ⟨early, existing, late ++ events, by simp, List.mem_append_right late created⟩

/-- What the entry of a name says about the Job of that name. A recorded clean-up
was done, and a Job seen unmarked or adopted since is one created after it. -/
structure JobHistory (name : String) (entry : Option JobStatus) (job : Option Bmc.Job)
    (log : List Event) : Prop where
  deleted : ∀ status, entry = some status → status.existingJobDeleted = true →
    ∃ existing, .jobDeleted name existing ∈ log
  own : ∀ status found, entry = some status → status.existingJobDeleted = true →
    job = some found → found.deletionTimestamp = none ∨ status.uid ≠ "" →
      CreatedAfterDeletion name found.uid log
  complete : ∀ status, entry = some status → status.complete = true →
    status.existingJobDeleted = true ∧ status.uid ≠ ""

private theorem jobHistory_none (name : String) (job : Option Bmc.Job) (log : List Event) :
    JobHistory name none job log where
  deleted := by simp
  own := by simp
  complete := by simp

private theorem jobHistory_of_fresh (name : String) {status : JobStatus}
    (notCleaned : status.existingJobDeleted = false) (notComplete : status.complete = false)
    (job : Option Bmc.Job) (log : List Event) :
    JobHistory name (some status) job log := by
  refine ⟨?_, ?_, ?_⟩
  · intro other same cleaned
    cases same
    rw [notCleaned] at cleaned
    cases cleaned
  · intro other found same cleaned
    cases same
    rw [notCleaned] at cleaned
    cases cleaned
  · intro other same complete
    cases same
    rw [notComplete] at complete
    cases complete

namespace JobHistory

variable {name : String} {entry : Option JobStatus} {job : Option Bmc.Job}
  {log : List Event} (history : JobHistory name entry job log)
include history

theorem append (events : List Event) : JobHistory name entry job (log ++ events) where
  deleted := by
    intro status isEntry cleaned
    obtain ⟨existing, member⟩ := history.deleted status isEntry cleaned
    exact ⟨existing, List.mem_append_left events member⟩
  own := by
    intro status found isEntry cleaned isJob seen
    exact (history.own status found isEntry cleaned isJob seen).append events
  complete := history.complete

variable {left : Option Bmc.Job}

theorem changeJob {left : Option Bmc.Job}
    (kept : ∀ found, left = some found → ∃ was, job = some was ∧ was.uid = found.uid ∧
      (found.deletionTimestamp = none → was.deletionTimestamp = none)) :
    JobHistory name entry left log where
  deleted := history.deleted
  own := by
    intro status found isEntry cleaned isLeft seen
    obtain ⟨was, isJob, sameUID, unmarked⟩ := kept found isLeft
    rw [← sameUID]
    exact history.own status was isEntry cleaned isJob (seen.imp_left unmarked)
  complete := history.complete

theorem markDeleted (now : Time) : JobHistory name entry (job.bind (deletedJob now)) log := by
  apply history.changeJob
  intro left isLeft
  obtain ⟨was, isJob, isDeleted⟩ := Option.bind_eq_some_iff.mp isLeft
  unfold deletedJob at isDeleted
  split at isDeleted
  · cases isDeleted
  · cases isDeleted
    exact ⟨was, isJob, rfl, by simp⟩

private theorem adopt {existing : Bmc.Job} (present : job = some existing)
    (unmarked : existing.deletionTimestamp = none)
    (unset : (entry.getD {}).uid = "") :
    JobHistory name (some { entry.getD {} with uid := existing.uid }) job log := by
  subst present
  cases entry with
  | none => exact jobHistory_of_fresh name rfl rfl _ _
  | some status =>
    refine ⟨?_, ?_, ?_⟩
    · intro adopting isAdopting isCleaned
      cases isAdopting
      exact history.deleted status rfl isCleaned
    · intro adopting found isAdopting isCleaned isFound _
      cases isAdopting
      cases isFound
      exact history.own status existing rfl isCleaned rfl (Or.inl unmarked)
    · intro adopting isAdopting isComplete
      cases isAdopting
      exact absurd unset (history.complete status rfl isComplete).2

private theorem markComplete {status : JobStatus} (found : entry = some status)
    (cleaned : status.existingJobDeleted = true) (known : status.uid ≠ "") :
    JobHistory name (some { status with complete := true }) job log := by
  subst found
  refine ⟨?_, ?_, ?_⟩
  · intro completing isCompleting isCleaned
    cases isCompleting
    exact history.deleted status rfl isCleaned
  · intro completing left isCompleting isCleaned isLeft _
    cases isCompleting
    exact history.own status left rfl isCleaned isLeft (Or.inr known)
  · intro completing isCompleting _
    cases isCompleting
    exact ⟨cleaned, known⟩

theorem jobStep {recorded : Option JobStatus}
    (follows : JobStep name entry job recorded left (jobEvents name events)) :
    JobHistory name entry left (log ++ events) ∧
      JobHistory name recorded left (log ++ events) := by
  have later := history.append events
  have traced : ∀ event ∈ jobEvents name events, event ∈ events :=
    fun event member => (List.mem_filter.mp member).1
  generalize jobEvents name events = trace at follows traced
  cases follows with
  | idle => exact ⟨later, later⟩
  | @deleted status now _ _ _ isRecorded =>
    have marked := later.markDeleted now
    refine ⟨marked, ?_⟩
    rcases isRecorded with rfl | rfl
    · exact marked
    · refine ⟨?_, ?_, ?_⟩
      · intro _ _ _
        exact ⟨job.map Bmc.Job.uid, List.mem_append_right log (traced _ (by simp))⟩
      · -- What is left is marked and not adopted.
        intro status left isStatus _ isLeft seen
        obtain ⟨_, _, isDeleted⟩ := Option.bind_eq_some_iff.mp isLeft
        cases isStatus
        unfold deletedJob at isDeleted
        split at isDeleted
        · cases isDeleted
        · cases isDeleted
          simp at seen
      · intro status isStatus
        cases isStatus
        simp
  | @created new =>
    have own : JobHistory name entry (some new) (log ++ events) := by
      refine ⟨later.deleted, ?_, later.complete⟩
      intro status found isEntry isCleaned isNew _
      cases isNew
      obtain ⟨_, member⟩ := history.deleted status isEntry isCleaned
      exact createdAfterDeletion_of_mem member (traced _ (by simp))
    exact ⟨own, own⟩
  | @adopted _ _ present unmarked unset =>
    exact ⟨later, later.adopt present unmarked unset⟩
  | @completed _ _ found cleaned known =>
    exact ⟨later, later.markComplete found cleaned known⟩

end JobHistory

private theorem jobProperty_jobHistory : JobProperty (fun _ _ => True) JobHistory where
  fresh name job := jobHistory_none name job []
  step world replies name recorded left events _ history follows _ :=
    history.jobStep follows
  job world event name entry _ history := by
    apply history.changeJob
    intro found isFound
    obtain ⟨was, isWas, sameUID, sameMark⟩ := applyJobEvent_jobs isFound
    exact ⟨was, isWas, sameUID, fun unmarked => sameMark.trans unmarked⟩

def SeesCompletedOwnJob (world : World) (name : String) : Prop :=
  ∃ job, world.cluster.jobs name = some job ∧
    job.hasCondition .completed .true = true ∧
    CreatedAfterDeletion name job.uid world.log

/-- The entry of the name went through all phases. -/
def EntryComplete (status : WorkflowStatus) (name : String) : Prop :=
  ∃ entry, status.bootOptions.jobs.get name = some entry ∧
    entry.existingJobDeleted = true ∧ entry.uid ≠ "" ∧ entry.complete = true

theorem JobHistory.completed_of_due {name : String} {entry recorded : Option JobStatus}
    {job left : Option Bmc.Job} {log : List Event} (history : JobHistory name entry job log)
    (follows : JobStep name entry job recorded left events)
    (due : (!(entry.getD {}).existingJobDeleted || (entry.getD {}).uid = "" ||
      !(entry.getD {}).complete) = true)
    (complete : (recorded.getD {}).complete = true) :
    ∃ status existing, entry = some status ∧ job = some existing ∧
      status.existingJobDeleted = true ∧ status.uid ≠ "" ∧
      existing.hasCondition .completed .true = true ∧
      recorded = some { status with complete := true } := by
  have notComplete : (entry.getD {}).complete = false := by
    cases entry with
    | none => rfl
    | some status =>
      cases isComplete : status.complete with
      | false => exact isComplete
      | true =>
        have phases := history.complete status rfl isComplete
        simp [phases, isComplete] at due
  cases follows with
  | idle | created =>
    rw [notComplete] at complete
    cases complete
  | deleted _ _ _ isRecorded =>
    rcases isRecorded with rfl | rfl
    · rw [notComplete] at complete
      cases complete
    · cases complete
  | adopted =>
    simp only [Option.getD_some, notComplete] at complete
    cases complete
  | completed found cleaned known present done =>
    exact ⟨_, _, found, present, cleaned, known, done, rfl⟩

private theorem sees_of_prepared (holds : JobsHave wf JobHistory world) {name : String}
    (isJob : preparingJobName wf = some name) (replies : Replies)
    (preparing : world.status.state = .preparing)
    (pending : (reconcile replies world.cluster world.stored.value).updated.state = .pending) :
    SeesCompletedOwnJob world name ∧
      EntryComplete (reconcile replies world.cluster world.stored.value).updated name := by
  have lifecycle := holds.lifecycle
  have sameJob : preparingJobName world.stored.value = some name := by
    rw [lifecycle.identity]
    exact isJob
  have follows := (lifecycle.stepsJob replies name).1
  have reconciles := reconciles_reconcile replies world.cluster
    (show world.stored.value.status.state ≠ .unset by simp [preparing]) lifecycle.notLegacy
  generalize reconcile replies world.cluster world.stored.value = reconciled
    at follows reconciles pending ⊢
  cases reconciles with
  | idle =>
    rw [show (Reconciled.idle world.cluster world.stored.value).updated.state =
      .preparing from preparing] at pending
    cases pending
  | running isRunning =>
    rw [show world.stored.value.status.state = .preparing from preparing] at isRunning
    cases isRunning
  | post isPost =>
    rw [show world.stored.value.status.state = .preparing from preparing] at isPost
    cases isPost
  | preparing =>
    have works := works_prepareWorkflow replies ⟨world.stored.value, world.cluster, []⟩
    simp only [Reconciled.ofOutcome] at follows pending ⊢
    rcases works.state with same | failed | left
    · rw [same, State.status, preparing] at pending
      cases pending
    · rw [failed] at pending
      cases pending
    · obtain ⟨due, complete⟩ := left.1.2 name sameJob
      obtain ⟨status, existing, isEntry, isJob, cleaned, known, done, isRecorded⟩ :=
        (holds.stored name).completed_of_due follows due complete
      refine ⟨⟨existing, isJob, done, ?_⟩, ⟨_, isRecorded, cleaned, known, rfl⟩⟩
      exact (holds.stored name).own status existing isEntry cleaned isJob (Or.inr known)

def PreparedByOwnJob (start : World) (labels : List Label) (label : Label)
    (name : String) : Prop :=
  ∃ before replies middle reply,
    labels = before ++ .beginReconcile replies :: middle ∧ label = .patch reply ∧
    (run step start labels).controller = some (reconcile replies
      (run step start before).cluster (run step start before).stored.value) ∧
    SeesCompletedOwnJob (run step start before) name ∧
    EntryComplete (step (run step start labels) label).status name

/-- A workflow with a boot Job goes from PREPARING to PENDING only by the patch of
a reconcile that saw a completed Job which the workflow created after the
clean-up. -/
theorem prepared_by_own_job (wf : Workflow) (cluster : Cluster) (labels : List Label)
    (label : Label) (name : String) (isNew : wf.status = {})
    (isJob : preparingJobName wf = some name) :
    let start := World.start wf cluster
    (run step start labels).status.state = .preparing →
    (step (run step start labels) label).status.state = .pending →
    PreparedByOwnJob start labels label name := by
  intro start preparing pending
  have historyOf : ∀ labels, JobsHave wf JobHistory (run step start labels) :=
    fun labels => jobProperty_jobHistory.run isNew (meets_of_forall (by simp))
  have lifecycle := (historyOf labels).lifecycle
  have early : Early (run step start labels).status.state := Or.inr preparing
  obtain ⟨reply, reconciled, rfl, outstanding⟩ :=
    lifecycle.patch_of_moved (coherentReads_run wf cluster labels) early
      (by rw [preparing, pending]; simp)
  obtain ⟨before, replies, middle, split, isBegun⟩ := controller_origin rfl outstanding
  have sameStatus := (lifecycle.outstanding reconciled outstanding).early (Or.inr early)
  have wasPreparing : (run step start before).status.state = .preparing := by
    have original := congrArg Reconciled.original isBegun
    rw [reconcile_original, sameStatus] at original
    rw [World.status, ← original]
    exact preparing
  rw [step_patch outstanding] at pending
  have tookEffect : reply.TookEffect := by
    by_contra refused
    rw [status_applyPatch, mergePatchStatus_of_refused refused, preparing] at pending
    cases pending
  have written := lifecycle.patched outstanding tookEffect
  have wanted : reconciled.updated.state = .pending := by
    rcases written.state_cases with kept | ⟨moved, _⟩
    · rw [kept, preparing] at pending
      cases pending
    · rw [← moved]
      exact pending
  rw [isBegun] at wanted
  obtain ⟨sees, entry, isEntry, phases⟩ :=
    sees_of_prepared (historyOf before) isJob replies wasPreparing wanted
  refine ⟨before, replies, middle, reply, split, rfl, isBegun ▸ outstanding, sees,
    entry, ?_, phases⟩
  rw [step_patch outstanding, written.jobs name, isBegun]
  exact isEntry

def leftoverJob : Bmc.Job where
  name := "netboot-sample"
  «namespace» := "tink"
  uid := "leftover"
  conditions := [{ type := .completed, status := .true }]

def leftoverCluster : Cluster := emptyCluster.setJob "netboot-sample" (some leftoverJob)

def bootLabels : List Label :=
  reconcileAlone 0 "" ++ reconcileAlone 1 "" ++ reconcileAlone 2 "" ++
    reconcileAlone 3 "created" ++ reconcileAlone 4 ""

theorem prepared_by_own_job_netboot :
    PreparedByOwnJob (World.start netbootWorkflow leftoverCluster)
      (bootLabels ++ [.job (.conditionsSet "netboot-sample" leftoverJob.conditions),
        .beginReconcile (sampleReplies 5 "")]) (.patch .done) "netboot-sample" :=
  prepared_by_own_job netbootWorkflow leftoverCluster
    (bootLabels ++ [.job (.conditionsSet "netboot-sample" leftoverJob.conditions),
      .beginReconcile (sampleReplies 5 "")]) (.patch .done) "netboot-sample"
    rfl (by decide) (by decide) (by decide)

end Tinkerbell.System
