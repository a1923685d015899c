import Tinkerbell.System.Requests

/-!
Owns: when the states SUCCESS, FAILED and TIMEOUT are final.

The clients are those of `requestStep`: any handler call may come at any time and
as often as the client likes, as happens when an update is stored although its
answer is an error and the handler or the agent tries again. The controller reads
through a cache, so a reconcile may work on a version that was replaced long ago.
-/

namespace Tinkerbell.System

open Api Server Controller TransitionSystem

/-- The states that say how a workflow ended. -/
def Terminal (state : WorkflowState) : Prop :=
  state = .success ∨ state = .failed ∨ state = .timeout

/-- A world together with the versions its cache may still show, newest first. -/
structure CachedWorld where
  world : World
  past : List Workflow := []

/-- What can happen to a `CachedWorld`. `readCached age` is a reconcile that reads
the version that was stored `age` steps ago. -/
inductive CachedLabel where
  | request (label : RequestLabel)
  | readCached (age : Nat) (replies : Replies)

/-- A reconcile that sees `read` in place of the stored workflow. -/
def World.beginReconcileOn (world : World) (read : Workflow) (replies : Replies) : World :=
  { ({ world with stored := ⟨read, 0⟩ } : World).beginReconcile replies with
    stored := world.stored }

def CachedWorld.readCached (cached : CachedWorld) (age : Nat) (replies : Replies) :
    CachedWorld :=
  match (cached.world.stored.value :: cached.past)[age]? with
  | none => cached
  | some read => { cached with world := cached.world.beginReconcileOn read replies }

def cachedStep (cached : CachedWorld) : CachedLabel → CachedWorld
  | .request label =>
    ⟨requestStep cached.world label, cached.world.stored.value :: cached.past⟩
  | .readCached age replies => cached.readCached age replies

/-- A report that leaves the state of the workflow alone: a success, but not of the
last action, or the very state that the workflow is in. -/
def Spares (status : WorkflowStatus) (request : ActionStatusRequest) : Prop :=
  ∀ place ∈ locate request.actionId request.agentId status.tasks,
    if request.actionState = .success then ¬place.isLast
    else request.actionState.workflowState = status.state

/-- The condition on a step from a finished workflow. A report that is accepted
spares its state. A patch that takes effect either comes from a reconcile that saw
a finished workflow, or wants no other state than the one it saw or the one that is
stored. -/
def LeavesFinal (cached : CachedWorld) : CachedLabel → Prop
  | .request (.write client) =>
    Terminal cached.world.status.state → ∀ request written,
      (cached.world.agents client).call =
          some ⟨.report request, some cached.world.stored⟩ →
        doReportActionStatus (readWorkflow cached.world.stored.value) request =
          .ok written → Spares cached.world.status request
  | .request (.patch reply) =>
    Terminal cached.world.status.state → reply.TookEffect →
      ∀ reconciled ∈ cached.world.controller, ¬Terminal reconciled.original.state →
        reconciled.updated.state ≠ reconciled.original.state →
          reconciled.updated.state = cached.world.status.state
  | _ => True

section Steps

variable {world : World} {client : String} {request : ActionStatusRequest}
  {written : Workflow}

private theorem state_write_accepted
    (inFlight : (world.agents client).call = some ⟨.report request, some world.stored⟩)
    (recorded : doReportActionStatus (readWorkflow world.stored.value) request =
      .ok written) :
    (world.write client).status.state = written.status.state := by
  have attempted : attempt client (world.agents client).holding world.stored.value
      (.report request) = .ok (written, afterReport request (world.agents client).holding) := by
    simp only [attempt, recorded]
  have swapped : world.stored.compareAndSwap world.stored written =
      some (world.stored.put written) := if_pos rfl
  unfold World.write
  simp only [inFlight, attempted, swapped]
  rw [World.status, stored_accept, Versioned.put_value]

private theorem state_write_cases (coherent : CoherentReads world) (client : String) :
    (world.write client).status.state = world.status.state ∨
      ∃ request written,
        (world.agents client).call = some ⟨.report request, some world.stored⟩ ∧
          doReportActionStatus (readWorkflow world.stored.value) request = .ok written := by
  unfold World.write
  split
  · next request read inFlight =>
    split
    · exact Or.inl (by rw [World.status, stored_setRead])
    · next _ _ attempted =>
      split
      · exact Or.inl (by rw [World.status, stored_setRead])
      · next _ swapped =>
        have isCoherent := coherent client _ read inFlight rfl
        obtain ⟨sameValue, rfl⟩ := Versioned.compareAndSwap_eq_some isCoherent swapped
        have isStored : read = world.stored := by
          unfold Versioned.compareAndSwap at swapped
          split at swapped
          · next sameVersion => cases read; cases sameValue; cases sameVersion; rfl
          · cases swapped
        subst isStored
        rw [World.status, stored_accept, Versioned.put_value]
        -- A served action leaves the state alone, so only a report is of interest.
        cases request with
        | getAction =>
          left
          cases attempts_of_ok attempted with
          | served => rfl
        | report request =>
          right
          unfold attempt at attempted
          simp only at attempted
          split at attempted
          · cases attempted
          · next recorded => exact ⟨request, _, inFlight, recorded⟩
  · exact Or.inl rfl

private theorem spares_iff {wf : Workflow} (terminal : Terminal wf.status.state)
    (recorded : doReportActionStatus (readWorkflow wf) request = .ok written) :
    written.status.state = wf.status.state ↔ Spares wf.status request := by
  obtain ⟨read, place, found, located, rfl⟩ := doReportActionStatus_eq_ok recorded
  have isRead : read = wf := by
    unfold readWorkflow at found
    split at found <;> cases found
    rfl
  subst isRead
  have notPost : WorkflowState.post ≠ read.status.state := by
    rcases terminal with isState | isState | isState <;> simp [isState]
  simp only [Spares, located, Option.mem_some, forall_eq', reportedStatus, reportedState]
  by_cases success : request.actionState = .success
  · by_cases isLast : place.isLast <;> simp [success, isLast, notPost]
  · simp [success]

theorem leavesFinal_write (coherent : CoherentReads world) (past : List Workflow) :
    (Terminal world.status.state →
        (world.write client).status.state = world.status.state) ↔
      LeavesFinal ⟨world, past⟩ (.request (.write client)) := by
  constructor
  · intro kept terminal request written inFlight recorded
    rw [← spares_iff terminal recorded, ← state_write_accepted inFlight recorded]
    exact kept terminal
  · intro leaves terminal
    rcases state_write_cases coherent client with same | ⟨request, written, inFlight, recorded⟩
    · exact same
    · rw [state_write_accepted inFlight recorded, spares_iff terminal recorded]
      exact leaves terminal request written inFlight recorded

/-- A reconcile that sees a finished workflow wants no other state. -/
theorem state_reconcile_terminal {wf : Workflow} (terminal : Terminal wf.status.state)
    (replies : Replies) (cluster : Cluster) :
    (reconcile replies cluster wf).updated.state = wf.status.state := by
  have notNew : wf.status.state ≠ .unset := by
    rcases terminal with isState | isState | isState <;> simp [isState]
  have notLegacy : wf.status.state ≠ .legacyPending := by
    rcases terminal with isState | isState | isState <;> simp [isState]
  have notPost : wf.status.state ≠ .post := by
    rcases terminal with isState | isState | isState <;> simp [isState]
  have move := (reconciles_reconcile replies cluster notNew notLegacy).controllerMove
    (fun isPost => absurd isPost notPost)
  generalize wf.status.state = original at move terminal
  generalize (reconcile replies cluster wf).updated.state = wanted at move
  cases move with
  | stay => rfl
  | prepare | start | prepared | failPreparing | timeOut | failPost | succeed =>
    simp [Terminal] at terminal

/-- The pending reconcile of a world saw some workflow. -/
def Reconciling (world : World) : Prop :=
  ∀ reconciled ∈ world.controller, ∃ replies cluster wf,
    reconciled = reconcile replies cluster wf

theorem leavesFinal_patch (reconciling : Reconciling world) (past : List Workflow)
    (reply : WriteReply) :
    (Terminal world.status.state →
        (world.patch reply).status.state = world.status.state) ↔
      LeavesFinal ⟨world, past⟩ (.request (.patch reply)) := by
  unfold World.patch
  cases pending : world.controller with
  | none => simp [LeavesFinal, pending]
  | some reconciled =>
    obtain ⟨replies, cluster, _, isReconciled⟩ := reconciling reconciled pending
    have sawTerminal : Terminal reconciled.original.state →
        reconciled.updated.state = reconciled.original.state := by
      rw [isReconciled, reconcile_original]
      intro terminal
      exact state_reconcile_terminal terminal replies cluster
    simp only [LeavesFinal, pending, status_applyPatch, state_mergePatchStatus,
      MergePatch.mergeField, Option.mem_some, forall_eq']
    by_cases tookEffect : reply.TookEffect
    · by_cases same : reconciled.updated.state = reconciled.original.state
      · simp [tookEffect, same]
      · have unfinished := mt sawTerminal same
        simp [tookEffect, same, unfinished]
    · simp [tookEffect]

end Steps

/-- What the exact condition rests on: handlers read stored versions, and the
controller patches what a reconcile decided. -/
structure Sound (cached : CachedWorld) : Prop where
  coherent : CoherentReads cached.world
  reconciling : Reconciling cached.world

theorem Sound.step {cached : CachedWorld} (sound : Sound cached) (label : CachedLabel) :
    Sound (cachedStep cached label) := by
  cases label with
  | request label =>
    refine ⟨coherentReads_requestStep sound.coherent label, ?_⟩
    intro reconciled pending
    cases label with
    | send => exact sound.reconciling reconciled pending
    | read | write | job =>
      change (System.step _ _).controller = some reconciled at pending
      rw [controller_step] at pending
      exact sound.reconciling reconciled pending
    | beginReconcile replies =>
      cases pending
      exact ⟨replies, _, _, rfl⟩
    | patch =>
      change (System.step _ _).controller = some reconciled at pending
      rw [controller_step] at pending
      cases pending
  | readCached age replies =>
    change Sound (cached.readCached age replies)
    unfold CachedWorld.readCached
    split
    · exact sound
    · next read _ =>
      refine ⟨sound.coherent, ?_⟩
      intro reconciled pending
      cases pending
      exact ⟨replies, cached.world.cluster, read, rfl⟩

theorem leavesFinal_iff (cached : CachedWorld) (label : CachedLabel) (sound : Sound cached) :
    (Terminal cached.world.status.state →
        (cachedStep cached label).world.status.state = cached.world.status.state) ↔
      LeavesFinal cached label := by
  have unchanged : (cachedStep cached label).world.stored = cached.world.stored →
      (Terminal cached.world.status.state →
        (cachedStep cached label).world.status.state = cached.world.status.state) := by
    intro same _
    rw [World.status, same]
  cases label with
  | request label =>
    cases label with
    | send | beginReconcile | job => exact iff_of_true (unchanged rfl) trivial
    | read => exact iff_of_true (unchanged (stored_setRead _ _ _)) trivial
    | write => exact leavesFinal_write sound.coherent cached.past
    | patch reply => exact leavesFinal_patch sound.reconciling cached.past reply
  | readCached age replies =>
    refine iff_of_true (unchanged ?_) trivial
    change (cached.readCached age replies).world.stored = _
    unfold CachedWorld.readCached
    split <;> rfl

/-- Of any workflow, under any requests and reconciles of cached versions: a
terminal state once reached is kept to the end of the run, exactly if every step
from a finished workflow leaves its state alone. -/
theorem terminal_final_iff (wf : Workflow) (cluster : Cluster) (labels : List CachedLabel) :
    (∀ before after, before ++ after <+: labels →
        Terminal (run cachedStep ⟨World.start wf cluster, []⟩ before).world.status.state →
          (run cachedStep ⟨World.start wf cluster, []⟩
              (before ++ after)).world.status.state =
            (run cachedStep ⟨World.start wf cluster, []⟩ before).world.status.state) ↔
      Meets cachedStep LeavesFinal ⟨World.start wf cluster, []⟩ labels := by
  have sound : Sound ⟨World.start wf cluster, []⟩ :=
    ⟨coherentReads_start wf cluster, fun _ pending => by cases pending⟩
  exact final_iff_meets (fun _ label isSound => isSound.step label) leavesFinal_iff sound

/-! Runs in which `agent-a` reports only on the action it was last served. -/

def requestAlone (client : String) (request : Request) : List CachedLabel :=
  [.request (.send client request), .request (.read client), .request (.write client)]

def reportOf (actionID : String) (state : StateType) : Request :=
  .report { workflowId := "tink/sample", agentId := "agent-a", taskId := "task-0",
            actionId := actionID, actionState := state, executionStart := some second }

/-- `agent-a` is served the next action and reports on it. -/
def serveAndReport (actionID : String) (states : List StateType) : List CachedLabel :=
  requestAlone "agent-a" .getAction ++
    states.flatMap fun state => requestAlone "agent-a" (reportOf actionID state)

def reconcileRead (age : Nat) (replies : Replies) : List CachedLabel :=
  [.readCached age replies, .request (.patch .done)]

def finalStart (options : BootOptions) : CachedWorld :=
  ⟨World.start { sampleWorkflow with spec := { bootOptions := options } } emptyCluster, []⟩

/-- A timeout that is declared while the second action is with the agent, a success
that is reported twice, and a cached POST: each takes the workflow out of a terminal
state. -/
theorem terminal_left :
    let timedOut := run cachedStep (finalStart {})
      (reconcileRead 0 { sampleReplies 0 "" with decoded := .ok twoActions } ++
        serveAndReport "action-0-0" [.running, .success] ++
        reconcileRead 0 (sampleReplies (2 * second) "") ++ serveAndReport "action-0-1" [] ++
        reconcileRead 0 (sampleReplies (1000 * second) ""))
    let succeeded := run cachedStep (finalStart { toggleAllowNetboot := true })
      (reconcileRead 0 (sampleReplies 0 "") ++ reconcileRead 0 (sampleReplies 0 "") ++
        serveAndReport "action-0-0" [.running, .success] ++
        reconcileRead 0 (sampleReplies second ""))
    let later := fun cached labels =>
      (run cachedStep cached labels).world.status.state
    timedOut.world.status.state = .timeout ∧
      (timedOut.world.agents "agent-a").holding.map (·.response.actionId) =
        some "action-0-1" ∧
      later timedOut (requestAlone "agent-a" (reportOf "action-0-1" .running)) = .running ∧
      later timedOut (requestAlone "agent-a" (reportOf "action-0-1" .success)) = .post ∧
    succeeded.world.status.state = .success ∧
      later succeeded (requestAlone "agent-a" (reportOf "action-0-0" .success)) = .post ∧
      later succeeded (reconcileRead 1 { sampleReplies second "" with
        toggleHardware := .error "not found" }) = .failed := by
  decide

end Tinkerbell.System
