import Tinkerbell.Agent.Kubernetes
import Tinkerbell.Agent.Run

/-!
Owns: what an action's timeout means to the agent's loop and to the Kubernetes
runtime, and for which timeouts the two agree.

Does not own: the runtimes' handling of a context whose deadline has passed;
that a deadline error is only returned then is a premise where it is used.
-/

namespace Tinkerbell.Agent

open Api

/-- `Execute` returns a deadline error only after the deadline of its context. -/
def HonestExecutor (parent : Context) (surroundings : Surroundings) (action : Action) : Prop :=
  ∀ call err, surroundings.results call = some err → err.deadlineExceeded = true →
    ∃ deadline,
      (timeoutContext parent surroundings.contextStart action).deadline = some deadline ∧
      deadline ≤ surroundings.executionStop

structure TimeoutRespected (parent : Context) (surroundings : Surroundings) (action : Action)
    (calls : List Call) : Prop where
  positive : 0 < action.timeoutSeconds → ∀ context started,
    .execute context started ∈ calls →
      context.deadline = some (surroundings.contextStart + action.timeoutSeconds * second)
  zero : action.timeoutSeconds = 0 → ∀ context started,
    .execute context started ∈ calls → context.deadline = none
  agrees : ∀ context started, .execute context started ∈ calls →
    context.deadline.isSome = (Kubernetes.activeDeadlineSeconds action).isSome
  neverEarly : HonestExecutor parent surroundings action → .timeout ∈ reported calls →
    0 < action.timeoutSeconds ∧
      surroundings.contextStart + action.timeoutSeconds * second ≤ surroundings.executionStop

def maxTimeoutSeconds : Int := 9223372036

theorem seconds_eq_iff {count : Int} (positive : 0 < count) :
    seconds count = count * second ↔ count ≤ maxTimeoutSeconds := by
  unfold seconds maxTimeoutSeconds
  constructor
  · intro isProduct
    have fits := wrapInt64_le (count * second)
    rw [isProduct] at fits
    unfold second maxInt64 at fits
    omega
  · intro fits
    apply wrapInt64_of_fits
    · unfold minInt64 second
      omega
    · unfold maxInt64 second
      omega

theorem deadline_timeoutContext (start : Time) (action : Action) :
    (timeoutContext background start action).deadline =
      some (start + seconds action.timeoutSeconds) := rfl

variable {surroundings : Surroundings} {action : Action}

theorem execute_mem_pass (parent : Context) (isRead : surroundings.read = .ok action)
    (accepted : surroundings.running = none) (context : Context) :
    (∃ started, Call.execute context started ∈ (pass parent surroundings).1) ↔
      0 < (execute surroundings.results action).calls ∧
      context = timeoutContext parent surroundings.contextStart action := by
  obtain ⟨_, calls⟩ := pass_calls parent isRead accepted
  rw [calls]
  simp [List.mem_replicate, Nat.pos_iff_ne_zero]

theorem calls_pos_iff (results : Nat → Option Err) (action : Action) :
    0 < (execute results action).calls ↔ 0 ≤ action.retries := by
  by_cases nonneg : 0 ≤ action.retries
  · exact iff_of_true (execute_of_nonneg nonneg results).atLeastOne nonneg
  · rw [execute_of_neg (by omega)]
    exact iff_of_false (Nat.lt_irrefl 0) nonneg

theorem deadline_error_of_reported (parent : Context) (isRead : surroundings.read = .ok action)
    (accepted : surroundings.running = none)
    (timedOut : .timeout ∈ reported (pass parent surroundings).1) :
    0 ≤ action.retries ∧
      ∃ call err, surroundings.results call = some err ∧ err.deadlineExceeded = true := by
  obtain ⟨_, states⟩ := reported_pass parent isRead accepted
  rw [states] at timedOut
  have state := List.eq_of_mem_replicate timedOut
  by_cases nonneg : 0 ≤ action.retries
  · rw [(execute_of_nonneg nonneg surroundings.results).last] at state
    obtain ⟨err, returned, expired⟩ := resultState_eq_timeout.mp state.symm
    exact ⟨nonneg, _, err, returned, expired⟩
  · rw [execute_of_neg (by omega)] at state
    cases state

/-- In the agent's context, which has no deadline of its own, the timeout is respected
exactly when the action is not executed at all or its timeout is positive and its
nanoseconds fit in 64 bits. -/
theorem timeout_respected_iff (surroundings : Surroundings) (action : Action)
    (isRead : surroundings.read = .ok action) (accepted : surroundings.running = none) :
    TimeoutRespected background surroundings action (pass background surroundings).1 ↔
      action.retries < 0 ∨
        (0 < action.timeoutSeconds ∧ action.timeoutSeconds ≤ maxTimeoutSeconds) := by
  have handed := execute_mem_pass background isRead accepted
  have called := calls_pos_iff surroundings.results action
  constructor
  · intro respected
    by_contra outside
    rw [not_or, Int.not_lt] at outside
    obtain ⟨started, member⟩ := (handed _).mpr ⟨called.mpr outside.1, rfl⟩
    have agrees := respected.agrees _ started member
    by_cases positive : 0 < action.timeoutSeconds
    · have deadline := respected.positive positive _ started member
      rw [deadline_timeoutContext, Option.some.injEq, Int.add_right_inj,
        seconds_eq_iff positive] at deadline
      exact outside.2 ⟨positive, deadline⟩
    · rw [deadline_timeoutContext, Kubernetes.activeDeadlineSeconds,
        if_pos (Int.not_lt.mp positive)] at agrees
      cases agrees
  · intro condition
    have deadlineOf : ∀ context started, .execute context started ∈
        (pass background surroundings).1 →
        0 < action.timeoutSeconds ∧ context.deadline =
          some (surroundings.contextStart + action.timeoutSeconds * second) := by
      intro context started member
      obtain ⟨some, rfl⟩ := (handed context).mp ⟨started, member⟩
      obtain ⟨positive, fits⟩ := condition.resolve_left (Int.not_lt.mpr (called.mp some))
      rw [deadline_timeoutContext, (seconds_eq_iff positive).mpr fits]
      exact ⟨positive, rfl⟩
    refine ⟨?_, ?_, ?_, ?_⟩
    · intro _ context started member
      exact (deadlineOf context started member).2
    · intro isZero context started member
      have positive := (deadlineOf context started member).1
      omega
    · intro context started member
      obtain ⟨positive, deadline⟩ := deadlineOf context started member
      rw [deadline, Kubernetes.activeDeadlineSeconds, if_neg (Int.not_le.mpr positive)]
      rfl
    · intro honest timedOut
      obtain ⟨nonneg, call, err, returned, expired⟩ :=
        deadline_error_of_reported background isRead accepted timedOut
      obtain ⟨positive, fits⟩ := condition.resolve_left (Int.not_lt.mpr nonneg)
      obtain ⟨_, isDeadline, passed⟩ := honest call err returned expired
      rw [deadline_timeoutContext, (seconds_eq_iff positive).mpr fits, Option.some.injEq]
        at isDeadline
      exact ⟨positive, isDeadline ▸ passed⟩

def timed (timeoutSeconds : Int) : Action :=
  { id := "action-0-0", timeoutSeconds }

def expiresAtOnce (timeoutSeconds : Int) : Surroundings where
  read := .ok (timed timeoutSeconds)
  running := none
  executionStart := 10 * second
  contextStart := 10 * second
  results := fun _ =>
    some { text := "context error: context deadline exceeded", deadlineExceeded := true }
  executionStop := 10 * second
  firstReport := none
  laterReports := []

theorem timeout_respected_iff_minute :
    TimeoutRespected background (expiresAtOnce 60) (timed 60)
        (pass background (expiresAtOnce 60)).1 ↔
      (timed 60).retries < 0 ∨
        (0 < (timed 60).timeoutSeconds ∧ (timed 60).timeoutSeconds ≤ maxTimeoutSeconds) :=
  timeout_respected_iff (expiresAtOnce 60) (timed 60) rfl rfl

/-- Without a timeout the context expires when it is made, and an executor that honours
it makes the agent report a timeout. So does the first timeout that wraps. -/
theorem no_timeout_expires_at_once :
    (HonestExecutor background (expiresAtOnce 0) (timed 0) ∧
      reported (pass background (expiresAtOnce 0)).1 = [.timeout] ∧
      ¬TimeoutRespected background (expiresAtOnce 0) (timed 0)
        (pass background (expiresAtOnce 0)).1) ∧
    (HonestExecutor background (expiresAtOnce 9223372037) (timed 9223372037) ∧
      reported (pass background (expiresAtOnce 9223372037)).1 = [.timeout] ∧
      ¬TimeoutRespected background (expiresAtOnce 9223372037) (timed 9223372037)
        (pass background (expiresAtOnce 9223372037)).1) := by
  have unlimited : HonestExecutor background (expiresAtOnce 0) (timed 0) := by
    intro call err _ _
    exact ⟨10 * second + seconds 0, rfl, by decide⟩
  have wrapped : HonestExecutor background (expiresAtOnce 9223372037) (timed 9223372037) := by
    intro call err _ _
    exact ⟨10 * second + seconds 9223372037, rfl, by decide⟩
  refine ⟨⟨unlimited, by decide, ?_⟩, wrapped, by decide, ?_⟩
  · intro respected
    have positive := (respected.neverEarly unlimited (by decide)).1
    exact absurd positive (by decide)
  · intro respected
    have passed := (respected.neverEarly wrapped (by decide)).2
    exact absurd passed (by decide)

end Tinkerbell.Agent
