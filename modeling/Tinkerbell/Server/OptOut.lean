import Tinkerbell.Server.Enrollment

/-!
Owns: what a Workflow created by enrollment says about the Hardware lookup of
the same attempt.

An agent whose Hardware opts out must not be enrolled. The lookup can also end
without saying whether there is such a Hardware; the handler then goes on as if
there were none. The attempts of a call that keep to the opt-out are
characterised exactly.
-/

namespace Tinkerbell.Server

open Api

/-- How the lookup of the agent's Hardware ended. Discovery makes no lookup
for an agent ID that gives no valid object name. -/
inductive LookupEnd where
  | found (enrollmentEnabled : Bool)
  | notFound
  | multipleFound
  | failed
  | notMade

def lookupEnd (capabilities : AutoCapabilities) (agentID : String)
    (attempt : Attempt) : LookupEnd :=
  if capabilities.discovery.enabled ∧
      ¬(makeValidName agentID discoveryPrefix).isOk then .notMade
  else
    match attempt.lookup with
    | .found hardware => .found hardware.spec.auto.enrollmentEnabled
    | .notFound _ => .notFound
    | .multipleFound _ => .multipleFound
    | .failed _ => .failed

/-- The lookups after which enrollment may create a Workflow. A Hardware that
the call itself creates is one that the lookup did not find. -/
def LookupEnd.Permits : LookupEnd → Prop
  | .found enrollmentEnabled => enrollmentEnabled = true
  | .notFound => True
  | _ => False

/-- The lookup said whether the agent has a Hardware. -/
def LookupEnd.Answered : LookupEnd → Prop
  | .found _ | .notFound => True
  | _ => False

instance : (ended : LookupEnd) → Decidable ended.Permits
  | .found enrollmentEnabled => inferInstanceAs (Decidable (enrollmentEnabled = true))
  | .notFound => isTrue trivial
  | .multipleFound | .failed | .notMade => isFalse id

instance : (ended : LookupEnd) → Decidable ended.Answered
  | .found _ | .notFound => isTrue trivial
  | .multipleFound | .failed | .notMade => isFalse id

/-- A rule of the set matches the agent. -/
def Matches (matcher : RuleMatcher) (attributes : Option AgentAttributes)
    (ruleSet : WorkflowRuleSet) : Prop :=
  ∃ numMatches, matcher ruleSet.rules attributes = .ok numMatches ∧ 0 < numMatches

/-- The rest of the environment lets enrollment create a Workflow. -/
structure CanEnroll (matcher : RuleMatcher) (agentID : String)
    (attributes : Option AgentAttributes) (attempt : Attempt) : Prop where
  named : (makeValidName agentID workflowPrefix).isOk
  matched : ∃ ruleSets, attempt.ruleSets = .ok ruleSets ∧
    ∃ ruleSet ∈ ruleSets, Matches matcher attributes ruleSet
  accepted : attempt.createWorkflow.TookEffect

structure Enrolls (capabilities : AutoCapabilities) (matcher : RuleMatcher)
    (agentID : String) (attributes : Option AgentAttributes)
    (attempt : Attempt) : Prop where
  running : attempt.cancelled = false
  agent : agentID ≠ ""
  unassigned : attempt.serve.workflows = .ok []
  enabled : capabilities.enrollment.enabled = true
  canEnroll : CanEnroll matcher agentID attributes attempt

private theorem considerRuleSet_isSome {matcher : RuleMatcher}
    {attributes : Option AgentAttributes} {best : Option Match}
    {ruleSet : WorkflowRuleSet} :
    (considerRuleSet matcher attributes best ruleSet).isSome ↔
      best.isSome ∨ Matches matcher attributes ruleSet := by
  unfold considerRuleSet findMatch Matches
  cases matched : matcher ruleSet.rules attributes with
  | error => simp
  | ok numMatches =>
    cases best with
    | none =>
      by_cases positive : 0 < numMatches <;> simp [positive]
    | some best =>
      by_cases better : best.numMatches < numMatches <;> simp [better]

variable (matcher : RuleMatcher) (attributes : Option AgentAttributes)

theorem foldl_considerRuleSet_isSome (ruleSets : List WorkflowRuleSet) (best : Option Match) :
    (ruleSets.foldl (considerRuleSet matcher attributes) best).isSome ↔
      best.isSome ∨ ∃ ruleSet ∈ ruleSets, Matches matcher attributes ruleSet := by
  induction ruleSets generalizing best with
  | nil => simp
  | cons _ _ ih =>
    rw [List.foldl_cons, ih, considerRuleSet_isSome, or_assoc]
    simp

private theorem bestMatch_isSome (ruleSets : List WorkflowRuleSet) :
    (bestMatch matcher attributes ruleSets).isSome ↔
      ∃ ruleSet ∈ ruleSets, Matches matcher attributes ruleSet := by
  unfold bestMatch
  rw [foldl_considerRuleSet_isSome]
  simp

private theorem enroll_created (agentID : String) (attributes : Option AgentAttributes)
    (hardware : Option Hardware) (attempt : Attempt) (served : Calls) :
    (enroll matcher agentID attributes hardware attempt served).created ≠ [] ↔
      (∀ record ∈ hardware, record.spec.auto.enrollmentEnabled = true) ∧
        CanEnroll matcher agentID attributes attempt := by
  have split : CanEnroll matcher agentID attributes attempt ↔
      (makeValidName agentID workflowPrefix).isOk ∧
        (∃ ruleSets, attempt.ruleSets = .ok ruleSets ∧
          (bestMatch matcher attributes ruleSets).isSome) ∧
        attempt.createWorkflow.TookEffect := by
    simp only [bestMatch_isSome]
    exact ⟨fun can => ⟨can.named, can.matched, can.accepted⟩,
      fun ⟨named, matched, accepted⟩ => ⟨named, matched, accepted⟩⟩
  have optsOut : (hardware.any fun record => !record.spec.auto.enrollmentEnabled) = true ↔
      ¬∀ record ∈ hardware, record.spec.auto.enrollmentEnabled = true := by
    cases hardware <;> simp
  rw [split]
  unfold enroll
  by_cases allowed : ∀ record ∈ hardware, record.spec.auto.enrollmentEnabled = true
  · rw [if_neg (optsOut.not.mpr (not_not.mpr allowed)), and_iff_right allowed]
    cases attempt.ruleSets with
    | error => simp
    | ok ruleSets =>
      cases makeValidName agentID workflowPrefix with
      | error => simp [Except.isOk, Except.toBool]
      | ok =>
        cases chosen : bestMatch matcher attributes ruleSets with
        | none => simp [chosen]
        | some =>
          cases attempt.createWorkflow <;>
            simp [chosen, CreateReply.TookEffect, Except.isOk, Except.toBool]
  · rw [if_pos (optsOut.mpr allowed)]
    simp only [allowed, false_and]
    simp

variable {capabilities : AutoCapabilities} {agentID : String} {attempt : Attempt}

theorem ref_of_not_answered (unanswered : ¬(lookupEnd capabilities agentID attempt).Answered) :
    discoveredRef capabilities agentID attributes attempt = some none ∧
      enrollmentRef capabilities agentID none attempt = none := by
  unfold lookupEnd at unanswered
  unfold discoveredRef enrollmentRef
  by_cases discovery : capabilities.discovery.enabled
  · simp only [discovery, if_true, true_and] at unanswered ⊢
    unfold discover
    cases named : makeValidName agentID discoveryPrefix with
    | error => simp
    | ok =>
      cases looked : attempt.lookup <;>
        simp_all [Except.isOk, Except.toBool, LookupEnd.Answered]
  · unfold hardware
    cases looked : attempt.lookup <;>
      simp_all [LookupEnd.Answered]

private theorem ref_of_found {attributes : Option AgentAttributes} {enrollmentEnabled : Bool}
    {discovered : Option Hardware}
    (found : lookupEnd capabilities agentID attempt = .found enrollmentEnabled)
    (isRef : discoveredRef capabilities agentID attributes attempt = some discovered) :
    ∃ record, enrollmentRef capabilities agentID discovered attempt = some record ∧
      record.spec.auto.enrollmentEnabled = enrollmentEnabled := by
  unfold lookupEnd at found
  unfold discoveredRef at isRef
  unfold enrollmentRef
  by_cases discovery : capabilities.discovery.enabled
  · simp only [discovery, if_true, true_and] at found isRef ⊢
    unfold discover at isRef
    cases named : makeValidName agentID discoveryPrefix with
    | error => simp [named, Except.isOk, Except.toBool] at found
    | ok =>
      cases looked : attempt.lookup with
      | found record =>
        simp only [named, looked, Except.isOk, Except.toBool] at found isRef
        exact ⟨record, (Option.some.inj isRef).symm, LookupEnd.found.inj found⟩
      | notFound err | multipleFound err =>
        simp [named, looked, Except.isOk, Except.toBool] at found
      | failed => simp [named, looked, Except.isOk, Except.toBool] at found
  · unfold hardware
    cases looked : attempt.lookup <;> simp_all

private theorem doGetActionAuto_created (capabilities : AutoCapabilities)
    (matcher : RuleMatcher) (agentID : String)
    (attributes : Option AgentAttributes) (attempt : Attempt) :
    (doGetActionAuto capabilities matcher agentID attributes
        attempt).createdWorkflow.isSome ↔
      Enrolls capabilities matcher agentID attributes attempt ∧
        ∃ discovered, discoveredRef capabilities agentID attributes attempt =
            some discovered ∧
          ∀ record ∈ enrollmentRef capabilities agentID discovered attempt,
            record.spec.auto.enrollmentEnabled = true := by
  have split : Enrolls capabilities matcher agentID attributes attempt ↔
      attempt.cancelled = false ∧ agentID ≠ "" ∧ attempt.serve.workflows = .ok [] ∧
        capabilities.enrollment.enabled = true ∧
        CanEnroll matcher agentID attributes attempt :=
    ⟨fun enrolls => ⟨enrolls.running, enrolls.agent, enrolls.unassigned,
        enrolls.enabled, enrolls.canEnroll⟩,
      fun ⟨running, agent, unassigned, enabled, canEnroll⟩ =>
        ⟨running, agent, unassigned, enabled, canEnroll⟩⟩
  rw [split]
  unfold doGetActionAuto
  rw [List.isSome_head?]
  unfold doGetActionWith
  cases cancelled : attempt.cancelled with
  | true => simp
  | false =>
    by_cases agent : agentID = ""
    · simp [agent]
    · simp only [agent, if_false, Bool.false_eq_true]
      cases isRef : discoveredRef capabilities agentID attributes attempt with
      | none => simp
      | some =>
        cases listed : attempt.serve.workflows with
        | error => simp
        | ok wfs =>
          cases wfs with
          | cons => simp
          | nil =>
            by_cases enabled : capabilities.enrollment.enabled = true
            · simp only [enabled, if_true]
              rw [enroll_created]
              simp [agent, and_comm]
            · simp [enabled]

/-- One attempt keeps to the opt-out exactly when it is not one that would
enroll the agent after a lookup that gave no answer. -/
theorem created_permitted_iff (capabilities : AutoCapabilities)
    (matcher : RuleMatcher) (agentID : String)
    (attributes : Option AgentAttributes) (attempt : Attempt) :
    ((doGetActionAuto capabilities matcher agentID attributes
          attempt).createdWorkflow.isSome →
        (lookupEnd capabilities agentID attempt).Permits) ↔
      (Enrolls capabilities matcher agentID attributes attempt →
        (lookupEnd capabilities agentID attempt).Answered) := by
  rw [doGetActionAuto_created]
  constructor
  · intro keeps enrolls
    by_contra unanswered
    obtain ⟨isRef, noRef⟩ := ref_of_not_answered attributes unanswered
    have permits := keeps ⟨enrolls, none, isRef, by simp [noRef]⟩
    apply unanswered
    revert permits
    cases lookupEnd capabilities agentID attempt <;>
      simp [LookupEnd.Permits, LookupEnd.Answered]
  · rintro answers ⟨enrolls, discovered, isRef, allowed⟩
    have answered := answers enrolls
    cases ended : lookupEnd capabilities agentID attempt with
    | found =>
      obtain ⟨record, isRecord, same⟩ := ref_of_found ended isRef
      have enabled := allowed record isRecord
      exact same ▸ enabled
    | notFound => trivial
    | multipleFound | failed | notMade =>
      exact absurd answered (by simp [ended, LookupEnd.Answered])

/-- A call creates Workflows only after lookups that permit it exactly when
every attempt that would enroll the agent got an answer to its lookup. -/
theorem enrollment_respects_opt_out_iff (capabilities : AutoCapabilities)
    (matcher : RuleMatcher) (agentID : String)
    (attributes : Option AgentAttributes) (attempts : List Attempt) :
    (∀ attempt ∈ attemptsMade capabilities matcher agentID attributes attempts,
        (doGetActionAuto capabilities matcher agentID attributes
          attempt).createdWorkflow.isSome →
        (lookupEnd capabilities agentID attempt).Permits) ↔
      ∀ attempt ∈ attemptsMade capabilities matcher agentID attributes attempts,
        Enrolls capabilities matcher agentID attributes attempt →
        (lookupEnd capabilities agentID attempt).Answered := by
  constructor
  · intro keeps attempt made
    exact (created_permitted_iff capabilities matcher agentID attributes attempt).mp
      (keeps attempt made)
  · intro answers attempt made
    exact (created_permitted_iff capabilities matcher agentID attributes attempt).mpr
      (answers attempt made)

def severalFoundAttempt : Attempt where
  lookup := .multipleFound "got 2 hardware objects for agent ID: agent, expected only 1"
  serve := { workflows := .ok [] }
  ruleSets := .ok [{ name := "ruleset", rules := ["pattern"] }]
  enrolled := { workflows := .ok [] }

/-- With discovery off and with discovery on, a Workflow is created although
the lookup found several records. -/
theorem enrolls_after_several_found :
    (doGetActionAuto { enrollment := { enabled := true } }
        (fun rules _ => .ok rules.length) "agent" none
        severalFoundAttempt).createdWorkflow.isSome = true ∧
    (doGetActionAuto { enrollment := { enabled := true }, discovery := { enabled := true } }
        (fun rules _ => .ok rules.length) "agent" none
        severalFoundAttempt).createdWorkflow.isSome = true ∧
    ¬(lookupEnd { enrollment := { enabled := true } } "agent"
        severalFoundAttempt).Permits ∧
    ¬(lookupEnd { enrollment := { enabled := true }, discovery := { enabled := true } }
        "agent" severalFoundAttempt).Permits := by
  decide

end Tinkerbell.Server
