import Tinkerbell.Server.Enrollment

/-!
Owns: which rule set enrollment chooses, and how many Workflows an enrollment creates
when the call that follows it, `getActionNoAuto`, goes back into `doGetAction`.

What one run of `doGetAction` meets is a tree: the answers of the backend, and the runs
that a retry loop inside it would make.
-/

namespace Tinkerbell.Server

open Api

def FirstBest (matcher : RuleMatcher) (attributes : Option AgentAttributes)
    (ruleSets : List WorkflowRuleSet) (best : Match) : Prop :=
  matcher best.ruleSet.rules attributes = .ok best.numMatches ∧ 0 < best.numMatches ∧
    ∃ before after, ruleSets = before ++ best.ruleSet :: after ∧
      (∀ other ∈ before, ∀ count,
        matcher other.rules attributes = .ok count → count < best.numMatches) ∧
      ∀ other ∈ after, ∀ count,
        matcher other.rules attributes = .ok count → count ≤ best.numMatches

/-- No rule set has a positive count. -/
def NoMatch (matcher : RuleMatcher) (attributes : Option AgentAttributes)
    (ruleSets : List WorkflowRuleSet) : Prop :=
  ∀ ruleSet ∈ ruleSets, ∀ count, matcher ruleSet.rules attributes = .ok count → count = 0

/-- The loop has chosen rightly among the rule sets it has seen. -/
def Chosen (matcher : RuleMatcher) (attributes : Option AgentAttributes)
    (seen : List WorkflowRuleSet) : Option Match → Prop
  | none => NoMatch matcher attributes seen
  | some best => FirstBest matcher attributes seen best

section Choice

variable {matcher : RuleMatcher} {attributes : Option AgentAttributes}
  {seen : List WorkflowRuleSet} {best : Match} {ruleSet : WorkflowRuleSet}

theorem FirstBest.le (first : FirstBest matcher attributes seen best) :
    ∀ other ∈ seen, ∀ count,
      matcher other.rules attributes = .ok count → count ≤ best.numMatches := by
  obtain ⟨evaluated, _, _, _, rfl, below, atMost⟩ := first
  intro other member count isCount
  rcases List.mem_append.mp member with earlier | later
  · exact (below other earlier count isCount).le
  · rcases List.mem_cons.mp later with rfl | later
    · rw [evaluated] at isCount
      cases isCount
      exact le_rfl
    · exact atMost other later count isCount

theorem FirstBest.append (first : FirstBest matcher attributes seen best)
    (notBetter : ∀ count, matcher ruleSet.rules attributes = .ok count →
      count ≤ best.numMatches) :
    FirstBest matcher attributes (seen ++ [ruleSet]) best := by
  obtain ⟨evaluated, positive, before, after, rfl, below, atMost⟩ := first
  refine ⟨evaluated, positive, before, after ++ [ruleSet], by simp, below, ?_⟩
  intro other member
  rcases List.mem_append.mp member with later | isLast
  · exact atMost other later
  · cases List.mem_singleton.mp isLast
    exact notBetter

private theorem firstBest_append_self {numMatches : Nat}
    (evaluated : matcher ruleSet.rules attributes = .ok numMatches) (positive : 0 < numMatches)
    (below : ∀ other ∈ seen, ∀ count,
      matcher other.rules attributes = .ok count → count < numMatches) :
    FirstBest matcher attributes (seen ++ [ruleSet]) ⟨ruleSet, numMatches⟩ :=
  ⟨evaluated, positive, seen, [], rfl, below, by simp⟩

theorem NoMatch.append (noMatch : NoMatch matcher attributes seen)
    (noCount : ∀ count, matcher ruleSet.rules attributes = .ok count → count = 0) :
    NoMatch matcher attributes (seen ++ [ruleSet]) := by
  intro other member
  rcases List.mem_append.mp member with earlier | isLast
  · exact noMatch other earlier
  · cases List.mem_singleton.mp isLast
    exact noCount

private theorem considerRuleSet_cases (current : Option Match) :
    (considerRuleSet matcher attributes current ruleSet = current ∧
        ∀ count, matcher ruleSet.rules attributes = .ok count →
          count ≤ (current.map Match.numMatches).getD 0) ∨
      ∃ count, matcher ruleSet.rules attributes = .ok count ∧
        (current.map Match.numMatches).getD 0 < count ∧
        considerRuleSet matcher attributes current ruleSet = some ⟨ruleSet, count⟩ := by
  unfold considerRuleSet findMatch
  cases evaluated : matcher ruleSet.rules attributes with
  | error =>
    refine .inl ⟨rfl, ?_⟩
    intro count isCount
    cases isCount
  | ok numMatches =>
    by_cases better : (current.map Match.numMatches).getD 0 < numMatches
    · exact .inr ⟨numMatches, rfl, better, by simp only [better, if_true]⟩
    · refine .inl ⟨by simp only [better, if_false], ?_⟩
      intro count isCount
      cases isCount
      exact not_lt.mp better

theorem Chosen.step {current : Option Match} (chosen : Chosen matcher attributes seen current) :
    Chosen matcher attributes (seen ++ [ruleSet])
      (considerRuleSet matcher attributes current ruleSet) := by
  have turn := @considerRuleSet_cases matcher attributes ruleSet current
  rcases turn with ⟨unchanged, notBetter⟩ | ⟨count, evaluated, better, isBest⟩
  · rw [unchanged]
    cases current with
    | none =>
      apply NoMatch.append chosen
      intro count isCount
      exact Nat.le_zero.mp (notBetter count isCount)
    | some => exact FirstBest.append chosen notBetter
  · rw [isBest]
    apply firstBest_append_self evaluated (Nat.zero_lt_of_lt better)
    intro other member otherCount isCount
    cases current with
    | none =>
      rw [chosen other member otherCount isCount]
      exact better
    | some => exact (FirstBest.le chosen other member otherCount isCount).trans_lt better

end Choice

theorem Chosen.foldl {matcher : RuleMatcher} {attributes : Option AgentAttributes}
    (ruleSets : List WorkflowRuleSet) {seen : List WorkflowRuleSet} {current : Option Match}
    (chosen : Chosen matcher attributes seen current) :
    Chosen matcher attributes (seen ++ ruleSets)
      (ruleSets.foldl (considerRuleSet matcher attributes) current) := by
  induction ruleSets generalizing seen current with
  | nil => rwa [List.append_nil]
  | cons _ _ ih =>
    rw [List.foldl_cons, List.append_cons]
    exact ih chosen.step

theorem bestMatch_chosen (matcher : RuleMatcher) (attributes : Option AgentAttributes)
    (ruleSets : List WorkflowRuleSet) :
    Chosen matcher attributes ruleSets (bestMatch matcher attributes ruleSets) := by
  have initially : Chosen matcher attributes [] none := by
    intro ruleSet member
    cases member
  exact initially.foldl ruleSets

/-- What a run of `doGetAction` meets, and the runs that the retries of the
`getActionNoAuto` inside it would make. -/
inductive Environment where
  | node (attempt : Attempt) (retries : List Environment)

def noAuto : AutoCapabilities where
  enrollment := { enabled := false }
  discovery := { enabled := false }

def Calls.orRetry (first : Calls) (next : Option Calls) : Calls :=
  match first.answer, next with
  | some (.error _), some next =>
    { answer := next.answer, created := first.created ++ next.created }
  | _, _ => first

mutual

def doGetActionCalls (capabilities : AutoCapabilities) (matcher : RuleMatcher)
    (agentID : String) (attributes : Option AgentAttributes) : Environment → Calls
  | .node attempt retries =>
    doGetActionWith capabilities matcher agentID attributes attempt
      ((getActionNoAutoCalls matcher agentID retries).getD { answer := none })

/-- `getActionNoAuto`: the request it makes carries no attributes, and its options
switch the automatic capabilities off. -/
def getActionNoAutoCalls (matcher : RuleMatcher) (agentID : String) :
    List Environment → Option Calls
  | [] => none
  | environment :: rest =>
    some ((doGetActionCalls noAuto matcher agentID none environment).orRetry
      (getActionNoAutoCalls matcher agentID rest))

end

def enrollRun (matcher : RuleMatcher) (agentID : String) (attributes : Option AgentAttributes)
    (hardware : Option Hardware) : Environment → Calls
  | .node attempt retries =>
    enroll matcher agentID attributes hardware attempt
      ((getActionNoAutoCalls matcher agentID retries).getD { answer := none })

section NoAuto

variable (matcher : RuleMatcher) (agentID : String)

private theorem doGetActionCalls_noAuto_created (attributes : Option AgentAttributes)
    (environment : Environment) :
    (doGetActionCalls noAuto matcher agentID attributes environment).created = [] := by
  obtain ⟨_, _⟩ := environment
  rw [doGetActionCalls, doGetActionWith]
  split
  · rfl
  · split
    · rfl
    · split
      · rfl
      · split
        · rfl
        · rfl
        · rfl

theorem Calls.orRetry_created {first : Calls} {next : Option Calls} (firstNone : first.created = [])
    (nextNone : ∀ calls ∈ next, calls.created = []) : (first.orRetry next).created = [] := by
  unfold Calls.orRetry
  split
  · next calls _ => rw [firstNone, nextNone calls rfl, List.append_nil]
  · exact firstNone

private theorem getActionNoAutoCalls_created (environments : List Environment) :
    ((getActionNoAutoCalls matcher agentID environments).getD { answer := none }).created =
      [] := by
  induction environments with
  | nil => rfl
  | cons environment _ ih =>
    refine Calls.orRetry_created
      (doGetActionCalls_noAuto_created matcher agentID none environment) ?_
    intro calls isSome
    rw [isSome] at ih
    exact ih

end NoAuto

section Enrollment

variable (matcher : RuleMatcher) (agentID : String) (attributes : Option AgentAttributes)
  (hardware : Option Hardware)

theorem enroll_createdOnce (attempt : Attempt) {served : Calls}
    (servedNone : served.created = []) :
    (enroll matcher agentID attributes hardware attempt served).created = [] ∨
      ∃ ruleSets name final, attempt.ruleSets = .ok ruleSets ∧
        bestMatch matcher attributes ruleSets = some final ∧
        (enroll matcher agentID attributes hardware attempt served).created =
          [enrollmentWorkflow name agentID attributes hardware final.ruleSet] := by
  unfold enroll
  split
  · exact .inl rfl
  · split
    · exact .inl rfl
    · next ruleSets listed =>
      split
      · exact .inl rfl
      · next name _ =>
        split
        · exact .inl rfl
        · next final isBest =>
          simp only [servedNone]
          split
          · exact .inr ⟨ruleSets, name, final, listed, isBest, rfl⟩
          · exact .inl rfl
          · exact .inl rfl
          · exact .inr ⟨ruleSets, name, final, listed, isBest, rfl⟩

private theorem enroll_creates {attempt : Attempt} {ruleSets : List WorkflowRuleSet} {name : String}
    (allowed : ∀ record ∈ hardware, record.spec.auto.enrollmentEnabled = true)
    (listed : attempt.ruleSets = .ok ruleSets)
    (named : makeValidName agentID workflowPrefix = .ok name)
    (accepted : attempt.createWorkflow.TookEffect)
    (matched : ¬NoMatch matcher attributes ruleSets) {served : Calls}
    (servedNone : served.created = []) :
    ∃ final, FirstBest matcher attributes ruleSets final ∧
      (enroll matcher agentID attributes hardware attempt served).created =
        [enrollmentWorkflow name agentID attributes hardware final.ruleSet] := by
  have chosen := bestMatch_chosen matcher attributes ruleSets
  have notOut : (hardware.any fun record => !record.spec.auto.enrollmentEnabled) = false := by
    cases hardware with
    | none => rfl
    | some record => simp [allowed record rfl]
  cases isBest : bestMatch matcher attributes ruleSets with
  | none =>
    rw [isBest] at chosen
    exact absurd chosen matched
  | some final =>
    rw [isBest] at chosen
    refine ⟨final, chosen, ?_⟩
    unfold enroll
    simp only [notOut, listed, named, isBest, Bool.false_eq_true, if_false]
    cases isReply : attempt.createWorkflow with
    | created => simp [servedNone]
    | lost => rfl
    | alreadyExists | refused err =>
      rw [isReply] at accepted
      cases accepted

/-- The Workflow that an enrollment creates refers to the template of the first rule set
with the largest count, which is positive; without a positive count none is created; there
is at most one, whatever the retries of the call that follows meet; and where the Hardware
allows it, the rule sets are listed, the name is valid, some count is positive and the
create takes effect, the Workflow of the first best rule set is created. -/
theorem enrollment_picks_the_best_rule_set (attempt : Attempt) (retries : List Environment) :
    (∀ workflow ∈
        (enrollRun matcher agentID attributes hardware (.node attempt retries)).created,
      ∃ ruleSets final, attempt.ruleSets = .ok ruleSets ∧
        FirstBest matcher attributes ruleSets final ∧
        workflow.spec.templateRef = final.ruleSet.workflow.template.ref) ∧
      (∀ ruleSets, attempt.ruleSets = .ok ruleSets → NoMatch matcher attributes ruleSets →
        (enrollRun matcher agentID attributes hardware (.node attempt retries)).created = []) ∧
      (enrollRun matcher agentID attributes hardware
        (.node attempt retries)).created.length ≤ 1 ∧
      ∀ ruleSets name, (∀ record ∈ hardware, record.spec.auto.enrollmentEnabled = true) →
        attempt.ruleSets = .ok ruleSets → makeValidName agentID workflowPrefix = .ok name →
        attempt.createWorkflow.TookEffect → ¬NoMatch matcher attributes ruleSets →
          ∃ final, FirstBest matcher attributes ruleSets final ∧
            (enrollRun matcher agentID attributes hardware (.node attempt retries)).created =
              [enrollmentWorkflow name agentID attributes hardware final.ruleSet] := by
  have servedNone : ((getActionNoAutoCalls matcher agentID retries).getD
      { answer := none }).created = [] := getActionNoAutoCalls_created matcher agentID retries
  have creates := fun ruleSets name allowed listed named accepted matched =>
    @enroll_creates matcher agentID attributes hardware attempt ruleSets name allowed listed
      named accepted matched _ servedNone
  rcases enroll_createdOnce matcher agentID attributes hardware attempt servedNone with
    isNone | ⟨ruleSets, name, final, listed, isBest, isOne⟩
  · refine ⟨?_, fun _ _ _ => isNone, isNone ▸ Nat.zero_le 1, creates⟩
    intro workflow member
    rw [enrollRun, isNone] at member
    cases member
  · have first : FirstBest matcher attributes ruleSets final := by
      have chosen := bestMatch_chosen matcher attributes ruleSets
      rw [isBest] at chosen
      exact chosen
    refine ⟨?_, ?_, isOne ▸ Nat.le_refl 1, creates⟩
    · intro workflow member
      rw [enrollRun, isOne] at member
      cases List.mem_singleton.mp member
      exact ⟨ruleSets, final, listed, first, rfl⟩
    · intro others sameList noMatch
      rw [listed] at sameList
      cases sameList
      obtain ⟨evaluated, positive, before, _, isSplit, _⟩ := first
      have member : final.ruleSet ∈ ruleSets := by
        rw [isSplit]
        exact List.mem_append_right before List.mem_cons_self
      exact absurd (noMatch final.ruleSet member final.numMatches evaluated) positive.ne'

end Enrollment

def ruleSetOf (template : String) (rules : List String) : WorkflowRuleSet :=
  { name := template, rules, workflow := { template := { ref := template } } }

/-- Every rule counts, but a broken one makes its rule set fail. -/
def countRules : RuleMatcher := fun rules _ =>
  if "broken" ∈ rules then .error "invalid pattern" else .ok rules.length

def tiedAttempt : Attempt where
  lookup := .notFound ""
  serve := { workflows := .ok [] }
  ruleSets := .ok [ruleSetOf "one" ["mac"], ruleSetOf "failing" ["mac", "cpu", "broken"],
    ruleSetOf "two" ["mac", "cpu"], ruleSetOf "tied" ["mac", "disk"]]
  enrolled := { workflows := .ok [] }

/-- Of two rule sets that tie, behind one that fails, the first is taken. -/
theorem enrollment_picks_the_first_of_a_tie :
    let created := (enrollRun countRules "agent" none none (.node tiedAttempt [])).created
    (∃ final name, created = [enrollmentWorkflow name "agent" none none final]) ∧
      created.map (fun workflow => workflow.spec.templateRef) = ["two"] := by
  refine ⟨?_, by decide +kernel⟩
  obtain ⟨final, _, isCreated⟩ :=
    (enrollment_picks_the_best_rule_set countRules "agent" none none tiedAttempt []).2.2.2
      _ "enrollment-agent" nofun rfl (by decide +kernel) trivial (fun noMatch => by
        have noCount := noMatch (ruleSetOf "one" ["mac"]) (by simp) 1 rfl
        cases noCount)
  exact ⟨final.ruleSet, _, isCreated⟩

section Quiet

variable {matcher : RuleMatcher} {agentID : String} (named : agentID ≠ "")

def quiet (replies : ServeReplies) : Environment :=
  .node { lookup := .notFound "", serve := replies, enrolled := replies } []

include named

theorem doGetActionCalls_quiet (replies : ServeReplies) :
    doGetActionCalls noAuto matcher agentID none (quiet replies) =
      { answer := some (doGetActionNoAuto agentID replies) } := by
  unfold quiet doGetActionNoAuto
  rw [doGetActionCalls, doGetActionWith]
  simp only [Bool.false_eq_true, if_false, named]
  cases replies.workflows with
  | error => rfl
  | ok wfs =>
    cases wfs with
    | cons => rfl
    | nil =>
      simp only [discoveredRef, noAuto, serveListed, doGetAction, named, Bool.false_eq_true,
        if_false]
      rfl

private theorem getActionNoAutoCalls_quiet (first : ServeReplies) (rest : List ServeReplies) :
    getActionNoAutoCalls matcher agentID ((first :: rest).map quiet) =
      some { answer := some (getActionNoAuto agentID first rest) } := by
  induction rest generalizing first with
  | nil =>
    rw [List.map_cons, getActionNoAutoCalls, doGetActionCalls_quiet named, getActionNoAuto]
    cases doGetActionNoAuto agentID first with
    | error err | ok response => rfl
  | cons next _ ih =>
    rw [List.map_cons, getActionNoAutoCalls, ih next, doGetActionCalls_quiet named, getActionNoAuto]
    cases doGetActionNoAuto agentID first with
    | error err | ok response => rfl

end Quiet

private theorem doGetActionWith_created (capabilities : AutoCapabilities) (matcher : RuleMatcher)
    (agentID : String) (attributes : Option AgentAttributes) (attempt : Attempt)
    {served : Calls} (servedNone : served.created = []) :
    (doGetActionWith capabilities matcher agentID attributes attempt served).created = [] ∨
      ∃ workflow, (doGetActionWith capabilities matcher agentID attributes attempt
        served).created = [workflow] := by
  unfold doGetActionWith
  split
  · exact .inl rfl
  · split
    · exact .inl rfl
    · split
      · exact .inl rfl
      · split
        · exact .inl rfl
        · split
          · rcases enroll_createdOnce matcher agentID attributes _ attempt servedNone with
              isNone | ⟨_, _, _, _, _, isOne⟩
            · exact .inl isNone
            · exact .inr ⟨_, isOne⟩
          · exact .inl rfl
        · exact .inl rfl

/-- With inner runs that only list and serve, a run is the attempt it was modelled as. -/
theorem doGetActionCalls_eq_auto (capabilities : AutoCapabilities) (matcher : RuleMatcher)
    (agentID : String) (attributes : Option AgentAttributes) (attempt : Attempt) :
    doGetActionCalls capabilities matcher agentID attributes
        (.node attempt ((attempt.enrolled :: attempt.enrolledRetries).map quiet)) =
      { answer := (doGetActionAuto capabilities matcher agentID attributes attempt).answer
        created := (doGetActionAuto capabilities matcher agentID attributes
          attempt).createdWorkflow.toList } := by
  have sameCalls : doGetActionCalls capabilities matcher agentID attributes
        (.node attempt ((attempt.enrolled :: attempt.enrolledRetries).map quiet)) =
      doGetActionWith capabilities matcher agentID attributes attempt
        { answer := some (getActionNoAuto agentID attempt.enrolled
            attempt.enrolledRetries) } := by
    rw [doGetActionCalls]
    by_cases unnamed : agentID = ""
    · simp only [doGetActionWith, unnamed, if_true]
    · rw [getActionNoAutoCalls_quiet unnamed]
      rfl
  rw [sameCalls]
  unfold doGetActionAuto
  generalize isServed : ({ answer := some (getActionNoAuto agentID attempt.enrolled
    attempt.enrolledRetries) } : Calls) = served
  have servedNone : served.created = [] := by rw [← isServed]
  have atMostOne := doGetActionWith_created capabilities matcher agentID attributes attempt
    servedNone
  generalize doGetActionWith capabilities matcher agentID attributes attempt served =
    calls at atMostOne
  obtain ⟨_, _⟩ := calls
  rcases atMostOne with isNone | ⟨workflow, isOne⟩
  · cases isNone
    rfl
  · cases isOne
    rfl

end Tinkerbell.Server
