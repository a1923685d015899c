import Tinkerbell.Api.Attributes
import Tinkerbell.Api.Hardware
import Tinkerbell.Library.NetAddress
import Tinkerbell.Server.GetAction
import Tinkerbell.Server.Names

/-!
Owns: a `GetAction` call with automatic discovery and enrollment: the Hardware
lookup, the Hardware that discovery creates, the rule set that enrollment
chooses, and the Workflow it creates.

What the backend answers is data of an `Attempt`. The pattern matcher behind
the rule sets is a parameter: for the rules of one set and the attributes of
the agent it gives the number of rules that match, or an error.
-/

namespace Tinkerbell.Server

open Api

structure AutoEnrollment where
  enabled : Bool := false

structure AutoDiscovery where
  enabled : Bool := false
  «namespace» : String := ""
  /-- What a discovered Hardware gets as its own `enrollmentEnabled`. -/
  enrollmentEnabled : Bool := false

structure AutoCapabilities where
  enrollment : AutoEnrollment := {}
  discovery : AutoDiscovery := {}

/-- The attributes an agent sends and their JSON encoding, which is the text that
annotations get. -/
structure AgentAttributes extends Data.AgentAttributes where
  json : String := "\x7b\x7d"

structure TemplateConfig where
  agentValue : String := ""
  kvs : KeyedMap String String := KeyedMap.empty
  ref : String := ""

structure WorkflowRuleSetWorkflow where
  disabled : Option Bool := none
  «namespace» : String := ""
  addAttributes : Bool := false
  template : TemplateConfig := {}

structure WorkflowRuleSet where
  apiVersion : String := "tinkerbell.org/v1alpha1"
  kind : String := "WorkflowRuleSet"
  name : String
  uid : String := ""
  rules : List String := []
  workflow : WorkflowRuleSetWorkflow := {}

inductive HardwareLookup where
  | found (hardware : Hardware)
  | notFound (err : String)
  | multipleFound (err : String)
  | failed (err : String)

/-- The answers of the backend to a create: `lost` is a create that took
effect although the caller sees an error. -/
inductive CreateReply where
  | created
  | alreadyExists
  | refused (err : String)
  | lost (err : String)

def CreateReply.TookEffect : CreateReply → Prop
  | .created | .lost _ => True
  | _ => False

instance : (reply : CreateReply) → Decidable reply.TookEffect
  | .created | .lost _ => isTrue trivial
  | .alreadyExists | .refused _ => isFalse id

structure ServeReplies where
  workflows : Except String (List Workflow)
  updateError : Option String := none

/-- Everything the environment answers in one attempt of the call. -/
structure Attempt where
  cancelled : Bool := false
  lookup : HardwareLookup
  createHardware : CreateReply := .created
  serve : ServeReplies
  ruleSets : Except String (List WorkflowRuleSet) := .ok []
  createWorkflow : CreateReply := .created
  /-- The tries that follow a created Workflow; there is at least one. -/
  enrolled : ServeReplies
  enrolledRetries : List ServeReplies := []

def discoveryPrefix : String := "discovery-"

def workflowPrefix : String := "enrollment-"

def attributesAnnotation : String := "tinkerbell.org/agent-attributes"

def maxAnnotationSize : Nat := 64 * 1024

/-- The disks of a discovered Hardware. A block device with a size and no name
is dereferenced all the same, which stops the handler: `none`. -/
def discoveredDisks : List Data.Block → Option (List Disk)
  | [] => some []
  | block :: rest =>
    if block.size.getD "" = "" then discoveredDisks rest
    else do
      let name ← block.name
      let later ← discoveredDisks rest
      some ({ device := "/dev/" ++ name } :: later)

def discoveredInterfaces (interfaces : List Data.Network) : List Interface :=
  interfaces.filterMap fun iface =>
    match iface.mac with
    | none => none
    | some mac =>
      if mac = "" ∨ NetAddress.parseMAC mac = none then none
      else some { dhcp := some { mac } }

def updateHardware (hardware : Hardware) : Option AgentAttributes → Option Hardware
  | none => some hardware
  | some attributes => do
      let disks ← discoveredDisks attributes.blockDevices
      some { hardware with spec := { hardware.spec with
        disks := hardware.spec.disks ++ disks
        interfaces := hardware.spec.interfaces ++
          discoveredInterfaces attributes.networkInterfaces } }

def discoveredAnnotations : Option AgentAttributes → KeyedMap String String
  | none => KeyedMap.empty
  | some attributes =>
    if maxAnnotationSize < attributes.json.utf8ByteSize then KeyedMap.empty
    else KeyedMap.empty.set attributesAnnotation attributes.json

def discoveredHardware (discovery : AutoDiscovery) (name agentID : String)
    (attributes : Option AgentAttributes) : Option Hardware :=
  updateHardware
    { name
      «namespace» := discovery.namespace
      labels := KeyedMap.empty.set "tinkerbell.org/auto-discovered" "true"
      annotations := discoveredAnnotations attributes
      spec :=
        { agentID
          auto := { enrollmentEnabled := discovery.enrollmentEnabled } } }
    attributes

/-- How `Discover` ends. -/
inductive Discovery where
  | existing (hardware : Hardware)
  | created (hardware : Hardware)
  | failed (err : String)
  | panicked

def discover (discovery : AutoDiscovery) (agentID : String)
    (attributes : Option AgentAttributes) (attempt : Attempt) : Discovery :=
  match makeValidName agentID discoveryPrefix with
  | .error err => .failed
      ("failed to make discovery ID " ++ agentID ++
        " a valid Kubernetes name: " ++ err)
  | .ok name =>
    match attempt.lookup with
    | .found hardware => .existing hardware
    | .multipleFound err => .failed
        ("multiple hardware objects found for agent ID " ++ agentID ++ ": " ++ err)
    | .failed err => .failed
        ("failed to check for existing hardware object " ++ discovery.namespace ++
          "/" ++ name ++ ": " ++ err)
    | .notFound _ =>
      match discoveredHardware discovery name agentID attributes with
      | none => .panicked
      | some hardware =>
        match attempt.createHardware with
        | .created =>
          -- Only the copy in memory is marked, so that the call that
          -- created the Hardware may enroll it once.
          .created { hardware with spec := { hardware.spec with
            auto := { enrollmentEnabled := true } } }
        | .alreadyExists => .failed
            ("failed to create hardware object " ++ discovery.namespace ++
              "/" ++ name ++ ": already exists")
        | .refused err | .lost err => .failed
            ("failed to create hardware object " ++ discovery.namespace ++
              "/" ++ name ++ ": " ++ err)

def hardware (discovery : AutoDiscovery) (agentID : String)
    (attempt : Attempt) : Except String Hardware :=
  match attempt.lookup with
  | .found hardware => .ok hardware
  | .multipleFound err => .error
      ("multiple hardware objects found for ID " ++ agentID ++ " in namespace " ++
        discovery.namespace ++ ": " ++ err)
  | .notFound err => .error err
  | .failed err => .error err

/-- The pattern matcher: the number of matching rules. -/
abbrev RuleMatcher := List String → Option AgentAttributes → Except String Nat

structure Match where
  ruleSet : WorkflowRuleSet
  numMatches : Nat

def findMatch (matcher : RuleMatcher) (attributes : Option AgentAttributes)
    (ruleSet : WorkflowRuleSet) (curMatches : Nat) : Except String (Option Match) :=
  match matcher ruleSet.rules attributes with
  | .error err => .error err
  | .ok numMatches =>
    if curMatches < numMatches then .ok (some ⟨ruleSet, numMatches⟩)
    else .ok none

/-- One turn of the loop over the rule sets: a set that cannot be matched is
passed over, and only a larger number of matches replaces the choice. -/
def considerRuleSet (matcher : RuleMatcher) (attributes : Option AgentAttributes)
    (best : Option Match) (ruleSet : WorkflowRuleSet) : Option Match :=
  match findMatch matcher attributes ruleSet ((best.map Match.numMatches).getD 0) with
  | .ok (some better) => some better
  | _ => best

def bestMatch (matcher : RuleMatcher) (attributes : Option AgentAttributes)
    (ruleSets : List WorkflowRuleSet) : Option Match :=
  ruleSets.foldl (considerRuleSet matcher attributes) none

def enrollmentWorkflow (name agentID : String) (attributes : Option AgentAttributes)
    (hardware : Option Hardware) (ruleSet : WorkflowRuleSet) : Workflow where
  name
  «namespace» := ruleSet.workflow.namespace
  labels := KeyedMap.empty.set "tinkerbell.org/auto-enrollment" "true"
  annotations :=
    if ruleSet.workflow.addAttributes then
      KeyedMap.empty.set attributesAnnotation
        ((attributes.map AgentAttributes.json).getD "null")
    else KeyedMap.empty
  ownerReferences :=
    [{ apiVersion := ruleSet.apiVersion
       kind := ruleSet.kind
       name := ruleSet.name
       uid := ruleSet.uid
       controller := false }]
  spec :=
    { disabled := ruleSet.workflow.disabled
      templateRef := ruleSet.workflow.template.ref
      hardwareRef := (hardware.map Hardware.name).getD ""
      hardwareMap :=
        (KeyedMap.empty.set ruleSet.workflow.template.agentValue agentID).copy
          ruleSet.workflow.template.kvs }

def serveListed (agentID : String) (wfs : List Workflow)
    (updateError : Option String) : Except GrpcError ActionResponse := do
  let (_, response) ← doGetAction agentID wfs
  match updateError with
  | some err => .error ⟨.internal, "error writing current state: " ++ err⟩
  | none => .ok response

def doGetActionNoAuto (agentID : String) (replies : ServeReplies) :
    Except GrpcError ActionResponse :=
  match replies.workflows with
  | .error err => .error ⟨.internal, "error getting workflows: " ++ err⟩
  | .ok wfs => serveListed agentID wfs replies.updateError

def getActionNoAuto (agentID : String) (first : ServeReplies) :
    List ServeReplies → Except GrpcError ActionResponse
  | [] => doGetActionNoAuto agentID first
  | next :: rest =>
    match doGetActionNoAuto agentID first with
    | .ok response => .ok response
    | .error _ => getActionNoAuto agentID next rest

/-- How a run of a handler ends and the Workflows that were created in it, in order.
No answer stands for a handler that was stopped. -/
structure Calls where
  answer : Option (Except GrpcError ActionResponse)
  created : List Workflow := []

/-- `served` is what the `getActionNoAuto` that follows a created Workflow does. -/
def enroll (matcher : RuleMatcher) (agentID : String)
    (attributes : Option AgentAttributes) (hardware : Option Hardware)
    (attempt : Attempt) (served : Calls) : Calls :=
  if hardware.any fun hardware => !hardware.spec.auto.enrollmentEnabled then
    { answer := some (.error ⟨.failedPrecondition,
        "auto enrollment is disabled for this hardware"⟩) }
  else
    match attempt.ruleSets with
    | .error err =>
      { answer := some (.error ⟨.internal, "error getting workflow rules: " ++ err⟩) }
    | .ok ruleSets =>
      match makeValidName agentID workflowPrefix with
      | .error err =>
        { answer := some (.error ⟨.internal,
            "error making agentID a valid Kubernetes name: " ++ err⟩) }
      | .ok name =>
        match bestMatch matcher attributes ruleSets with
        | none =>
          { answer := some (.error ⟨.notFound,
              "no Workflow Rule Sets found or matched for Agent " ++ agentID⟩) }
        | some final =>
          let awf := enrollmentWorkflow name agentID attributes hardware final.ruleSet
          match attempt.createWorkflow with
          | .created => { answer := served.answer, created := awf :: served.created }
          | .alreadyExists =>
            { answer := some (.error ⟨.failedPrecondition, "existing workflow found"⟩) }
          | .refused err =>
            { answer := some (.error ⟨.internal,
                "error creating enrollment workflow: " ++ err⟩) }
          | .lost err =>
            { answer := some (.error ⟨.internal,
                "error creating enrollment workflow: " ++ err⟩)
              created := [awf] }

/-- The Hardware reference discovery leaves for the rest of the call; `none`
when the handler stopped in it. Its errors are dropped. -/
def discoveredRef (capabilities : AutoCapabilities) (agentID : String)
    (attributes : Option AgentAttributes) (attempt : Attempt) :
    Option (Option Hardware) :=
  if capabilities.discovery.enabled then
    match discover capabilities.discovery agentID attributes attempt with
    | .existing hardware => some (some hardware)
    | .created hardware => some (some hardware)
    | .failed _ => some none
    | .panicked => none
  else some none

def enrollmentRef (capabilities : AutoCapabilities) (agentID : String)
    (discovered : Option Hardware) (attempt : Attempt) : Option Hardware :=
  if capabilities.discovery.enabled then discovered
  else
    match hardware capabilities.discovery agentID attempt with
    | .ok hardware => some hardware
    | .error _ => discovered

/-- One run of `doGetAction` with automatic capabilities, where `served` is what an
enrollment goes on to do. -/
def doGetActionWith (capabilities : AutoCapabilities) (matcher : RuleMatcher)
    (agentID : String) (attributes : Option AgentAttributes)
    (attempt : Attempt) (served : Calls) : Calls :=
  if attempt.cancelled then
    { answer := some (.error ⟨.unavailable, "server shutting down"⟩) }
  else if agentID = "" then
    { answer := some (.error ⟨.invalidArgument, "invalid Agent ID"⟩) }
  else
    match discoveredRef capabilities agentID attributes attempt with
    | none => { answer := none }
    | some discovered =>
      match attempt.serve.workflows with
      | .error err =>
        { answer := some (.error ⟨.internal, "error getting workflows: " ++ err⟩) }
      | .ok [] =>
        if capabilities.enrollment.enabled then
          enroll matcher agentID attributes
            (enrollmentRef capabilities agentID discovered attempt) attempt served
        else { answer := some (.error ⟨.notFound, "no Workflows found"⟩) }
      | .ok (wf :: rest) =>
        { answer := some (serveListed agentID (wf :: rest) attempt.serve.updateError) }

/-- How an attempt ends: what it answered and what it created. -/
structure AttemptResult where
  answer : Option (Except GrpcError ActionResponse)
  createdWorkflow : Option Workflow := none

/-- A run whose inner request only lists and serves. -/
def doGetActionAuto (capabilities : AutoCapabilities) (matcher : RuleMatcher)
    (agentID : String) (attributes : Option AgentAttributes)
    (attempt : Attempt) : AttemptResult :=
  let calls := doGetActionWith capabilities matcher agentID attributes attempt
    { answer := some (getActionNoAuto agentID attempt.enrolled attempt.enrolledRetries) }
  ⟨calls.answer, calls.created.head?⟩

/-- The attempts a call makes of those the environment would answer: an error
is retried, a response or a stop of the handler ends the call. -/
def attemptsMade (capabilities : AutoCapabilities) (matcher : RuleMatcher)
    (agentID : String) (attributes : Option AgentAttributes) :
    List Attempt → List Attempt
  | [] => []
  | attempt :: rest =>
    match (doGetActionAuto capabilities matcher agentID attributes attempt).answer with
    | some (.error _) =>
      attempt :: attemptsMade capabilities matcher agentID attributes rest
    | _ => [attempt]

end Tinkerbell.Server
