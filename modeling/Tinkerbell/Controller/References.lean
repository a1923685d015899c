import Tinkerbell.Controller.New

/-!
Owns: the references of a Hardware: which of them the allow and deny rules let the
controller read, the loop that reads them for the template data, and what the rendered
workflow can depend on.

The pattern matcher behind the rules is a parameter: for a list of rules and a reference
it gives an error, or whether a rule matches. So are rendering and YAML decoding, which
see the template data as a map, and the lower-casing of a reference's group and resource.
-/

namespace Tinkerbell.Controller

open Api

structure Reference where
  («namespace» name group version resource : String := "")
deriving DecidableEq

/-- The object that contains the references. -/
structure Source where
  (name «namespace» : String)

structure EvaluationData where
  source : Source
  reference : Reference

/-- `evaluate`, without the matching rules, which are only logged. -/
abbrev RuleEvaluator := List String → EvaluationData → Except String Bool

structure ReferenceRules where
  (denylist allowlist : List String := [])

/-- Adding a valid rule can only turn not matched into matched. -/
def MonotoneMatching (evaluate : RuleEvaluator) (valid : String → Prop) : Prop :=
  ∀ before rule after data, valid rule →
    evaluate (before ++ rule :: after) data = evaluate (before ++ after) data ∨
      evaluate (before ++ after) data = .ok false ∧
        evaluate (before ++ rule :: after) data = .ok true

def Readable (evaluate : RuleEvaluator) (rules : ReferenceRules) (data : EvaluationData) : Prop :=
  ∃ denied allowed, evaluate rules.denylist data = .ok denied ∧
    evaluate rules.allowlist data = .ok allowed ∧ (allowed = true ∨ denied = false)

/-- What names an object in the cluster. -/
structure ObjectKey where
  (group version resource «namespace» name : String)

def sanitizedKey (toLower : String → String) (rf : Reference) : ObjectKey where
  group := toLower rf.group
  version := rf.version
  resource := toLower rf.resource
  «namespace» := rf.namespace
  name := rf.name

def dynamicRead {ω : Type} (toLower : String → String) (objects : ObjectKey → Except String ω)
    (rf : Reference) : Option ω × Option String :=
  match objects (sanitizedKey toLower rf) with
  | .error err => (none, some ("error getting resource: " ++ err))
  | .ok one => (some one, none)

structure Gathered (ω : Type) where
  references : String → Option (Option ω) := fun _ => none
  refErr : Option String := none
  reads : List Reference := []

def Gathered.addRead {ω : Type} (gathered : Gathered ω) (entry : String × Reference)
    (reply : Option ω × Option String) : Gathered ω :=
  match reply with
  | (none, some err) =>
    { gathered with
      refErr := some (joinError gathered.refErr err)
      reads := gathered.reads ++ [entry.2] }
  | (value, _) =>
    { gathered with
      references := fun key => if key = entry.1 then some value else gathered.references key
      reads := gathered.reads ++ [entry.2] }

section Gather

variable {ω : Type} (evaluate : RuleEvaluator) (rules : ReferenceRules) (source : Source)
  (read : Reference → Option ω × Option String)

def gatherReference (gathered : Gathered ω) (entry : String × Reference) : Gathered ω :=
  let rf := entry.2
  match evaluate rules.denylist ⟨source, rf⟩ with
  | .error err => { gathered with refErr := some (joinError gathered.refErr err) }
  | .ok denied =>
    match evaluate rules.allowlist ⟨source, rf⟩ with
    | .error err => { gathered with refErr := some (joinError gathered.refErr err) }
    | .ok allowed =>
      if denied && !allowed then
        { gathered with refErr := some (joinError gathered.refErr "reference denied") }
      else gathered.addRead entry (read rf)

def gatherReferences (order : List (String × Reference)) : Gathered ω :=
  order.foldl (gatherReference evaluate rules source read) {}

end Gather

/-- A Hardware with its references. -/
structure ReferencedHardware where
  hardware : Hardware
  references : KeyedMap String Reference := KeyedMap.empty

def ReferencedHardware.source (referenced : ReferencedHardware) : Source where
  name := referenced.hardware.name
  «namespace» := referenced.hardware.namespace

def noHardware : ReferencedHardware where
  hardware := { name := "", «namespace» := "" }

structure TemplateHardwareData where
  disks : List String := []
  interfaces : List Interface := []
  metadata : HardwareMetadata := {}
  (userData vendorData : String := "")

def toTemplateHardwareData (hardware : Hardware) : TemplateHardwareData where
  disks := hardware.spec.disks.map Disk.device
  interfaces := hardware.spec.interfaces
  metadata := hardware.spec.metadata.getD {}
  userData := hardware.spec.userData.getD ""
  vendorData := hardware.spec.vendorData.getD ""

inductive TemplateValue (ω : Type) where
  | text (value : String)
  | hardware (hardware : ReferencedHardware)
  | contract (data : TemplateHardwareData)
  | references (objects : String → Option (Option ω))

def templateData {ω : Type} (stored : Workflow) (hardware : ReferencedHardware)
    (references : String → Option (Option ω)) (key : String) : Option (TemplateValue ω) :=
  if key = "references" then some (.references references)
  else if key = "Hardware" then some (.contract (toTemplateHardwareData hardware.hardware))
  else if key = "hardware" then some (.hardware hardware)
  else (stored.spec.hardwareMap.get key).map .text

/-- Rendering and decoding a template, and the text of its data. -/
structure Renderer (ω : Type) where
  decode : String → String → (String → Option (TemplateValue ω)) → Except String Template.Workflow
  dataText : (String → Option (TemplateValue ω)) → String

/-- An order in which Go goes over a map. -/
structure Iteration where
  order : KeyedMap String Reference → List (String × Reference)
  isOrder : ∀ map, (order map).Perm map.entries

/-- What `processWorkflow` reads. -/
structure TemplateCluster (ω : Type) where
  template : Except ReadError String
  hardware : Except ReadError ReferencedHardware
  objects : ObjectKey → Except String ω

def TemplateCluster.reached {ω : Type} (cluster : TemplateCluster ω) (stored : Workflow) :
    Option (String × ReferencedHardware) :=
  match cluster.template, cluster.hardware with
  | .ok tpl, .ok hardware => some (tpl, hardware)
  | .ok tpl, .error (.notFound _) =>
    if stored.spec.hardwareRef ≠ "" then none else some (tpl, noHardware)
  | _, _ => none

structure Processed where
  status : WorkflowStatus
  err : Option String
  rendered : Option (Except String Template.Workflow) := none
  reads : List Reference := []

section Process

variable {ω : Type} (evaluate : RuleEvaluator) (toLower : String → String)
  (renderer : Renderer ω) (iteration : Iteration)

def TemplateCluster.gathered (rules : ReferenceRules) (cluster : TemplateCluster ω)
    (hardware : ReferencedHardware) : Gathered ω :=
  gatherReferences evaluate rules hardware.source (dynamicRead toLower cluster.objects)
    (iteration.order hardware.references)

def processReferences (rules : ReferenceRules) (replies : Replies)
    (cluster : TemplateCluster ω) (stored : Workflow) : Processed :=
  let replies := { replies with
    template := cluster.template
    templateHardware := cluster.hardware.map ReferencedHardware.hardware }
  match cluster.reached stored with
  | none =>
    let (status, err) := processWorkflow replies stored
    { status, err }
  | some (tpl, hardware) =>
    let gathered := cluster.gathered evaluate toLower iteration rules hardware
    let data := templateData stored hardware gathered.references
    let replies := { replies with
      referenceError := gathered.refErr
      hardwareData := renderer.dataText data
      decoded := renderer.decode stored.name tpl data }
    let (status, err) := processWorkflow replies stored
    { status
      err
      rendered := some (renderTemplateHardware replies)
      reads := gathered.reads }

end Process

section Turn

variable {ω : Type} {evaluate : RuleEvaluator} {rules : ReferenceRules} {source : Source}

/-- A readable reference is read, and a refused one leaves an error, whatever the cluster
would have answered. -/
theorem gatherReference_cases (gathered : Gathered ω) (entry : String × Reference) :
    (Readable evaluate rules ⟨source, entry.2⟩ ∧ ∀ read,
        gatherReference evaluate rules source read gathered entry =
          gathered.addRead entry (read entry.2)) ∨
      (¬Readable evaluate rules ⟨source, entry.2⟩ ∧ ∃ text, ∀ read,
        gatherReference evaluate rules source read gathered entry =
          { gathered with refErr := some (joinError gathered.refErr text) }) := by
  cases isDenied : evaluate rules.denylist ⟨source, entry.2⟩ with
  | error err =>
    refine .inr ⟨?_, err, fun read => by simp only [gatherReference, isDenied]⟩
    rintro ⟨denied, allowed, isOk, _⟩
    rw [isDenied] at isOk
    cases isOk
  | ok denied =>
    cases isAllowed : evaluate rules.allowlist ⟨source, entry.2⟩ with
    | error err =>
      refine .inr ⟨?_, err, fun read => by simp only [gatherReference, isDenied, isAllowed]⟩
      rintro ⟨_, allowed, _, isOk, _⟩
      rw [isAllowed] at isOk
      cases isOk
    | ok allowed =>
      by_cases refused : (denied && !allowed) = true
      · refine .inr ⟨?_, "reference denied", fun read => by
          simp only [gatherReference, isDenied, isAllowed, refused, if_true]⟩
        rintro ⟨_, _, sameDenied, sameAllowed, either⟩
        rw [isDenied] at sameDenied
        rw [isAllowed] at sameAllowed
        cases sameDenied
        cases sameAllowed
        simp only [Bool.and_eq_true, Bool.not_eq_true'] at refused
        rcases either with isTrue | isFalse
        · exact absurd isTrue (by simp [refused.2])
        · exact absurd isFalse (by simp [refused.1])
      · refine .inl ⟨⟨denied, allowed, isDenied, isAllowed, ?_⟩, fun read => by
          simp only [gatherReference, isDenied, isAllowed, refused, Bool.false_eq_true, if_false]⟩
        cases allowed with
        | true => exact .inl rfl
        | false =>
          cases denied with
          | true => exact absurd rfl refused
          | false => exact .inr rfl

private theorem addRead_reads (gathered : Gathered ω) (entry : String × Reference)
    (reply : Option ω × Option String) :
    (gathered.addRead entry reply).reads = gathered.reads ++ [entry.2] := by
  unfold Gathered.addRead
  split <;> rfl

section

variable (read : Reference → Option ω × Option String)

private theorem mem_reads_gatherReference
    (gathered : Gathered ω) (entry : String × Reference) (rf : Reference) :
    rf ∈ (gatherReference evaluate rules source read gathered entry).reads ↔
      rf ∈ gathered.reads ∨ rf = entry.2 ∧ Readable evaluate rules ⟨source, entry.2⟩ := by
  have turn := @gatherReference_cases ω evaluate rules source gathered entry
  rcases turn with ⟨readable, isRead⟩ | ⟨refused, text, isRefused⟩
  · rw [isRead read, addRead_reads, List.mem_append, List.mem_singleton]
    simp only [readable, and_true]
  · rw [isRefused read]
    simp only [refused, and_false, or_false]

private theorem mem_reads_foldl
    (order : List (String × Reference)) (gathered : Gathered ω) (rf : Reference) :
    rf ∈ (order.foldl (gatherReference evaluate rules source read) gathered).reads ↔
      rf ∈ gathered.reads ∨
        ∃ entry ∈ order, rf = entry.2 ∧ Readable evaluate rules ⟨source, entry.2⟩ := by
  induction order generalizing gathered with
  | nil => simp
  | cons _ _ ih =>
    rw [List.foldl_cons, ih, mem_reads_gatherReference, or_assoc]
    simp only [List.mem_cons, exists_eq_or_imp]

private theorem mem_reads_gatherReferences
    (order : List (String × Reference)) (rf : Reference) :
    rf ∈ (gatherReferences evaluate rules source read order).reads ↔
      ∃ entry ∈ order, rf = entry.2 ∧ Readable evaluate rules ⟨source, entry.2⟩ := by
  unfold gatherReferences
  rw [mem_reads_foldl]
  simp

end

private theorem foldl_gatherReference_congr {first second : Reference → Option ω × Option String}
    (order : List (String × Reference))
    (same : ∀ entry ∈ order, Readable evaluate rules ⟨source, entry.2⟩ →
      first entry.2 = second entry.2) (gathered : Gathered ω) :
    order.foldl (gatherReference evaluate rules source first) gathered =
      order.foldl (gatherReference evaluate rules source second) gathered := by
  induction order generalizing gathered with
  | nil => rfl
  | cons entry _ ih =>
    have head : gatherReference evaluate rules source first gathered entry =
        gatherReference evaluate rules source second gathered entry := by
      have turn := @gatherReference_cases ω evaluate rules source gathered entry
      rcases turn with ⟨readable, isRead⟩ | ⟨_, text, isRefused⟩
      · rw [isRead first, isRead second, same entry List.mem_cons_self readable]
      · rw [isRefused first, isRefused second]
    rw [List.foldl_cons, List.foldl_cons, head]
    exact ih (fun later member => same later (List.mem_cons_of_mem _ member)) _

theorem gatherReference_references (read : Reference → Option ω × Option String)
    (entry : String × Reference) :
    (∀ gathered, (gatherReference evaluate rules source read gathered entry).references =
        gathered.references) ∨
      ∃ value, ∀ gathered,
        (gatherReference evaluate rules source read gathered entry).references =
          fun key => if key = entry.1 then some value else gathered.references key := by
  have turn := fun gathered => @gatherReference_cases ω evaluate rules source gathered entry
  by_cases readable : Readable evaluate rules ⟨source, entry.2⟩
  · have isRead : ∀ gathered, gatherReference evaluate rules source read gathered entry =
        gathered.addRead entry (read entry.2) := by
      intro gathered
      rcases turn gathered with ⟨_, isRead⟩ | ⟨refused, _⟩
      · exact isRead read
      · exact absurd readable refused
    rcases isReply : read entry.2 with ⟨value, err⟩
    simp only [isRead, isReply, Gathered.addRead]
    cases value with
    | some value => exact .inr ⟨some value, fun _ => rfl⟩
    | none =>
      cases err with
      | none => exact .inr ⟨none, fun _ => rfl⟩
      | some => exact .inl fun _ => rfl
  · refine .inl fun gathered => ?_
    rcases turn gathered with ⟨isReadable, _⟩ | ⟨_, text, isRefused⟩
    · exact absurd isReadable readable
    · rw [isRefused read]

def enterReference (evaluate : RuleEvaluator) (rules : ReferenceRules) (source : Source)
    (read : Reference → Option ω × Option String) (references : String → Option (Option ω))
    (entry : String × Reference) : String → Option (Option ω) :=
  (gatherReference evaluate rules source read { references } entry).references

section

variable (read : Reference → Option ω × Option String)

theorem foldl_references
    (order : List (String × Reference)) (gathered : Gathered ω) :
    (order.foldl (gatherReference evaluate rules source read) gathered).references =
      order.foldl (enterReference evaluate rules source read) gathered.references := by
  induction order generalizing gathered with
  | nil => rfl
  | cons entry _ ih =>
    have head : (gatherReference evaluate rules source read gathered entry).references =
        enterReference evaluate rules source read gathered.references entry := by
      have turn := @gatherReference_references ω evaluate rules source read entry
      unfold enterReference
      rcases turn with unchanged | ⟨value, entered⟩
      · rw [unchanged, unchanged]
      · rw [entered, entered]
    rw [List.foldl_cons, List.foldl_cons, ih, head]

private theorem enterReference_comm
    {first second : String × Reference} (different : first.1 ≠ second.1)
    (references : String → Option (Option ω)) :
    enterReference evaluate rules source read
        (enterReference evaluate rules source read references first) second =
      enterReference evaluate rules source read
        (enterReference evaluate rules source read references second) first := by
  unfold enterReference
  rcases @gatherReference_references ω evaluate rules source read first with
    firstLeaves | ⟨firstValue, firstEnters⟩ <;>
    rcases @gatherReference_references ω evaluate rules source read second with
      secondLeaves | ⟨secondValue, secondEnters⟩
  · simp only [firstLeaves, secondLeaves]
  · simp only [firstLeaves, secondEnters]
  · simp only [firstEnters, secondLeaves]
  · simp only [firstEnters, secondEnters]
    funext key
    by_cases isFirst : key = first.1
    · simp only [isFirst, different, if_true, if_false]
    · simp only [isFirst, if_false]

private theorem gatherReferences_perm
    {order other : List (String × Reference)} (reordered : order.Perm other)
    (distinct : (order.map Prod.fst).Nodup) :
    (gatherReferences evaluate rules source read order).references =
      (gatherReferences evaluate rules source read other).references := by
  unfold gatherReferences
  rw [foldl_references, foldl_references]
  apply reordered.foldl_eq'
  intro first isFirst second isSecond references
  by_cases same : first.1 = second.1
  · rw [List.inj_on_of_nodup_map distinct isFirst isSecond same]
  · exact (enterReference_comm read same references)

end

end Turn

section Rules

variable {evaluate : RuleEvaluator} {valid : String → Prop} {rules : ReferenceRules}
  {data : EvaluationData} {before after : List String} {rule : String}

theorem Readable.add_allow (monotone : MonotoneMatching evaluate valid) (isValid : valid rule)
    (isList : rules.allowlist = before ++ after) (readable : Readable evaluate rules data) :
    Readable evaluate { rules with allowlist := before ++ rule :: after } data := by
  obtain ⟨denied, allowed, isDenied, isAllowed, either⟩ := readable
  rw [isList] at isAllowed
  rcases monotone before rule after data isValid with same | ⟨_, matched⟩
  · exact ⟨denied, allowed, isDenied, same.trans isAllowed, either⟩
  · exact ⟨denied, true, isDenied, matched, .inl rfl⟩

theorem Readable.of_add_deny (monotone : MonotoneMatching evaluate valid) (isValid : valid rule)
    (isList : rules.denylist = before ++ after)
    (readable : Readable evaluate { rules with denylist := before ++ rule :: after } data) :
    Readable evaluate rules data := by
  obtain ⟨denied, allowed, isDenied, isAllowed, either⟩ := readable
  rcases monotone before rule after data isValid with same | ⟨notMatched, _⟩
  · exact ⟨denied, allowed, isList ▸ same.symm.trans isDenied, isAllowed, either⟩
  · exact ⟨false, allowed, isList ▸ notMatched, isAllowed, .inr rfl⟩

end Rules

/-- The clusters have the same Template and Hardware and differ only in objects to which
every reference of the Hardware is refused. -/
structure DifferInRefused {ω : Type} (evaluate : RuleEvaluator) (toLower : String → String)
    (rules : ReferenceRules) (stored : Workflow) (cluster other : TemplateCluster ω) : Prop where
  template : other.template = cluster.template
  hardware : other.hardware = cluster.hardware
  objects : ∀ tpl hardware, cluster.reached stored = some (tpl, hardware) →
    ∀ entry ∈ hardware.references.entries,
      other.objects (sanitizedKey toLower entry.2) ≠
        cluster.objects (sanitizedKey toLower entry.2) →
      ¬Readable evaluate rules ⟨hardware.source, entry.2⟩

section Rendering

variable {ω : Type} {evaluate : RuleEvaluator} {toLower : String → String}
  {renderer : Renderer ω} {iteration : Iteration} {rules : ReferenceRules} {replies : Replies}
  {cluster other : TemplateCluster ω} {stored : Workflow}

private theorem mem_reads_processReferences (rf : Reference) :
    rf ∈ (processReferences evaluate toLower renderer iteration rules replies cluster
        stored).reads ↔
      ∃ tpl hardware, cluster.reached stored = some (tpl, hardware) ∧
        ∃ entry ∈ hardware.references.entries, rf = entry.2 ∧
          Readable evaluate rules ⟨hardware.source, entry.2⟩ := by
  unfold processReferences
  cases reached : cluster.reached stored with
  | none => simp
  | some found =>
    obtain ⟨_, hardware⟩ := found
    unfold TemplateCluster.gathered
    rw [mem_reads_gatherReferences]
    simp [(iteration.isOrder hardware.references).mem_iff]

private theorem reached_congr (same : DifferInRefused evaluate toLower rules stored cluster other) :
    other.reached stored = cluster.reached stored := by
  unfold TemplateCluster.reached
  rw [same.template, same.hardware]

private theorem gathered_congr (same : DifferInRefused evaluate toLower rules stored cluster other)
    {tpl : String} {hardware : ReferencedHardware}
    (reached : cluster.reached stored = some (tpl, hardware)) (iteration : Iteration) :
    other.gathered evaluate toLower iteration rules hardware =
      cluster.gathered evaluate toLower iteration rules hardware := by
  apply foldl_gatherReference_congr
  intro entry member readable
  have isEntry := (iteration.isOrder hardware.references).mem_iff.mp member
  have sameObject : other.objects (sanitizedKey toLower entry.2) =
      cluster.objects (sanitizedKey toLower entry.2) := by
    by_contra differ
    exact same.objects tpl hardware reached entry isEntry differ readable
  unfold dynamicRead
  rw [sameObject]

private theorem gathered_iteration (hardware : ReferencedHardware) (otherIteration : Iteration) :
    (cluster.gathered evaluate toLower otherIteration rules hardware).references =
      (cluster.gathered evaluate toLower iteration rules hardware).references := by
  have isOrder := iteration.isOrder hardware.references
  have reordered := (otherIteration.isOrder hardware.references).trans isOrder.symm
  apply gatherReferences_perm _ reordered
  have distinct := hardware.references.distinct
  exact ((otherIteration.isOrder hardware.references).map Prod.fst).nodup_iff.mpr distinct

theorem processReferences_congr
    (same : DifferInRefused evaluate toLower rules stored cluster other) :
    processReferences evaluate toLower renderer iteration rules replies other stored =
      processReferences evaluate toLower renderer iteration rules replies cluster stored := by
  unfold processReferences
  rw [reached_congr same, same.template, same.hardware]
  cases reached : cluster.reached stored with
  | none => rfl
  | some =>
    simp only [gathered_congr same reached]

private theorem rendered_iteration (otherIteration : Iteration) :
    (processReferences evaluate toLower renderer otherIteration rules replies cluster
        stored).rendered =
      (processReferences evaluate toLower renderer iteration rules replies cluster
        stored).rendered := by
  unfold processReferences
  cases reached : cluster.reached stored with
  | none => rfl
  | some found =>
    obtain ⟨_, hardware⟩ := found
    have sameData := @gathered_iteration ω evaluate toLower iteration rules cluster hardware
      otherIteration
    unfold renderTemplateHardware
    simp only [sameData]

end Rendering

/-- The rules gate the references of a Hardware: one is read only if both lists evaluate
without error and it is allowed or not denied; a valid allow rule takes none away and a
valid deny rule adds none; and the rendered workflow is the same in every cluster that
differs in refused objects only. -/
theorem references_are_gated {ω : Type} {evaluate : RuleEvaluator} {valid : String → Prop}
    (monotone : MonotoneMatching evaluate valid) (toLower : String → String)
    (renderer : Renderer ω) (iteration : Iteration) (rules : ReferenceRules) (replies : Replies)
    (cluster : TemplateCluster ω) (stored : Workflow) :
    (∀ rf ∈ (processReferences evaluate toLower renderer iteration rules replies cluster
        stored).reads,
      ∃ tpl hardware, cluster.reached stored = some (tpl, hardware) ∧
        Readable evaluate rules ⟨hardware.source, rf⟩) ∧
      (∀ before rule after, valid rule → rules.allowlist = before ++ after →
        ∀ rf ∈ (processReferences evaluate toLower renderer iteration rules replies cluster
            stored).reads,
          rf ∈ (processReferences evaluate toLower renderer iteration
            { rules with allowlist := before ++ rule :: after } replies cluster stored).reads) ∧
      (∀ before rule after, valid rule → rules.denylist = before ++ after →
        ∀ rf ∈ (processReferences evaluate toLower renderer iteration
            { rules with denylist := before ++ rule :: after } replies cluster stored).reads,
          rf ∈ (processReferences evaluate toLower renderer iteration rules replies cluster
            stored).reads) ∧
      ∀ other otherIteration, DifferInRefused evaluate toLower rules stored cluster other →
        (processReferences evaluate toLower renderer otherIteration rules replies other
            stored).rendered =
          (processReferences evaluate toLower renderer iteration rules replies cluster
            stored).rendered ∧
        processReferences evaluate toLower renderer iteration rules replies other stored =
          processReferences evaluate toLower renderer iteration rules replies cluster stored := by
  simp only [mem_reads_processReferences]
  refine ⟨?_, ?_, ?_, ?_⟩
  · rintro rf ⟨tpl, hardware, reached, entry, _, rfl, readable⟩
    exact ⟨tpl, hardware, reached, readable⟩
  · rintro before rule after isValid isList rf
      ⟨tpl, hardware, reached, entry, member, isRf, readable⟩
    exact ⟨tpl, hardware, reached, entry, member, isRf, readable.add_allow monotone isValid isList⟩
  · rintro before rule after isValid isList rf
      ⟨tpl, hardware, reached, entry, member, isRf, readable⟩
    exact ⟨tpl, hardware, reached, entry, member, isRf,
      readable.of_add_deny monotone isValid isList⟩
  · intro other otherIteration same
    refine ⟨?_, processReferences_congr same⟩
    rw [processReferences_congr same]
    exact rendered_iteration otherIteration

def matchResource : RuleEvaluator := fun rules data =>
  if rules.any (· = "") then .error "error adding matching pattern"
  else .ok (rules.any fun rule => rule = "*" || rule = data.reference.resource)

theorem monotoneMatching_matchResource : MonotoneMatching matchResource (· ≠ "") := by
  intro before rule after data isValid
  unfold matchResource
  simp only [List.any_append, List.any_cons, isValid, decide_false, Bool.false_or]
  cases before.any (· = "") || after.any (· = "") with
  | true => exact .inl rfl
  | false =>
    -- The new rule tells only when no other one matches.
    cases isMatch : (before ++ after).any fun rule =>
        rule = "*" || rule = data.reference.resource with
    | true =>
      rw [List.any_append] at isMatch
      simp only [Bool.or_left_comm _ (decide _ || decide _), isMatch, Bool.or_true]
      exact .inl trivial
    | false =>
      rw [List.any_append] at isMatch
      simp only [Bool.or_left_comm _ (decide _ || decide _), isMatch, Bool.or_false]
      cases (rule = "*" || rule = data.reference.resource : Bool) with
      | false => exact .inl rfl
      | true => exact .inr ⟨rfl, rfl⟩

def referencing : ReferencedHardware where
  hardware := { name := "machine", «namespace» := "tink" }
  references :=
    (KeyedMap.empty.set "lvm" { name := "lvm", version := "v1", resource := "configmaps" }).set
      "key" { name := "key", version := "v1", resource := "secrets" }

def unansweredReplies : Replies where
  now := 0
  template := .error (.other "")
  templateHardware := .error (.other "")
  referenceError := none
  hardwareData := ""
  decoded := .error ""
  imageError := fun _ => none
  ids := ⟨fun _ => "", fun _ _ => ""⟩
  toggleHardware := .error ""
  attempt := fun _ => ⟨.error "", .conflict⟩
  bootHardware := .error ""
  render := fun _ _ => .error ""
  deleteTasks := .done
  deleteJob := .done
  getJobError := none
  jobHardware := .error ""
  createJob := .done
  newUID := ""

/-- With everything denied and ConfigMaps allowed, the ConfigMap alone is read. -/
theorem references_are_gated_configMap :
    MonotoneMatching matchResource (· ≠ "") ∧
      (processReferences matchResource id ⟨fun _ _ _ => .error "no template", fun _ => ""⟩
          ⟨KeyedMap.entries, fun _ => .refl _⟩ ⟨["*"], ["configmaps"]⟩ unansweredReplies
          ⟨.ok "", .ok referencing, fun _ => .ok "object"⟩
          { name := "wf", «namespace» := "tink", spec := { hardwareRef := "machine" } }).reads =
        [{ name := "lvm", version := "v1", resource := "configmaps" }] ∧
      ∀ rf ∈ (processReferences matchResource id
          ⟨fun _ _ _ => .error "no template", fun _ => ""⟩
          ⟨KeyedMap.entries, fun _ => .refl _⟩ ⟨["*"], ["configmaps"]⟩ unansweredReplies
          ⟨.ok "", .ok referencing, fun _ => .ok "object"⟩
          { name := "wf", «namespace» := "tink", spec := { hardwareRef := "machine" } }).reads,
        ∃ tpl hardware, TemplateCluster.reached
            (⟨.ok "", .ok referencing, fun _ => .ok "object"⟩ : TemplateCluster String)
            { name := "wf", «namespace» := "tink", spec := { hardwareRef := "machine" } } =
              some (tpl, hardware) ∧
          Readable matchResource ⟨["*"], ["configmaps"]⟩ ⟨hardware.source, rf⟩ :=
  ⟨monotoneMatching_matchResource, by decide +kernel,
    (references_are_gated monotoneMatching_matchResource id _ _ _ _ _ _).1⟩

end Tinkerbell.Controller
