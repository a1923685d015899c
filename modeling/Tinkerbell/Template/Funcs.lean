import Tinkerbell.Library.AddressText
import Tinkerbell.Library.NetMask
import Tinkerbell.Template.Validator

/-!
Owns: rendering a workflow template into a workflow, with the template function
that turns a netmask into the length of its prefix.

A template is given by the nodes its execution visits, in order: the template
language's control flow and the other template functions decide which nodes those
are, what they convert on the way and what they write, and all of that is arbitrary
here. YAML decoding and the image
reference parser are third-party packages and are parameters.
-/

namespace Tinkerbell.Template

def netmaskToPrefixLength (netmask : String) : Except String String :=
  match NetAddress.parseIP netmask with
  | none => .error ("invalid netmask format: " ++ netmask)
  | some ip =>
    match NetAddress.to4 ip with
    | none => .error ("netmask must be IPv4: " ++ netmask)
    | some ipv4 =>
      let (ones, _) := NetMask.size ipv4
      .ok (toString ones)

def maxRenderBytes : Nat := 256 * 1024

/-- What an action of a template does: it writes its text or fails, or it converts a
netmask and goes on with the result, which may be an argument of other functions. -/
inductive Node where
  | done (outcome : Except String String)
  | netmaskToPrefixLength (location netmask : String) (next : String → Node)

def Node.evaluate : Node → Except String String
  | .done outcome => outcome
  | .netmaskToPrefixLength location netmask next =>
    match Template.netmaskToPrefixLength netmask with
    | .error err => .error (location ++ ": error calling netmaskToPrefixLength: " ++ err)
    | .ok text => (next text).evaluate

/-- The netmasks that the action comes to convert. -/
def Node.converted : Node → List String
  | .done _ => []
  | .netmaskToPrefixLength _ netmask next =>
    netmask :: match Template.netmaskToPrefixLength netmask with
      | .error _ => []
      | .ok text => (next text).converted

/-- An action that only converts a netmask. -/
def Node.convert (netmask : String) : Node :=
  .netmaskToPrefixLength "" netmask fun text => .done (.ok text)

def limitedWrite (limit : Nat) (buffer text : String) : Except String String :=
  if limit < buffer.utf8ByteSize + text.utf8ByteSize then
    .error ("rendered template exceeds " ++ toString limit ++ " bytes")
  else .ok (buffer ++ text)

def execute (limit : Nat) : String → List Node → Except String String
  | buffer, [] => .ok buffer
  | buffer, node :: rest => do
      let text ← node.evaluate
      let buffer ← limitedWrite limit buffer text
      execute limit buffer rest

def renderTemplate (template : Except String (List Node)) : Except String String := do
  let nodes ← template
  execute maxRenderBytes "" nodes

section Hardware

variable (unmarshal : String → Except String Workflow) (imageError : String → Option String)

def parse (yamlContent : String) : Except String Workflow :=
  match unmarshal yamlContent with
  | .error err => .error ("parsing yaml data: err: " ++ err ++ ", content: " ++ yamlContent)
  | .ok workflow =>
    match validate imageError workflow with
    | some err => .error ("validating workflow template: " ++ err)
    | none => .ok workflow

def errTemplateParsing (templateID : String) : String :=
  "failed to parse template with ID " ++ templateID

def renderTemplateHardware (templateID hardware : String)
    (template : Except String (List Node)) : Except String Workflow :=
  match renderTemplate template with
  | .error err => .error (errTemplateParsing templateID ++ ": err: " ++ err)
  | .ok rendered => do
      let wf ← parse unmarshal imageError rendered
      if wf.tasks.any fun task => task.workerAddr = "" then
        .error ("failed to render template, empty hardware address (" ++ hardware ++ ")")
      else .ok wf

end Hardware

/-- The text is an IPv4 address of so many ones and then zeros. -/
def DenotesPrefix (netmask : String) (ones : Nat) : Prop :=
  ∃ ipv4, (NetAddress.parseIP netmask).bind NetAddress.to4 = some ipv4 ∧ ones ≤ 32 ∧
    NetMask.bits ipv4 = List.replicate ones true ++ List.replicate (32 - ones) false

/-- An error, or the prefix that the netmask denotes. -/
def NeverInvents (netmask : String) : Prop :=
  (∃ err, netmaskToPrefixLength netmask = .error err) ∨
    ∃ ones, netmaskToPrefixLength netmask = .ok (toString ones) ∧ DenotesPrefix netmask ones

def LeadingOnes (netmask : String) : Prop :=
  ∀ ipv4, (NetAddress.parseIP netmask).bind NetAddress.to4 = some ipv4 →
    NetMask.OnesFirst (NetMask.bits ipv4)

/-- The text of an action whose netmasks are all converted to the prefix they denote. -/
def RightText : Node → String → Prop
  | .done outcome, text => outcome = .ok text
  | .netmaskToPrefixLength _ netmask next, text =>
    ∃ ones, DenotesPrefix netmask ones ∧ RightText (next (toString ones)) text

def RightlyRendered (nodes : List Node) (rendered : String) : Prop :=
  ∃ texts, List.Forall₂ RightText nodes texts ∧ rendered = String.join texts

variable {netmask : String}

variable {ipv4 : List UInt8} {nodes : List Node} {rendered text : String} {node : Node}

theorem netmaskToPrefixLength_of_to4
    (isShort : (NetAddress.parseIP netmask).bind NetAddress.to4 = some ipv4) :
    netmaskToPrefixLength netmask = .ok (toString (NetMask.size ipv4).1) := by
  obtain ⟨_, isParsed, isIpv4⟩ := Option.bind_eq_some_iff.mp isShort
  simp only [netmaskToPrefixLength, isParsed, isIpv4]

private theorem netmaskToPrefixLength_of_no_to4
    (noShort : (NetAddress.parseIP netmask).bind NetAddress.to4 = none) :
    ∃ err, netmaskToPrefixLength netmask = .error err := by
  cases isParsed : NetAddress.parseIP netmask with
  | none =>
    simp only [netmaskToPrefixLength, isParsed]
    exact ⟨_, rfl⟩
  | some =>
    rw [isParsed, Option.bind_some] at noShort
    simp only [netmaskToPrefixLength, isParsed, noShort]
    exact ⟨_, rfl⟩

theorem denotesPrefix_size (isShort : (NetAddress.parseIP netmask).bind NetAddress.to4 = some ipv4)
    (onesFirst : NetMask.OnesFirst (NetMask.bits ipv4)) :
    DenotesPrefix netmask (NetMask.size ipv4).1 := by
  obtain ⟨ip, -, isIpv4⟩ := Option.bind_eq_some_iff.mp isShort
  have isLength : 8 * ipv4.length = 32 := by
    obtain ⟨_, _, _, _, rfl⟩ := NetAddress.to4_length isIpv4
    rfl
  have found := NetMask.bits_of_size onesFirst
  rw [isLength] at found
  exact ⟨ipv4, isShort, found⟩

theorem leadingOnes_of_denotesPrefix {ones : Nat} (denotes : DenotesPrefix netmask ones) :
    LeadingOnes netmask := by
  intro ipv4 isShort
  obtain ⟨_, sameShort, bounded, isBits⟩ := denotes
  cases isShort.symm.trans sameShort
  refine (NetMask.onesFirst_iff _).mpr ⟨ones, ?_⟩
  have isLength : (NetMask.bits ipv4).length = 32 := by
    rw [isBits, List.length_append, List.length_replicate, List.length_replicate]
    omega
  rw [isLength]
  exact ⟨bounded, isBits⟩

theorem neverInvents_iff (netmask : String) : NeverInvents netmask ↔ LeadingOnes netmask := by
  constructor
  · intro never ipv4 isShort
    have isOk := netmaskToPrefixLength_of_to4 isShort
    cases never with
    | inl failed =>
      obtain ⟨_, isError⟩ := failed
      cases isError.symm.trans isOk
    | inr denoted =>
      obtain ⟨ones, -, denotes⟩ := denoted
      exact leadingOnes_of_denotesPrefix denotes ipv4 isShort
  · intro leadingOnes
    cases isShort : (NetAddress.parseIP netmask).bind NetAddress.to4 with
    | none => exact Or.inl (netmaskToPrefixLength_of_no_to4 isShort)
    | some ipv4 =>
      refine Or.inr ⟨(NetMask.size ipv4).1, netmaskToPrefixLength_of_to4 isShort, ?_⟩
      exact denotesPrefix_size isShort (leadingOnes ipv4 isShort)

private theorem execute_ok {limit : Nat} {buffer : String}
    (isOk : execute limit buffer nodes = .ok rendered) :
    ∃ texts, List.Forall₂ (fun node text => Node.evaluate node = .ok text) nodes texts ∧
      rendered = buffer ++ String.join texts := by
  induction nodes generalizing buffer with
  | nil =>
    cases isOk
    exact ⟨[], List.Forall₂.nil, by simp [String.join]⟩
  | cons node _ ih =>
    rw [execute] at isOk
    cases isText : node.evaluate with
    | error =>
      rw [isText] at isOk
      cases isOk
    | ok text =>
      simp only [isText, bind, Except.bind, limitedWrite] at isOk
      split at isOk
      · cases isOk
      · next _ isWritten =>
        split at isWritten
        · cases isWritten
        · cases isWritten
          obtain ⟨texts, evaluated, isRendered⟩ := ih isOk
          refine ⟨text :: texts, List.Forall₂.cons isText evaluated, ?_⟩
          rw [isRendered, String.join_cons, String.append_assoc]

private theorem netmaskToPrefixLength_of_denotesPrefix {ones : Nat}
    (denotes : DenotesPrefix netmask ones) :
    netmaskToPrefixLength netmask = .ok (toString ones) := by
  have leadingOnes := leadingOnes_of_denotesPrefix denotes
  obtain ⟨ipv4, isShort, -, isBits⟩ := denotes
  obtain ⟨sameIpv4, sameShort, -, sameBits⟩ :=
    denotesPrefix_size isShort (leadingOnes ipv4 isShort)
  cases isShort.symm.trans sameShort
  have isCount := congrArg (List.count true) (sameBits.symm.trans isBits)
  simp only [List.count_append, List.count_replicate_self, List.count_replicate, beq_iff_eq,
    Bool.false_eq_true, if_false, Nat.add_zero] at isCount
  rw [netmaskToPrefixLength_of_to4 isShort, isCount]

private theorem leadingOnes_of_rightText (right : RightText node text) :
    ∀ netmask ∈ node.converted, LeadingOnes netmask := by
  induction node with
  | done => simp [Node.converted]
  | netmaskToPrefixLength _ _ _ ih =>
    obtain ⟨_, denotes, later⟩ := right
    rw [Node.converted, netmaskToPrefixLength_of_denotesPrefix denotes, List.forall_mem_cons]
    exact ⟨leadingOnes_of_denotesPrefix denotes, ih _ later⟩

private theorem rightText_of_leadingOnes (isText : node.evaluate = .ok text)
    (leadingOnes : ∀ netmask ∈ node.converted, LeadingOnes netmask) :
    RightText node text := by
  induction node with
  | done => exact isText
  | netmaskToPrefixLength _ netmask _ ih =>
    rw [Node.converted, List.forall_mem_cons] at leadingOnes
    obtain ⟨first, later⟩ := leadingOnes
    rw [Node.evaluate] at isText
    rcases (neverInvents_iff netmask).mpr first with ⟨err, isError⟩ | ⟨ones, isOk, denotes⟩
    · rw [isError] at isText
      cases isText
    · rw [isOk] at isText later
      exact ⟨ones, denotes, ih _ isText later⟩

private theorem rightlyRendered_iff (isRendered : renderTemplate (.ok nodes) = .ok rendered) :
    RightlyRendered nodes rendered ↔
      ∀ node ∈ nodes, ∀ netmask ∈ node.converted, LeadingOnes netmask := by
  constructor
  · rintro ⟨texts, right, -⟩
    have both := right.imp fun node text isRight =>
      And.intro (leadingOnes_of_rightText isRight) isRight
    exact ((List.forall₂_and_left nodes texts).mp both).1
  · intro leadingOnes
    obtain ⟨texts, evaluated, isJoin⟩ := execute_ok isRendered
    have both := (List.forall₂_and_left nodes texts).mpr ⟨leadingOnes, evaluated⟩
    refine ⟨texts, ?_, by rw [isJoin, String.empty_append]⟩
    exact both.imp fun node text parts => rightText_of_leadingOnes parts.2 parts.1

private theorem renderTemplateHardware_ok {unmarshal : String → Except String Workflow}
    {imageError : String → Option String} {templateID hardware : String}
    {template : Except String (List Node)} {wf : Workflow}
    (isOk : renderTemplateHardware unmarshal imageError templateID hardware template = .ok wf) :
    ∃ rendered, renderTemplate template = .ok rendered ∧ unmarshal rendered = .ok wf := by
  rw [renderTemplateHardware] at isOk
  split at isOk
  · cases isOk
  · next rendered isRendered =>
    refine ⟨rendered, isRendered, ?_⟩
    rw [parse] at isOk
    cases isDecoded : unmarshal rendered with
    | error =>
      rw [isDecoded] at isOk
      cases isOk
    | ok workflow =>
      simp only [isDecoded] at isOk
      cases isValid : validate imageError workflow with
      | some =>
        rw [isValid] at isOk
        cases isOk
      | none =>
        simp only [isValid, bind, Except.bind] at isOk
        split at isOk
        · cases isOk
        · exact isOk

/-- The conversion keeps to the netmask exactly if no set bit of it stands behind a clear one,
and a workflow comes from a rightly rendered template exactly if that holds of every netmask
the template used. -/
theorem netmask_conversion_keeps_to_the_netmask_iff (netmask : String) :
    (NeverInvents netmask ↔ LeadingOnes netmask) ∧
      ∀ unmarshal imageError templateID hardware nodes wf,
        renderTemplateHardware unmarshal imageError templateID hardware (.ok nodes) = .ok wf →
        ((∃ rendered, renderTemplate (.ok nodes) = .ok rendered ∧ unmarshal rendered = .ok wf ∧
            RightlyRendered nodes rendered) ↔
          ∀ node ∈ nodes, ∀ netmask ∈ node.converted, LeadingOnes netmask) := by
  refine ⟨neverInvents_iff netmask, ?_⟩
  intro unmarshal imageError templateID hardware nodes wf isOk
  obtain ⟨rendered, isRendered, isDecoded⟩ := renderTemplateHardware_ok isOk
  rw [← rightlyRendered_iff isRendered]
  constructor
  · rintro ⟨same, isSame, -, right⟩
    cases isRendered.symm.trans isSame
    exact right
  · intro right
    exact ⟨rendered, isRendered, isDecoded, right⟩

/-- The prefix is written behind an address. -/
theorem netmask_conversion_keeps_to_the_netmask_iff_plain :
    let address : Node :=
      .netmaskToPrefixLength "" "255.255.240.0" fun text => .done (.ok ("10.0.0.1/" ++ text))
    renderTemplateHardware
        (fun name => .ok ⟨"", name, "", 0, [⟨"task", "mac", [], [], KeyedMap.empty⟩]⟩)
        (fun _ => none) "id" "" (.ok [address]) =
      .ok ⟨"", "10.0.0.1/20", "", 0, [⟨"task", "mac", [], [], KeyedMap.empty⟩]⟩ ∧
    ∃ rendered, RightlyRendered [address] rendered := by
  intro address
  have isOk : renderTemplateHardware
      (fun name => .ok ⟨"", name, "", 0, [⟨"task", "mac", [], [], KeyedMap.empty⟩]⟩)
      (fun _ => none) "id" "" (.ok [address]) =
        .ok ⟨"", "10.0.0.1/20", "", 0, [⟨"task", "mac", [], [], KeyedMap.empty⟩]⟩ := by
    decide +kernel
  have isConverted : address.converted = ["255.255.240.0"] := by decide +kernel
  have isAddress : (NetAddress.parseIP "255.255.240.0").bind NetAddress.to4 =
      some [255, 255, 240, 0] := by
    decide +kernel
  refine ⟨isOk, ?_⟩
  obtain ⟨rendered, -, -, right⟩ :=
    ((netmask_conversion_keeps_to_the_netmask_iff "255.255.240.0").2 _ _ _ _ _ _ isOk).mpr (by
      intro node isNode netmask member ipv4 isShort
      cases List.mem_singleton.mp isNode
      rw [isConverted] at member
      cases List.mem_singleton.mp member
      cases isAddress.symm.trans isShort
      decide)
  exact ⟨rendered, right⟩

/-- A netmask with scattered bits becomes the prefix of length zero. -/
theorem scattered_netmask_invents_prefix :
    netmaskToPrefixLength "255.0.255.0" = .ok "0" ∧ ¬ NeverInvents "255.0.255.0" ∧
      renderTemplate (.ok [.convert "255.0.255.0"]) = .ok "0" := by
  refine ⟨by decide +kernel, ?_, by decide +kernel⟩
  rw [neverInvents_iff]
  intro leadingOnes
  have isAddress : (NetAddress.parseIP "255.0.255.0").bind NetAddress.to4 =
      some [255, 0, 255, 0] := by
    decide +kernel
  have onesFirst := leadingOnes _ isAddress
  revert onesFirst
  decide

end Tinkerbell.Template
