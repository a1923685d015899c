import Mathlib.Data.List.Basic
import Tinkerbell.Api.Hardware

/-!
Owns: the two implementations of `FilterHardware`, the list options of the
Kubernetes backend and the predicate of the file backend, and exactly when
they give the answer of all selectors together.

The client of the Kubernetes backend is third party: an option with a field
selector replaces the one before it, and an index returns the objects whose
extracted values contain the key. `fold` is the case folding that
`strings.EqualFold` goes by and `quote` is the `%q` of error texts.

Does not own: watching the file, decoding it, and the cache behind the client.
-/

namespace Tinkerbell.Backend

open Api

structure HardwareFilter where
  (inNamespace byName byAgentID byMACAddress byIPAddress byInstanceID : String := "")

inductive FilterError where
  | notFound (text : String)
  | multipleFound (text : String)
deriving DecidableEq

/-- What callers tell apart: one object, none, or several. -/
inductive Found (α : Type) where
  | none
  | one (object : α)
  | several
deriving DecidableEq

def found {α : Type} : List α → Found α
  | [] => .none
  | [object] => .one object
  | _ :: _ :: _ => .several

def kind {α : Type} : Except FilterError α → Found α
  | .error (.notFound _) => .none
  | .error (.multipleFound _) => .several
  | .ok object => .one object

def single {α : Type} (notFound : String) (multipleFound : Nat → String) :
    List α → Except FilterError α
  | [] => .error (.notFound notFound)
  | [object] => .ok object
  | first :: second :: rest =>
    .error (.multipleFound (multipleFound (first :: second :: rest).length))

variable {α : Type} {hw : Hardware} {key : String} {opts : HardwareFilter}

theorem kind_single (notFound : String) (multipleFound : Nat → String) (objects : List α) :
    kind (single notFound multipleFound objects) = found objects := by
  cases objects with
  | nil => rfl
  | cons _ rest => cases rest <;> rfl

inductive HardwareIndex where
  | agentID
  | name
  | ipAddr
  | macAddr
  | instanceID

def getMACs (hw : Hardware) : List String :=
  hw.spec.interfaces.filterMap fun interface =>
    interface.dhcp.bind fun dhcp => if dhcp.mac ≠ "" then some dhcp.mac else none

def getIPs (hw : Hardware) : List String :=
  hw.spec.interfaces.filterMap fun interface =>
    interface.dhcp.bind fun dhcp => dhcp.ip.bind fun ip =>
      if ip.address ≠ "" then some ip.address else none

def hardwareName (hw : Hardware) : List String := [hw.name]

def hardwareAgentID (hw : Hardware) : List String :=
  if hw.spec.agentID = "" then [] else [hw.spec.agentID]

def instanceID (hw : Hardware) : List String :=
  match hw.spec.metadata.bind HardwareMetadata.instance with
  | some given => if given.id = "" then [] else [given.id]
  | none => []

def HardwareIndex.extract : HardwareIndex → Hardware → List String
  | .agentID => hardwareAgentID
  | .name => hardwareName
  | .ipAddr => getIPs
  | .macAddr => getMACs
  | .instanceID => Backend.instanceID

inductive ListOption where
  | inNamespace (name : String)
  | matchingFields (index : HardwareIndex) (key : String)

def whenSet {α : Type} (value : String) (option : String → α) : List α :=
  if value ≠ "" then [option value] else []

def hardwareListOptions (opts : HardwareFilter) : List ListOption :=
  whenSet opts.inNamespace .inNamespace ++
  whenSet opts.byAgentID (.matchingFields .agentID) ++
  whenSet opts.byName (.matchingFields .name) ++
  whenSet opts.byIPAddress (.matchingFields .ipAddr) ++
  whenSet opts.byMACAddress (.matchingFields .macAddr) ++
  whenSet opts.byInstanceID (.matchingFields .instanceID)

/-- The options of a list call once all are applied. -/
structure ListOptions where
  «namespace» : String := ""
  fieldSelector : Option (HardwareIndex × String) := none

def applyToList (options : ListOptions) : ListOption → ListOptions
  | .inNamespace name => { options with «namespace» := name }
  | .matchingFields index key => { options with fieldSelector := some (index, key) }

def list (hardware : List Hardware) (options : ListOptions) : List Hardware :=
  hardware.filter fun hw =>
    (options.namespace = "" || hw.namespace = options.namespace) &&
      options.fieldSelector.all fun selector => selector.1.extract hw |>.contains selector.2

def filterQueryDesc (quote : String → String) (opts : HardwareFilter) : String :=
  let nsDesc := if opts.inNamespace = "" then "all namespaces" else opts.inNamespace
  String.join (("in " ++ nsDesc) ::
    (whenSet opts.byName (fun name => " with name " ++ quote name) ++
     whenSet opts.byAgentID (fun agentID => " with agentID " ++ quote agentID) ++
     whenSet opts.byMACAddress (fun mac => " with MAC " ++ quote mac) ++
     whenSet opts.byIPAddress (fun ip => " with IP " ++ quote ip) ++
     whenSet opts.byInstanceID (fun instanceID => " with instanceID " ++ quote instanceID)))

namespace Kube

def filterHardware (quote : String → String) (hardware : List Hardware) (opts : HardwareFilter) :
    Except FilterError Hardware :=
  let nsDesc := if opts.inNamespace = "" then "all namespaces" else opts.inNamespace
  single
    ("hardware not found: " ++ filterQueryDesc quote opts ++ ", namespace: " ++ nsDesc)
    (fun count => "found " ++ toString count ++ " hardware objects for " ++
      filterQueryDesc quote opts ++ ", namespace: " ++ nsDesc)
    (list hardware ((hardwareListOptions opts).foldl applyToList {}))

end Kube

def equalFold (fold : Char → Char) (left right : String) : Bool :=
  left.toList.map fold == right.toList.map fold

def hardwareHasMAC (fold : Char → Char) (hw : Hardware) (mac : String) : Bool :=
  hw.spec.interfaces.any fun interface =>
    interface.dhcp.any fun dhcp => equalFold fold dhcp.mac mac

def hardwareHasIP (hw : Hardware) (ip : String) : Bool :=
  hw.spec.interfaces.any fun interface =>
    interface.dhcp.any fun dhcp => dhcp.ip.any fun given => given.address = ip

def hasInstanceID (hw : Hardware) (id : String) : Bool :=
  (hw.spec.metadata.bind HardwareMetadata.instance).any fun given => given.id = id

def matchHardware (fold : Char → Char) (hw : Hardware) (opts : HardwareFilter) : Bool :=
  if opts.inNamespace ≠ "" ∧ hw.namespace ≠ opts.inNamespace then false
  else if opts.byName ≠ "" ∧ hw.name ≠ opts.byName then false
  else if opts.byAgentID ≠ "" ∧ hw.spec.agentID ≠ opts.byAgentID then false
  else if opts.byMACAddress ≠ "" ∧ !hardwareHasMAC fold hw opts.byMACAddress then false
  else if opts.byIPAddress ≠ "" ∧ !hardwareHasIP hw opts.byIPAddress then false
  else if opts.byInstanceID ≠ "" ∧ !hasInstanceID hw opts.byInstanceID then false
  else opts.byName ≠ "" ∨ opts.byAgentID ≠ "" ∨ opts.byMACAddress ≠ "" ∨
    opts.byIPAddress ≠ "" ∨ opts.byInstanceID ≠ ""

namespace File

def filterHardware (fold : Char → Char) (hardware : List Hardware) (opts : HardwareFilter) :
    Except FilterError Hardware :=
  single "no matching hardware found"
    (fun count => "found " ++ toString count ++ " hardware objects matching filter, expected 1")
    (hardware.filter (matchHardware fold · opts))

end File

def selectors (opts : HardwareFilter) : List (HardwareIndex × String) :=
  whenSet opts.byAgentID (.agentID, ·) ++ whenSet opts.byName (.name, ·) ++
  whenSet opts.byIPAddress (.ipAddr, ·) ++ whenSet opts.byMACAddress (.macAddr, ·) ++
  whenSet opts.byInstanceID (.instanceID, ·)

/-- The namespace, when one is given, is the one of the object. -/
def InScope (opts : HardwareFilter) (hw : Hardware) : Prop :=
  opts.inNamespace = "" ∨ hw.namespace = opts.inNamespace

instance (opts : HardwareFilter) (hw : Hardware) : Decidable (InScope opts hw) :=
  inferInstanceAs (Decidable (_ ∨ _))

def Meets (fold : Char → Char) (hw : Hardware) : HardwareIndex × String → Prop
  | (.macAddr, mac) => ∃ given ∈ getMACs hw, equalFold fold given mac = true
  | (index, key) => key ∈ index.extract hw

instance (fold : Char → Char) (hw : Hardware) (selector : HardwareIndex × String) :
    Decidable (Meets fold hw selector) := by
  unfold Meets
  split <;> infer_instance

/-- The object is in scope and meets every selector that is set. -/
def MeetsAll (fold : Char → Char) (opts : HardwareFilter) (hw : Hardware) : Prop :=
  InScope opts hw ∧ ∀ selector ∈ selectors opts, Meets fold hw selector

instance (fold : Char → Char) (opts : HardwareFilter) (hw : Hardware) :
    Decidable (MeetsAll fold opts hw) :=
  inferInstanceAs (Decidable (_ ∧ _))

def MeetsLast (opts : HardwareFilter) (hw : Hardware) : Prop :=
  InScope opts hw ∧
    ∀ selector ∈ (selectors opts).getLast?, selector.2 ∈ selector.1.extract hw

instance (opts : HardwareFilter) (hw : Hardware) : Decidable (MeetsLast opts hw) :=
  inferInstanceAs (Decidable (_ ∧ _))

theorem foldl_matchingFields (given : List (HardwareIndex × String)) (options : ListOptions) :
    (given.map fun selector => ListOption.matchingFields selector.1 selector.2).foldl
        applyToList options =
      { options with fieldSelector := given.getLast?.or options.fieldSelector } := by
  induction given generalizing options with
  | nil => rfl
  | cons _ rest ih =>
    rw [List.map_cons, List.foldl_cons, ih]
    cases isLast : rest.getLast? with
    | none =>
      rw [List.getLast?_eq_none_iff] at isLast
      subst isLast
      rfl
    | some =>
      rw [List.getLast?_cons, isLast]
      rfl

private theorem map_whenSet {β : Type} (value : String) (option : String → α) (change : α → β) :
    (whenSet value option).map change = whenSet value (change ∘ option) := by
  unfold whenSet
  split <;> rfl

private theorem hardwareListOptions_eq (opts : HardwareFilter) :
    hardwareListOptions opts = whenSet opts.inNamespace .inNamespace ++
      (selectors opts).map fun selector => .matchingFields selector.1 selector.2 := by
  simp only [hardwareListOptions, selectors, List.map_append, map_whenSet, List.append_assoc]
  rfl

private theorem listOptions_eq (opts : HardwareFilter) :
    (hardwareListOptions opts).foldl applyToList {} =
      ⟨opts.inNamespace, (selectors opts).getLast?⟩ := by
  rw [hardwareListOptions_eq, List.foldl_append, foldl_matchingFields]
  unfold whenSet
  split
  · simp [applyToList]
  · next unset => simp [not_not.mp unset]

theorem kind_kube (quote : String → String) (hardware : List Hardware) (opts : HardwareFilter) :
    kind (Kube.filterHardware quote hardware opts) =
      found (hardware.filter fun hw => decide (MeetsLast opts hw)) := by
  unfold Kube.filterHardware
  rw [kind_single, listOptions_eq]
  congr 1
  apply List.filter_congr
  intro hw _
  rw [Bool.eq_iff_iff, decide_eq_true_iff]
  unfold MeetsLast InScope
  cases (selectors opts).getLast? with
  | none | some last => simp

private theorem mem_whenSet {value : String} {option : String → α} {given : α} :
    given ∈ whenSet value option ↔ value ≠ "" ∧ given = option value := by
  unfold whenSet
  split
  · next isSet => simp [isSet]
  · next unset => simp [not_not.mp unset]

private theorem mem_hardwareAgentID (isSet : key ≠ "") :
    key ∈ hardwareAgentID hw ↔ hw.spec.agentID = key := by
  unfold hardwareAgentID
  split
  · next empty => simp [empty, isSet.symm]
  · simp [eq_comm]

theorem mem_instanceID (isSet : key ≠ "") : key ∈ instanceID hw ↔ hasInstanceID hw key = true := by
  unfold instanceID hasInstanceID
  cases hw.spec.metadata.bind HardwareMetadata.instance with
  | none => simp
  | some =>
    dsimp only
    split
    · next empty => simp [empty, isSet.symm]
    · simp [eq_comm]

theorem mem_getIPs (isSet : key ≠ "") : key ∈ getIPs hw ↔ hardwareHasIP hw key = true := by
  simp only [getIPs, hardwareHasIP, List.mem_filterMap, List.any_eq_true]
  apply exists_congr
  intro interface
  cases interface.dhcp with
  | none => simp
  | some dhcp =>
    simp only [Option.bind_some, Option.any_some]
    cases dhcp.ip with
    | none => simp
    | some ip => by_cases empty : ip.address = "" <;> simp [empty, isSet.symm]

variable (fold : Char → Char)

private theorem equalFold_empty (isSet : key ≠ "") : equalFold fold "" key = false := by
  simp [equalFold, isSet]

theorem exists_mem_getMACs (isSet : key ≠ "") :
    (∃ given ∈ getMACs hw, equalFold fold given key = true) ↔
      hardwareHasMAC fold hw key = true := by
  simp only [getMACs, hardwareHasMAC, List.mem_filterMap, List.any_eq_true]
  constructor
  · rintro ⟨given, ⟨interface, member, isGiven⟩, same⟩
    refine ⟨interface, member, ?_⟩
    cases isDhcp : interface.dhcp with
    | none => simp [isDhcp] at isGiven
    | some =>
      simp only [isDhcp, Option.bind_some] at isGiven
      split at isGiven
      · cases isGiven
        exact same
      · cases isGiven
  · rintro ⟨interface, member, isMatch⟩
    cases isDhcp : interface.dhcp with
    | none => simp [isDhcp] at isMatch
    | some dhcp =>
      simp only [isDhcp, Option.any_some] at isMatch
      refine ⟨dhcp.mac, ⟨interface, member, ?_⟩, isMatch⟩
      have given : dhcp.mac ≠ "" := by
        intro empty
        rw [empty, equalFold_empty fold isSet] at isMatch
        cases isMatch
      simp [isDhcp, given]

theorem forall_selectors {holds : HardwareIndex × String → Prop} :
    (∀ selector ∈ selectors opts, holds selector) ↔
      (opts.byAgentID ≠ "" → holds (.agentID, opts.byAgentID)) ∧
      (opts.byName ≠ "" → holds (.name, opts.byName)) ∧
      (opts.byIPAddress ≠ "" → holds (.ipAddr, opts.byIPAddress)) ∧
      (opts.byMACAddress ≠ "" → holds (.macAddr, opts.byMACAddress)) ∧
      (opts.byInstanceID ≠ "" → holds (.instanceID, opts.byInstanceID)) := by
  simp only [selectors, List.forall_mem_append, mem_whenSet, and_imp, forall_eq_apply_imp_iff,
    and_assoc]

private theorem selectors_eq_nil_iff :
    selectors opts = [] ↔ opts.byAgentID = "" ∧ opts.byName = "" ∧ opts.byIPAddress = "" ∧
      opts.byMACAddress = "" ∧ opts.byInstanceID = "" := by
  rw [List.eq_nil_iff_forall_not_mem]
  have none := @forall_selectors opts fun _ => False
  simpa only [ne_eq, imp_false, not_not] using none

private theorem isSelecting_iff :
    (opts.byName ≠ "" ∨ opts.byAgentID ≠ "" ∨ opts.byMACAddress ≠ "" ∨ opts.byIPAddress ≠ "" ∨
      opts.byInstanceID ≠ "") ↔ selectors opts ≠ [] := by
  rw [ne_eq (selectors opts), selectors_eq_nil_iff]
  tauto

theorem refuse_eq_true {refused : Prop} [Decidable refused] {rest : Bool} :
    (if refused then false else rest) = true ↔ ¬refused ∧ rest = true := by
  by_cases isRefused : refused <;> simp [isRefused]

theorem passes_iff {failed met : Prop} (isMet : key ≠ "" → (¬failed ↔ met)) :
    ¬(key ≠ "" ∧ failed) ↔ (key ≠ "" → met) := by
  rw [not_and]
  exact imp_congr_right isMet

theorem matchHardware_iff (opts : HardwareFilter) (hw : Hardware) :
    matchHardware fold hw opts = true ↔ MeetsAll fold opts hw ∧ selectors opts ≠ [] := by
  have scope : ¬(opts.inNamespace ≠ "" ∧ hw.namespace ≠ opts.inNamespace) ↔ InScope opts hw := by
    rw [not_and_or, not_not, not_not]
    rfl
  have name : ¬(opts.byName ≠ "" ∧ hw.name ≠ opts.byName) ↔
      (opts.byName ≠ "" → Meets fold hw (.name, opts.byName)) :=
    passes_iff fun _ => by simp [Meets, HardwareIndex.extract, hardwareName, eq_comm]
  have agentID : ¬(opts.byAgentID ≠ "" ∧ hw.spec.agentID ≠ opts.byAgentID) ↔
      (opts.byAgentID ≠ "" → Meets fold hw (.agentID, opts.byAgentID)) :=
    passes_iff fun isSet => by simp [Meets, HardwareIndex.extract, mem_hardwareAgentID isSet]
  have mac : ¬(opts.byMACAddress ≠ "" ∧ (!hardwareHasMAC fold hw opts.byMACAddress) = true) ↔
      (opts.byMACAddress ≠ "" → Meets fold hw (.macAddr, opts.byMACAddress)) :=
    passes_iff fun isSet => by simpa [Meets] using (exists_mem_getMACs fold isSet).symm
  have ip : ¬(opts.byIPAddress ≠ "" ∧ (!hardwareHasIP hw opts.byIPAddress) = true) ↔
      (opts.byIPAddress ≠ "" → Meets fold hw (.ipAddr, opts.byIPAddress)) :=
    passes_iff fun isSet => by simp [Meets, HardwareIndex.extract, mem_getIPs isSet]
  have instanceID : ¬(opts.byInstanceID ≠ "" ∧ (!hasInstanceID hw opts.byInstanceID) = true) ↔
      (opts.byInstanceID ≠ "" → Meets fold hw (.instanceID, opts.byInstanceID)) :=
    passes_iff fun isSet => by simp [Meets, HardwareIndex.extract, mem_instanceID isSet]
  unfold matchHardware MeetsAll
  rw [forall_selectors, refuse_eq_true, refuse_eq_true, refuse_eq_true, refuse_eq_true,
    refuse_eq_true, refuse_eq_true, decide_eq_true_iff, scope, name, agentID, mac, ip, instanceID,
    isSelecting_iff]
  constructor
  · rintro ⟨inScope, byName, byAgentID, byMAC, byIP, byInstanceID, some⟩
    exact ⟨⟨inScope, byAgentID, byName, byIP, byMAC, byInstanceID⟩, some⟩
  · rintro ⟨⟨inScope, byAgentID, byName, byIP, byMAC, byInstanceID⟩, some⟩
    exact ⟨inScope, byName, byAgentID, byMAC, byIP, byInstanceID, some⟩

theorem kind_file (hardware : List Hardware) (selects : selectors opts ≠ []) :
    kind (File.filterHardware fold hardware opts) =
      found (hardware.filter fun hw => decide (MeetsAll fold opts hw)) := by
  unfold File.filterHardware
  rw [kind_single]
  congr 1
  apply List.filter_congr
  intro hw _
  rw [Bool.eq_iff_iff, matchHardware_iff, decide_eq_true_iff, and_iff_left selects]

theorem found_of_two_le {objects : List α} (several : 2 ≤ objects.length) :
    found objects = .several := by
  cases objects with
  | nil => cases several
  | cons _ rest =>
    cases rest with
    | nil => exact absurd several (by simp)
    | cons => rfl

theorem eq_of_found_eq {left right : List α} (same : found left = found right)
    (few : left.length < 2) : left = right := by
  cases left with
  | nil =>
    cases right with
    | nil => rfl
    | cons _ rest => cases rest <;> cases same
  | cons _ rest =>
    rw [List.length_cons] at few
    obtain rfl : rest = [] := List.length_eq_zero_iff.mp (by omega)
    cases right with
    | nil => cases same
    | cons _ others =>
      cases others with
      | nil =>
        cases same
        rfl
      | cons => cases same

/-- Two filters of one list give the same answer exactly when they agree on every
object of it or each lets at least two through. -/
theorem found_filter_eq_iff {left right : α → Bool} {objects : List α} :
    found (objects.filter left) = found (objects.filter right) ↔
      (∀ object ∈ objects, left object = right object) ∨
        (2 ≤ objects.countP left ∧ 2 ≤ objects.countP right) := by
  rw [List.countP_eq_length_filter, List.countP_eq_length_filter]
  constructor
  · intro same
    by_cases several : 2 ≤ (objects.filter left).length ∧ 2 ≤ (objects.filter right).length
    · exact Or.inr several
    · have equal : objects.filter left = objects.filter right := by
        rcases Nat.lt_or_ge (objects.filter left).length 2 with few | many
        · exact eq_of_found_eq same few
        · exact (eq_of_found_eq same.symm (by omega)).symm
      refine Or.inl fun object member => ?_
      have inBoth : object ∈ objects.filter left ↔ object ∈ objects.filter right := by rw [equal]
      rw [List.mem_filter, List.mem_filter, and_iff_right member, and_iff_right member] at inBoth
      exact Bool.eq_iff_iff.mpr inBoth
  · rintro (agree | ⟨severalLeft, severalRight⟩)
    · rw [List.filter_congr agree]
    · rw [found_of_two_le severalLeft, found_of_two_le severalRight]

/-- Both backends give the answer of all selectors together exactly when, in the scope of
the filter, an object has what the last selector asks for to the letter just if it meets
all selectors, or when there are at least two objects either way. -/
theorem backends_agree_iff (fold : Char → Char) (quote : String → String)
    (hardware : List Hardware) (opts : HardwareFilter) (selects : selectors opts ≠ []) :
    (kind (Kube.filterHardware quote hardware opts) =
        kind (File.filterHardware fold hardware opts) ∧
      kind (File.filterHardware fold hardware opts) =
        found (hardware.filter fun hw => decide (MeetsAll fold opts hw))) ↔
      (∀ hw ∈ hardware, MeetsLast opts hw ↔ MeetsAll fold opts hw) ∨
        (2 ≤ hardware.countP (fun hw => decide (MeetsLast opts hw)) ∧
          2 ≤ hardware.countP fun hw => decide (MeetsAll fold opts hw)) := by
  rw [kind_file fold hardware selects, and_iff_left rfl, kind_kube, found_filter_eq_iff]
  simp only [decide_eq_decide]

def record (name mac : String) : Hardware where
  name
  «namespace» := "tink"
  spec := { interfaces := [{ dhcp := some { mac } }] }

theorem backends_agree_iff_mac :
    (kind (Kube.filterHardware id [record "a" "00:00:00:00:00:0a"]
          { byMACAddress := "00:00:00:00:00:0a" }) =
        kind (File.filterHardware Char.toLower [record "a" "00:00:00:00:00:0a"]
          { byMACAddress := "00:00:00:00:00:0a" }) ∧
      kind (File.filterHardware Char.toLower [record "a" "00:00:00:00:00:0a"]
          { byMACAddress := "00:00:00:00:00:0a" }) =
        found ([record "a" "00:00:00:00:00:0a"].filter fun hw => decide (MeetsAll Char.toLower
          { byMACAddress := "00:00:00:00:00:0a" } hw))) :=
  (backends_agree_iff Char.toLower id [record "a" "00:00:00:00:00:0a"]
    { byMACAddress := "00:00:00:00:00:0a" } (by decide)).mpr (by decide)

/-- The Kubernetes backend returns a record of another name when a MAC address is given
as well, and does not find a record whose address is written in the other case. -/
theorem backends_disagree :
    kind (Kube.filterHardware id [record "b" "00:00:00:00:00:0b"]
        { byName := "a", byMACAddress := "00:00:00:00:00:0b" }) =
      .one (record "b" "00:00:00:00:00:0b") ∧
    kind (File.filterHardware Char.toLower [record "b" "00:00:00:00:00:0b"]
        { byName := "a", byMACAddress := "00:00:00:00:00:0b" }) = .none ∧
    kind (Kube.filterHardware id [record "b" "00:00:00:00:00:0b"]
        { byMACAddress := "00:00:00:00:00:0B" }) = .none ∧
    kind (File.filterHardware Char.toLower [record "b" "00:00:00:00:00:0b"]
        { byMACAddress := "00:00:00:00:00:0B" }) = .one (record "b" "00:00:00:00:00:0b") := by
  decide

end Tinkerbell.Backend
