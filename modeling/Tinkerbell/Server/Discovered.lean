import Tinkerbell.Server.Attributes
import Tinkerbell.Server.Enrollment

/-!
Owns: the Hardware that discovery makes of the attributes message in an action request,
and for which messages its disks and interfaces are the ones they should be.

Two fields of the message are used as they come. A block device with a size is taken to
have a name, and a hardware address that can be read is stored as it was spelled.
-/

namespace Tinkerbell.Server

open Api NetAddress

def discoveryAttributes (json : Data.AgentAttributes → String)
    (attrs : Data.AgentAttributes) : AgentAttributes :=
  { attrs with json := json attrs }

def discoveredFrom (json : Data.AgentAttributes → String) (discovery : AutoDiscovery)
    (name agentID : String) (message : Option Proto.AgentAttributes) : Option Hardware :=
  discoveredHardware discovery name agentID ((convert message).map (discoveryAttributes json))

def namedDisk (name size : Option String) : Option Disk :=
  if name.getD "" = "" ∨ size.getD "" = "" then none
  else some { device := "/dev/" ++ name.getD "" }

def canonicalInterface (mac : Option String) : Option Interface :=
  (mac.bind parseMAC).map fun octets => { dhcp := some { mac := macString octets } }

/-- Discovery copes with a message. -/
def Copes (message : Option Proto.AgentAttributes) (populated : Option Hardware) : Prop :=
  ∃ hardware, populated = some hardware ∧
    hardware.spec.disks = ((message.map Proto.AgentAttributes.block).getD []).filterMap
      (fun block => namedDisk block.name block.size) ∧
    hardware.spec.interfaces = ((message.map Proto.AgentAttributes.network).getD []).filterMap
      (fun network => canonicalInterface network.mac)

/-- Every block device with a size has a name, and every hardware address that can be
read is spelled in lower case and with colons. -/
structure PlainMessage (message : Option Proto.AgentAttributes) : Prop where
  named : ∀ block ∈ (message.map Proto.AgentAttributes.block).getD [],
    block.size.getD "" ≠ "" → block.name.getD "" ≠ ""
  canonical : ∀ network ∈ (message.map Proto.AgentAttributes.network).getD [],
    ∀ mac, network.mac = some mac → ∀ octets, parseMAC mac = some octets → mac = macString octets

private theorem device_ne_of_namedDisk {name size : Option String} {disk : Disk}
    (isDisk : namedDisk name size = some disk) : disk.device ≠ "/dev/" ++ "" := by
  unfold namedDisk at isDisk
  split at isDisk
  · cases isDisk
  · next both =>
    cases isDisk
    intro same
    have isEmpty := String.append_right_inj "/dev/" |>.mp same
    exact (not_or.mp both).1 isEmpty

/-- The disks are those of the block devices with a name and a size when every device
with a size has a name. A nameless one stops the handler or leaves a bare `/dev/`. -/
theorem discoveredDisks_eq_iff (blocks : List Data.Block) :
    discoveredDisks blocks = some (blocks.filterMap fun block => namedDisk block.name block.size) ↔
      ∀ block ∈ blocks, block.size.getD "" ≠ "" → block.name.getD "" ≠ "" := by
  induction blocks with
  | nil => simp [discoveredDisks]
  | cons head rest ih =>
    rw [List.forall_mem_cons, ← ih]
    rw [discoveredDisks]
    by_cases noSize : head.size.getD "" = ""
    · simp [noSize, namedDisk]
    · cases isName : head.name with
      | none => simp [noSize]
      | some name =>
        by_cases isEmpty : name = ""
        · subst isEmpty
          simp only [noSize, if_false, isName, namedDisk, Option.getD_some, true_or, if_true,
            List.filterMap_cons_none]
          constructor
          · intro same
            obtain ⟨_, isEmpty, same⟩ := Option.bind_eq_some_iff.mp same
            obtain ⟨_, _, same⟩ := Option.bind_eq_some_iff.mp same
            cases isEmpty
            have member : ({ device := "/dev/" ++ "" } : Disk) ∈
                rest.filterMap fun block => namedDisk block.name block.size := by
              have isList := Option.some.inj same
              unfold namedDisk
              rw [← isList]
              exact List.mem_cons_self
            obtain ⟨_, _, isDisk⟩ := List.mem_filterMap.mp member
            exact absurd rfl (device_ne_of_namedDisk isDisk)
          · rintro ⟨named, _⟩
            exact absurd rfl (named (by simpa using noSize))
        · have isDisk :
              namedDisk (some name) head.size = some { device := "/dev/" ++ name } := by
            simp [namedDisk, isEmpty, noSize]
          simp only [noSize, if_false, isName, List.filterMap_cons, isDisk]
          cases discoveredDisks rest with
          | none => simp
          | some => simp [isEmpty]

private theorem filterMap_eq_iff {α β : Type} {first second : α → Option β}
    (sameElements : ∀ element, first element = none ↔ second element = none)
    (elements : List α) :
    elements.filterMap first = elements.filterMap second ↔
      ∀ element ∈ elements, first element = second element := by
  induction elements with
  | nil => simp
  | cons head _ ih =>
    rw [List.forall_mem_cons, ← ih]
    cases isFirst : first head with
    | none =>
      have isSecond := (sameElements head).mp isFirst
      simp [isFirst, isSecond]
    | some =>
      cases isSecond : second head with
      | none =>
        rw [(sameElements head).mpr isSecond] at isFirst
        cases isFirst
      | some => simp [isFirst, isSecond]

private theorem parseMAC_empty : parseMAC "" = none := by decide

private theorem discoveredInterfaces_eq (interfaces : List Data.Network) :
    discoveredInterfaces interfaces = interfaces.filterMap fun iface =>
      iface.mac.bind fun mac => (parseMAC mac).map fun _ => { dhcp := some { mac } } := by
  unfold discoveredInterfaces
  congr 1
  funext iface
  cases iface.mac with
  | none => rfl
  | some mac =>
    by_cases isEmpty : mac = ""
    · subst isEmpty
      simp [parseMAC_empty]
    · cases isRead : parseMAC mac with
      | none => simp [isRead]
      | some => simp [isRead, isEmpty]

private theorem discoveredInterfaces_eq_iff (interfaces : List Data.Network) :
    discoveredInterfaces interfaces =
        interfaces.filterMap (fun iface => canonicalInterface iface.mac) ↔
      ∀ iface ∈ interfaces, ∀ mac, iface.mac = some mac → ∀ octets, parseMAC mac = some octets →
        mac = macString octets := by
  rw [discoveredInterfaces_eq, filterMap_eq_iff]
  · apply forall₂_congr
    intro iface _
    unfold canonicalInterface
    cases iface.mac with
    | none => simp
    | some mac =>
      cases isRead : parseMAC mac with
      | none | some octets => simp [isRead]
  · intro iface
    unfold canonicalInterface
    cases iface.mac with
    | none | some mac => simp

private theorem discoveredHardware_some_iff (discovery : AutoDiscovery) (name agentID : String)
    (attributes : AgentAttributes) (disks : List Disk) (interfaces : List Interface) :
    (∃ hardware, discoveredHardware discovery name agentID (some attributes) = some hardware ∧
        hardware.spec.disks = disks ∧ hardware.spec.interfaces = interfaces) ↔
      discoveredDisks attributes.blockDevices = some disks ∧
        discoveredInterfaces attributes.networkInterfaces = interfaces := by
  unfold discoveredHardware updateHardware
  cases isFound : discoveredDisks attributes.blockDevices with
  | none | some found => simp [isFound]

/-- Discovery copes with a message exactly when every block device with a size has a
name and every hardware address that can be read is in its canonical form. -/
theorem discovery_copes_iff (json : Data.AgentAttributes → String) (discovery : AutoDiscovery)
    (name agentID : String) (message : Option Proto.AgentAttributes) :
    Copes message (discoveredFrom json discovery name agentID message) ↔
      PlainMessage message := by
  cases message with
  | none => exact ⟨fun _ => ⟨by simp, by simp⟩, fun _ => ⟨_, rfl, rfl, rfl⟩⟩
  | some message =>
    have disks := discoveredDisks_eq_iff (message.block.map convertBlock)
    have interfaces := discoveredInterfaces_eq_iff (message.network.map convertNetwork)
    rw [List.filterMap_map, List.forall_mem_map] at disks interfaces
    unfold Copes discoveredFrom convert
    rw [Option.map_some, discoveredHardware_some_iff]
    simp only [discoveryAttributes, newAgentAttributes, List.nil_append]
    constructor
    · rintro ⟨isDisks, isInterfaces⟩
      exact ⟨disks.mp isDisks, interfaces.mp isInterfaces⟩
    · intro plain
      exact ⟨disks.mpr plain.named, interfaces.mpr plain.canonical⟩

/-- A block device with a size and no name stops the handler, and an address in upper
case is stored under a key that no lookup uses. -/
theorem nameless_disk_and_capital_address :
    ¬Copes (some { block := [{ size := some "10GB" }] })
        (discoveredFrom (fun _ => "") {} "name" "id"
          (some { block := [{ size := some "10GB" }] })) ∧
      ¬Copes (some { network := [{ mac := some "AA:BB:CC:DD:EE:FF" }] })
        (discoveredFrom (fun _ => "") {} "name" "id"
          (some { network := [{ mac := some "AA:BB:CC:DD:EE:FF" }] })) := by
  constructor
  · rintro ⟨hardware, populated, _⟩
    cases populated
  · rintro ⟨hardware, populated, _, isInterfaces⟩
    cases populated
    revert isInterfaces
    decide +kernel

end Tinkerbell.Server
