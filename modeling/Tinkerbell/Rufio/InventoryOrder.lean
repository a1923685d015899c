import Tinkerbell.Rufio.Inventory

/-!
Owns: when the attributes of a machine do not depend on the order in which its BMC
lists the components and on where the objects they refer to lie in memory.

The rank of a component is its key and then its dump. Of two components with equal
keys the dumps may come in either order when the addresses in them decide; then the
order of their attributes is not fixed either, unless they are equal. The ports of a
NIC are such a list inside another one.
-/

namespace Tinkerbell.Rufio.Inventory

open Api SortedListing

section Rank

variable {α : Type} (key : Ref α → String) (fields : α → (Nat → String) → String)

def rank (ref : Ref α) : List Char ×ₗ List Char :=
  toLex ((key ref).toList, (dump fields ref).toList)

variable {key fields}

theorem less_eq_false_iff (first second : Ref α) :
    less key fields second first = false ↔ rank key fields first ≤ rank key fields second := by
  rw [rank, rank, Prod.Lex.toLex_le_toLex]
  unfold less textLess
  by_cases same : key second = key first
  · simp [same]
  · have apart : (key first).toList ≠ (key second).toList := fun equal =>
      same (String.toList_inj.mp equal).symm
    rw [if_pos same, decide_eq_false_iff_not, not_lt]
    constructor
    · exact fun notAfter => Or.inl (lt_of_le_of_ne notAfter apart)
    · rintro (before | ⟨equal, _⟩)
      · exact le_of_lt before
      · exact absurd equal apart

theorem ordered_sorter (sorter : Sorter (less key fields)) (items : List (Ref α)) :
    Ordered (rank key fields) (sorter.sort items) :=
  (sorter.ordered items).imp fun {first second} => (less_eq_false_iff first second).mp

variable (key fields)

def insertionSorter : Sorter (less key fields) where
  sort := SortedListing.sort (rank key fields)
  perm := perm_sort (rank key fields)
  ordered := fun items => (ordered_sort (rank key fields) items).imp fun {first second} =>
    (less_eq_false_iff first second).mpr

end Rank

def insertionSorters (layout : Layout) : Sorters layout where
  cpu := insertionSorter cpuKey layout.cpu
  memory := insertionSorter memoryKey layout.memory
  nic := insertionSorter nicKey layout.nic
  nicPort := insertionSorter nicPortKey layout.nicPort
  drive := insertionSorter driveKey layout.drive
  storageController := insertionSorter storageControllerKey layout.storageController
  psu := insertionSorter psuKey layout.psu
  tpm := insertionSorter tpmKey layout.tpm
  gpu := insertionSorter gpuKey layout.gpu

/-- The same component with its objects placed anywhere. -/
def Ref.Same {α : Type} (first second : Ref α) : Prop :=
  second.object = first.object

/-- The same NIC with its ports listed again. -/
def NIC.Same (first second : NIC) : Prop :=
  second = { first with nicPorts := second.nicPorts } ∧
    Relists Ref.Same first.nicPorts second.nicPorts

/-- The same NIC in a list, placed anywhere. -/
def SameNIC (first second : Ref NIC) : Prop :=
  Option.Rel NIC.Same first.object second.object

def BMC.Same (first second : BMC) : Prop :=
  second = { first with nic := second.nic } ∧ Option.Rel NIC.Same first.nic second.nic

/-- The second device is the first with every list in another order and every nested
object placed anywhere. -/
structure Relisted (device other : Device) : Prop where
  rest : other = { device with
    bmc := other.bmc
    cpus := other.cpus
    memory := other.memory
    nics := other.nics
    drives := other.drives
    storageControllers := other.storageControllers
    psus := other.psus
    tpms := other.tpms
    gpus := other.gpus }
  bmc : Option.Rel BMC.Same device.bmc other.bmc
  cpus : Relists Ref.Same device.cpus other.cpus
  memory : Relists Ref.Same device.memory other.memory
  nics : Relists SameNIC device.nics other.nics
  drives : Relists Ref.Same device.drives other.drives
  storageControllers : Relists Ref.Same device.storageControllers other.storageControllers
  psus : Relists Ref.Same device.psus other.psus
  tpms : Relists Ref.Same device.tpms other.tpms
  gpus : Relists Ref.Same device.gpus other.gpus

theorem Ref.Same.refl {α : Type} (ref : Ref α) : Ref.Same ref ref := rfl

theorem NIC.Same.refl (nic : NIC) : NIC.Same nic nic :=
  ⟨rfl, .of_perm Ref.Same.refl (List.Perm.refl _)⟩

theorem SameNIC.refl (ref : Ref NIC) : SameNIC ref ref := by
  unfold SameNIC
  cases ref.object with
  | none => exact .none
  | some nic => exact .some (NIC.Same.refl nic)

theorem BMC.Same.refl (bmc : BMC) : BMC.Same bmc bmc := by
  refine ⟨rfl, ?_⟩
  cases bmc.nic with
  | none => exact .none
  | some nic => exact .some (NIC.Same.refl nic)

theorem Relisted.refl (device : Device) : Relisted device device where
  rest := rfl
  bmc := by
    cases device.bmc with
    | none => exact .none
    | some bmc => exact .some (BMC.Same.refl bmc)
  cpus := .of_perm Ref.Same.refl (List.Perm.refl _)
  memory := .of_perm Ref.Same.refl (List.Perm.refl _)
  nics := .of_perm SameNIC.refl (List.Perm.refl _)
  drives := .of_perm Ref.Same.refl (List.Perm.refl _)
  storageControllers := .of_perm Ref.Same.refl (List.Perm.refl _)
  psus := .of_perm Ref.Same.refl (List.Perm.refl _)
  tpms := .of_perm Ref.Same.refl (List.Perm.refl _)
  gpus := .of_perm Ref.Same.refl (List.Perm.refl _)

section List

variable {α β : Type} {key : Ref α → String} {fields : α → (Nat → String) → String}
  {same : Ref α → Ref α → Prop} {result : Ref α → Option β} {items first second : List (Ref α)}

theorem read_eq_of_canonical (canonical : Canonical same (rank key fields) result items)
    (sorter other : Sorter (less key fields)) (isFirst : Relists same items first)
    (isSecond : Relists same items second) :
    (sorter.sort first).filterMap result = (other.sort second).filterMap result :=
  canonical _ _ (isFirst.perm (sorter.perm first)) (isSecond.perm (other.perm second))
    (ordered_sorter sorter first) (ordered_sorter other second)

theorem canonical_of_read_eq
    (reads : ∀ first second, Relists same items first → Relists same items second →
      ((insertionSorter key fields).sort first).filterMap result =
        ((insertionSorter key fields).sort second).filterMap result) :
    Canonical same (rank key fields) result items := by
  intro first second isFirst isSecond firstOrdered secondOrdered
  have equal := reads first second isFirst isSecond
  rw [insertionSorter] at equal
  simp only at equal
  rwa [sort_of_ordered firstOrdered, sort_of_ordered secondOrdered] at equal

private theorem fixed_readRef (convert : α → β) (items : List (Ref α)) :
    Fixed Ref.Same (readRef convert) items := by
  intro item _ variant other isVariant isOther
  rw [readRef, readRef, isVariant, isOther]

def SettledList (key : Ref α → String) (fields : α → (Nat → String) → String)
    (convert : α → β) (items : List (Ref α)) : Prop :=
  Settled Ref.Same (rank key fields) (readRef convert) items

theorem canonical_readRef_iff (convert : α → β) :
    Canonical Ref.Same (rank key fields) (readRef convert) items ↔
      SettledList key fields convert items := by
  rw [canonical_iff Ref.Same.refl, SettledList, and_iff_right (fixed_readRef convert items)]

theorem read_eq_of_settled {convert : α → β} (settled : SettledList key fields convert items)
    (sorter other : Sorter (less key fields)) (isFirst : Relists Ref.Same items first)
    (isSecond : Relists Ref.Same items second) :
    (sorter.sort first).filterMap (readRef convert) =
      (other.sort second).filterMap (readRef convert) :=
  read_eq_of_canonical ((canonical_readRef_iff convert).mpr settled) sorter other isFirst isSecond

end List

section NICs

variable {layout : Layout} (safecast : Safecast)

def PortsSettled (layout : Layout) (nic : NIC) : Prop :=
  SettledList nicPortKey layout.nicPort (networkPort safecast) nic.nicPorts

def readNIC (sorters : Sorters layout) (ref : Ref NIC) : Option NetworkInterface :=
  ref.object.map fun nic => networkInterfaceFromCommon safecast (sortPorts sorters nic)

variable {safecast}

private theorem interface_eq_of_settled {nic first second : NIC}
    (settled : PortsSettled safecast layout nic) (isFirst : NIC.Same nic first)
    (isSecond : NIC.Same nic second) (sorters others : Sorters layout) :
    networkInterfaceFromCommon safecast (sortPorts sorters first) =
      networkInterfaceFromCommon safecast (sortPorts others second) := by
  have ports := read_eq_of_settled settled sorters.nicPort others.nicPort isFirst.2 isSecond.2
  rw [isFirst.1, isSecond.1]
  simp only [networkInterfaceFromCommon, sortPorts, ports]

theorem optionRel_some {α : Type} {same : α → α → Prop} {item : α} {other : Option α}
    (related : Option.Rel same (some item) other) : ∃ variant, other = some variant ∧
      same item variant := by
  cases related with
  | some isVariant => exact ⟨_, rfl, isVariant⟩

theorem optionRel_none {α : Type} {same : α → α → Prop} {other : Option α}
    (related : Option.Rel same none other) : other = none := by
  cases related with
  | none => rfl

theorem readNIC_eq_of_settled {item first second : Ref NIC}
    (settled : ∀ nic ∈ item.object, PortsSettled safecast layout nic)
    (isFirst : SameNIC item first) (isSecond : SameNIC item second)
    (sorters others : Sorters layout) :
    readNIC safecast sorters first = readNIC safecast others second := by
  unfold SameNIC at isFirst isSecond
  unfold readNIC
  cases isObject : item.object with
  | none =>
    rw [isObject] at isFirst isSecond
    rw [optionRel_none isFirst, optionRel_none isSecond]
    rfl
  | some nic =>
    rw [isObject] at isFirst isSecond
    obtain ⟨_, isFirstNIC, sameFirst⟩ := optionRel_some isFirst
    obtain ⟨_, isSecondNIC, sameSecond⟩ := optionRel_some isSecond
    rw [isFirstNIC, isSecondNIC, Option.map_some, Option.map_some]
    exact congrArg some (interface_eq_of_settled (settled nic (by simp [isObject])) sameFirst
      sameSecond sorters others)

theorem portsSettled_of_eq {nic : NIC}
    (reads : ∀ first second, NIC.Same nic first → NIC.Same nic second →
      networkInterfaceFromCommon safecast (sortPorts (insertionSorters layout) first) =
        networkInterfaceFromCommon safecast (sortPorts (insertionSorters layout) second)) :
    PortsSettled safecast layout nic := by
  rw [PortsSettled, ← canonical_readRef_iff]
  apply canonical_of_read_eq
  intro first second isFirst isSecond
  have equal := reads { nic with nicPorts := first } { nic with nicPorts := second }
    ⟨rfl, isFirst⟩ ⟨rfl, isSecond⟩
  exact congrArg NetworkInterface.ports equal

theorem fixed_readNIC_iff (items : List (Ref NIC)) :
    Fixed SameNIC (readNIC safecast (insertionSorters layout)) items ↔
      ∀ ref ∈ items, ∀ nic ∈ ref.object, PortsSettled safecast layout nic := by
  constructor
  · intro fixed ref member nic isNIC
    apply portsSettled_of_eq
    intro first second isFirst isSecond
    have isObject : ref.object = some nic := isNIC
    have equal := fixed ref member { ref with object := some first }
      { ref with object := some second }
      (by rw [SameNIC, isObject]; exact .some isFirst)
      (by rw [SameNIC, isObject]; exact .some isSecond)
    exact Option.some.inj equal
  · intro settled ref member first second isFirst isSecond
    exact readNIC_eq_of_settled (settled ref member) isFirst isSecond _ _

theorem filterMap_sortPorts (sorters : Sorters layout) (nics : List (Ref NIC)) :
    (nics.map fun ref => { ref with object := ref.object.map (sortPorts sorters) }).filterMap
        (readRef (networkInterfaceFromCommon safecast)) =
      nics.filterMap (readNIC safecast sorters) := by
  rw [List.filterMap_map]
  congr 1
  funext ref
  simp [readRef, readNIC, Option.map_map, Function.comp_def]

theorem filterMap_readNIC_eq {items listed : List (Ref NIC)}
    (settled : ∀ ref ∈ items, ∀ nic ∈ ref.object, PortsSettled safecast layout nic)
    (relists : Relists SameNIC items listed) (sorters others : Sorters layout) :
    listed.filterMap (readNIC safecast sorters) = listed.filterMap (readNIC safecast others) := by
  obtain ⟨_, perm, variants⟩ := relists
  apply List.filterMap_congr
  intro ref member
  obtain ⟨item, isItem, same⟩ := exists_of_mem_right variants member
  exact readNIC_eq_of_settled (settled item (perm.subset isItem)) same same sorters others

private theorem readNICs_eq {items first second : List (Ref NIC)}
    (ports : ∀ ref ∈ items, ∀ nic ∈ ref.object, PortsSettled safecast layout nic)
    (settled : Settled SameNIC (rank nicKey layout.nic)
      (readNIC safecast (insertionSorters layout)) items)
    (isFirst : Relists SameNIC items first) (isSecond : Relists SameNIC items second)
    (sorters : Sorters layout) :
    (sorters.nic.sort first).filterMap (readNIC safecast sorters) =
      (sorters.nic.sort second).filterMap (readNIC safecast sorters) := by
  have canonical := (canonical_iff SameNIC.refl items).mpr
    ⟨(fixed_readNIC_iff items).mpr ports, settled⟩
  rw [filterMap_readNIC_eq ports (isFirst.perm (sorters.nic.perm first)) sorters
      (insertionSorters layout),
    filterMap_readNIC_eq ports (isSecond.perm (sorters.nic.perm second)) sorters
      (insertionSorters layout)]
  exact read_eq_of_canonical canonical sorters.nic sorters.nic isFirst isSecond

end NICs

/-- In every list of the device, and among the ports of every NIC, any two components
that may come in either order give the same attributes. -/
structure Steady (layout : Layout) (safecast : Safecast) (device : Device) : Prop where
  cpus : SettledList cpuKey layout.cpu (cpuSocket safecast) device.cpus
  memory : SettledList memoryKey layout.memory (memoryModule safecast) device.memory
  nics : Settled SameNIC (rank nicKey layout.nic)
    (readNIC safecast (insertionSorters layout)) device.nics
  ports : ∀ ref ∈ device.nics, ∀ nic ∈ ref.object, PortsSettled safecast layout nic
  drives : SettledList driveKey layout.drive blockDevice device.drives
  storageControllers : SettledList storageControllerKey layout.storageController
    storageController device.storageControllers
  psus : SettledList psuKey layout.psu psuInfo device.psus
  tpms : SettledList tpmKey layout.tpm tpmInfo device.tpms
  gpus : SettledList gpuKey layout.gpu gpuDevice device.gpus
  bmc : ∀ bmc ∈ device.bmc, ∀ nic ∈ bmc.nic, PortsSettled safecast layout nic

def OrderIndependent (layout : Layout) (safecast : Safecast) (device : Device) : Prop :=
  ∀ (sorters : Sorters layout) (first second : Device),
    Relisted device first → Relisted device second →
      ∀ (collectionMethod : String) (t later : Option Time),
        attributesFromDevice safecast (sortDevice sorters (some first)) collectionMethod t =
          attributesFromDevice safecast (sortDevice sorters (some second)) collectionMethod t ∧
        seenAsChanged
          (attributesFromDevice safecast (sortDevice sorters (some first)) collectionMethod t)
          (attributesFromDevice safecast (sortDevice sorters (some second)) collectionMethod
            later) = false

section Device

variable {layout : Layout} {safecast : Safecast} {device first second : Device}

private theorem bmc_eq_of_steady (steady : Steady layout safecast device)
    (isFirst : Relisted device first) (isSecond : Relisted device second)
    (sorters : Sorters layout) :
    bmcFromCommon safecast
        (first.bmc.map fun bmc => { bmc with nic := bmc.nic.map (sortPorts sorters) }) =
      bmcFromCommon safecast
        (second.bmc.map fun bmc => { bmc with nic := bmc.nic.map (sortPorts sorters) }) := by
  have firstBMC := isFirst.bmc
  have secondBMC := isSecond.bmc
  have settled := steady.bmc
  cases isBMC : device.bmc with
  | none =>
    rw [isBMC] at firstBMC secondBMC
    rw [optionRel_none firstBMC, optionRel_none secondBMC]
  | some bmc =>
    rw [isBMC] at firstBMC secondBMC
    obtain ⟨one, isOne, sameOne⟩ := optionRel_some firstBMC
    obtain ⟨two, isTwo, sameTwo⟩ := optionRel_some secondBMC
    have nics : (one.nic.map (sortPorts sorters)).map (networkInterfaceFromCommon safecast) =
        (two.nic.map (sortPorts sorters)).map (networkInterfaceFromCommon safecast) := by
      have equal := @readNIC_eq_of_settled layout safecast ⟨bmc.nic, fun _ => 0⟩
        ⟨one.nic, fun _ => 0⟩ ⟨two.nic, fun _ => 0⟩
        (settled bmc isBMC) sameOne.2 sameTwo.2 sorters sorters
      simpa only [readNIC, Option.map_map, Function.comp_def] using equal
    rw [isOne, isTwo, sameOne.1, sameTwo.1]
    simp only [bmcFromCommon, Option.map_some, nics]

private theorem attributes_eq_of_steady (steady : Steady layout safecast device)
    (isFirst : Relisted device first) (isSecond : Relisted device second)
    (sorters : Sorters layout) (collectionMethod : String) (t : Option Time) :
    attributesFromDevice safecast (sortDevice sorters (some first)) collectionMethod t =
      attributesFromDevice safecast (sortDevice sorters (some second)) collectionMethod t := by
  have bmc := bmc_eq_of_steady steady isFirst isSecond sorters
  have cpus := read_eq_of_settled steady.cpus sorters.cpu sorters.cpu isFirst.cpus
    isSecond.cpus
  have memory := read_eq_of_settled steady.memory sorters.memory sorters.memory isFirst.memory
    isSecond.memory
  have nics := readNICs_eq steady.ports steady.nics isFirst.nics isSecond.nics sorters
  have drives := read_eq_of_settled steady.drives sorters.drive sorters.drive isFirst.drives
    isSecond.drives
  have storageControllers := read_eq_of_settled steady.storageControllers
    sorters.storageController sorters.storageController isFirst.storageControllers
    isSecond.storageControllers
  have psus := read_eq_of_settled steady.psus sorters.psu sorters.psu isFirst.psus
    isSecond.psus
  have tpms := read_eq_of_settled steady.tpms sorters.tpm sorters.tpm isFirst.tpms
    isSecond.tpms
  have gpus := read_eq_of_settled steady.gpus sorters.gpu sorters.gpu isFirst.gpus
    isSecond.gpus
  have common : first.toCommon = second.toCommon := by rw [isFirst.rest, isSecond.rest]
  have bios : first.bios = second.bios := by rw [isFirst.rest, isSecond.rest]
  have mainboard : first.mainboard = second.mainboard := by rw [isFirst.rest, isSecond.rest]
  simp only [attributesFromDevice, sortDevice, Option.map_some, filterMap_sortPorts, common,
    bios, mainboard, bmc, cpus, memory, nics, drives, storageControllers, psus, tpms, gpus]

private theorem seenAsChanged_of_eq {existing new : Option Device} {collectionMethod : String}
    {t later : Option Time}
    (equal : attributesFromDevice safecast existing collectionMethod t =
      attributesFromDevice safecast new collectionMethod t) :
    seenAsChanged (attributesFromDevice safecast existing collectionMethod t)
      (attributesFromDevice safecast new collectionMethod later) = false := by
  have timeless : (attributesFromDevice safecast new collectionMethod later).map
        (fun attributes => { attributes with lastUpdated := none }) =
      (attributesFromDevice safecast new collectionMethod t).map
        fun attributes => { attributes with lastUpdated := none } := by
    cases new with
    | none | some device => rfl
  rw [seenAsChanged, timeless, equal]
  simp

theorem getD_unlessEmpty {α : Type} (items : List α) : (unlessEmpty items).getD [] = items := by
  cases items with
  | nil | cons head rest => rfl

def collected (layout : Layout) (safecast : Safecast) (device : Device) : Option Attributes :=
  attributesFromDevice safecast (sortDevice (insertionSorters layout) (some device)) "" none

section

variable (independent : OrderIndependent layout safecast device)
include independent

theorem OrderIndependent.settledList
    {α β : Type} {key : Ref α → String} {fields : α → (Nat → String) → String} {convert : α → β}
    {items : List (Ref α)} (relist : List (Ref α) → Device) (field : Attributes → List β)
    (relisted : ∀ listed, Relists Ref.Same items listed → Relisted device (relist listed))
    (shows : ∀ listed, (collected layout safecast (relist listed)).map field =
      some (((insertionSorter key fields).sort listed).filterMap (readRef convert))) :
    SettledList key fields convert items := by
  rw [← canonical_readRef_iff]
  apply canonical_of_read_eq
  intro one two isOne isTwo
  have equal := (independent (insertionSorters layout) _ _ (relisted one isOne)
    (relisted two isTwo) "" none none).1
  apply Option.some.inj
  rw [← shows one, ← shows two]
  exact congrArg (Option.map field) equal

theorem OrderIndependent.nics :
    Canonical SameNIC (rank nicKey layout.nic) (readNIC safecast (insertionSorters layout))
      device.nics := by
  apply canonical_of_read_eq
  intro one two isOne isTwo
  have relisted : ∀ listed, Relists SameNIC device.nics listed →
      Relisted device { device with nics := listed } := fun listed isListed =>
    { Relisted.refl device with rest := rfl, nics := isListed }
  have equal := (independent (insertionSorters layout) _ _ (relisted one isOne)
    (relisted two isTwo) "" none none).1
  have reads := Option.some.inj (congrArg (Option.map Attributes.networkInterfaces) equal)
  simp only [filterMap_sortPorts] at reads
  exact reads

theorem OrderIndependent.bmcPorts
    {bmc : BMC} (isBMC : device.bmc = some bmc) {nic : NIC} (isNIC : bmc.nic = some nic) :
    PortsSettled safecast layout nic := by
  apply portsSettled_of_eq
  intro one two isOne isTwo
  have relisted : ∀ variant, NIC.Same nic variant →
      Relisted device { device with bmc := some { bmc with nic := some variant } } := by
    intro variant isVariant
    refine { Relisted.refl device with rest := rfl, bmc := ?_ }
    rw [isBMC]
    refine .some ⟨rfl, ?_⟩
    rw [isNIC]
    exact .some isVariant
  have equal := (independent (insertionSorters layout) _ _ (relisted one isOne)
    (relisted two isTwo) "" none none).1
  have nics := congrArg (fun attributes : Option Attributes =>
    attributes.bind fun given => given.bmc.bind BMCInfo.nic) equal
  exact Option.some.inj nics

private theorem steady_of_independent :
    Steady layout safecast device := by
  have same := Relisted.refl device
  obtain ⟨nicsFixed, nicsSettled⟩ := (canonical_iff SameNIC.refl _).mp independent.nics
  exact
    { cpus := independent.settledList (fun listed => { device with cpus := listed })
        (fun attributes => attributes.cpu.getD [])
        (fun listed isListed => { same with rest := rfl, cpus := isListed })
        (fun listed => congrArg some (getD_unlessEmpty _))
      memory := independent.settledList (fun listed => { device with memory := listed })
        (fun attributes => attributes.memory.getD [])
        (fun listed isListed => { same with rest := rfl, memory := isListed })
        (fun listed => congrArg some (getD_unlessEmpty _))
      nics := nicsSettled
      ports := (fixed_readNIC_iff _).mp nicsFixed
      drives := independent.settledList (fun listed => { device with drives := listed })
        Attributes.blockDevices
        (fun listed isListed => { same with rest := rfl, drives := isListed }) (fun _ => rfl)
      storageControllers := independent.settledList
        (fun listed => { device with storageControllers := listed })
        Attributes.storageControllers
        (fun listed isListed => { same with rest := rfl, storageControllers := isListed })
        (fun _ => rfl)
      psus := independent.settledList (fun listed => { device with psus := listed })
        Attributes.psus
        (fun listed isListed => { same with rest := rfl, psus := isListed }) (fun _ => rfl)
      tpms := independent.settledList (fun listed => { device with tpms := listed })
        Attributes.tpms
        (fun listed isListed => { same with rest := rfl, tpms := isListed }) (fun _ => rfl)
      gpus := independent.settledList (fun listed => { device with gpus := listed })
        Attributes.gpuDevices
        (fun listed isListed => { same with rest := rfl, gpus := isListed }) (fun _ => rfl)
      bmc := fun bmc isBMC nic isNIC => independent.bmcPorts isBMC isNIC }

end

/-- The attributes of a machine do not depend on the order in which its components are
listed and on where their objects lie exactly when, in every list, any two components
that may come in either order give the same attributes. -/
theorem order_independent_iff (layout : Layout) (safecast : Safecast) (device : Device) :
    OrderIndependent layout safecast device ↔ Steady layout safecast device := by
  constructor
  · exact steady_of_independent
  · intro steady sorters first second isFirst isSecond collectionMethod t later
    have equal := attributes_eq_of_steady steady isFirst isSecond sorters collectionMethod t
    exact ⟨equal, seenAsChanged_of_eq equal⟩

end Device

def pointerText {α : Type} (object : Option α) (address : String) : String :=
  match object with
  | none => "<nil>"
  | some _ => address

def commonText (c : Common) (address : Nat → String) : String :=
  "Common:\x7bVendor:" ++ c.vendor ++ " Model:" ++ c.model ++ " Serial:" ++ c.serial ++ c.unread ++
    " Firmware:" ++ pointerText c.firmware (address 0) ++
    " Status:" ++ pointerText c.status (address 1) ++ "\x7d"

def sampleLayout : Layout where
  cpu c address := commonText c.toCommon address ++ " ID:" ++ c.id ++ " Slot:" ++ c.slot
  memory m address := commonText m.toCommon address ++ " ID:" ++ m.id ++ " Slot:" ++ m.slot
  nic n address := commonText n.toCommon address ++ " ID:" ++ n.id
  nicPort p address := commonText p.toCommon address ++ " ID:" ++ p.id
  drive d address := commonText d.toCommon address ++ " ID:" ++ d.id ++ " WWN:" ++ d.wwn
  storageController sc address := commonText sc.toCommon address ++ " ID:" ++ sc.id
  psu p address := commonText p.toCommon address ++ " ID:" ++ p.id
  tpm t address := commonText t.toCommon address ++ " InterfaceType:" ++ t.interfaceType
  gpu g address := commonText g.toCommon address

def sampleSafecast : Safecast where
  toUint32 value := value.toNat
  toInt32 value := value

def driveIn (health : String) (address : Nat) : Ref Drive where
  object := some { vendor := "ACME", status := some { health := health } }
  placement := fun _ => address

def twoDrives (healthy failing : Nat) : Device where
  drives := [driveIn "OK" healthy, driveIn "Critical" failing]

/-- The same two drives in the same order; only the addresses of their statuses are
exchanged, and the machine is seen as changed. -/
theorem addresses_decide_order :
    let first := twoDrives 0xc000010000 0xc000020000
    let second := twoDrives 0xc000020000 0xc000010000
    Relisted first second ∧
      seenAsChanged (collected sampleLayout sampleSafecast first)
        (collected sampleLayout sampleSafecast second) = true := by
  intro first second
  have sameDrives : Relists Ref.Same first.drives second.drives :=
    ⟨first.drives, List.Perm.refl _, .cons rfl (.cons rfl .nil)⟩
  exact ⟨{ Relisted.refl first with rest := rfl, drives := sameDrives }, by decide +kernel⟩

end Tinkerbell.Rufio.Inventory
