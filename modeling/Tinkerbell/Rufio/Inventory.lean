import Mathlib.Data.Char
import Mathlib.Data.List.Lex
import Mathlib.Data.Prod.Lex
import Tinkerbell.Api.Time
import Tinkerbell.Library.SortedListing

/-!
Owns: the attributes that a collected inventory gives: the components of a device,
the keys they are sorted by, the sorting of every list, and the conversion of the
sorted device.

A component is listed through a pointer. Components with equal keys are ordered by
the text of the whole component, in which an object that the component refers to
appears as an address; where those objects lie is not part of the machine. The
layouts of the components are those of the BMC library and are given as texts with
addresses to fill in, the checked number conversions are library code as well.

`sort.Slice` promises the order and nothing about equal elements, so a sorter is any
function that orders its list.
-/

namespace Tinkerbell.Rufio.Inventory

open Api SortedListing

/-- Where the objects lie that a component refers to. -/
abbrev Placement := Nat → Nat

/-- An address as a dump shows it. -/
def addressText (address : Nat) : String :=
  "0x" ++ String.ofList (Nat.toDigits 16 address)

structure Firmware where
  installed : String := ""

structure Status where
  (health state : String := "")
  postCode : Int := 0
  postCodeStatus : String := ""

/-- `unread` is the text of the fields that only a dump shows. -/
structure Common where
  (vendor model serial productName description : String := "")
  firmware : Option Firmware := none
  status : Option Status := none
  unread : String := ""

structure CPU extends Common where
  (id slot : String := "")
  (cores threads clockSpeedHz : Int := 0)

structure Memory extends Common where
  (id slot partNumber formFactor : String := "")
  (sizeBytes clockSpeedHz : Int := 0)

structure NICPort extends Common where
  (id physicalID macAddress linkStatus : String := "")
  (speedBits mtuSize : Int := 0)

structure Drive extends Common where
  (id wwn type smartStatus : String := "")
  capacityBytes : Int := 0

structure StorageController extends Common where
  id : String := ""

structure PSU extends Common where
  id : String := ""
  powerCapacityWatts : Int := 0

structure TPM extends Common where
  interfaceType : String := ""

structure GPU extends Common

/-- A pointer in a list of components, nil without an object. -/
structure Ref (α : Type) where
  object : Option α
  placement : Placement

structure NIC extends Common where
  id : String := ""
  nicPorts : List (Ref NICPort) := []

structure BMC extends Common where
  nic : Option NIC := none

structure Device extends Common where
  bios : Option Common := none
  bmc : Option BMC := none
  mainboard : Option Common := none
  cpus : List (Ref CPU) := []
  memory : List (Ref Memory) := []
  nics : List (Ref NIC) := []
  drives : List (Ref Drive) := []
  storageControllers : List (Ref StorageController) := []
  psus : List (Ref PSU) := []
  tpms : List (Ref TPM) := []
  gpus : List (Ref GPU) := []

def cmpOr (texts : List String) : String :=
  (texts.find? (· ≠ "")).getD ""

def keyBy {α : Type} (texts : α → List String) (ref : Ref α) : String :=
  match ref.object with
  | none => ""
  | some object => cmpOr (texts object)

def cpuKey : Ref CPU → String := keyBy fun c => [c.id, c.slot, c.serial]

def memoryKey : Ref Memory → String := keyBy fun m => [m.id, m.slot, m.serial]

def nicKey : Ref NIC → String := keyBy fun n => [n.id, n.serial]

def nicPortKey : Ref NICPort → String := keyBy fun p => [p.physicalID, p.id, p.macAddress]

def driveKey : Ref Drive → String := keyBy fun dr => [dr.id, dr.serial, dr.wwn]

def storageControllerKey : Ref StorageController → String := keyBy fun sc => [sc.id, sc.serial]

def psuKey : Ref PSU → String := keyBy fun p => [p.id, p.serial]

def tpmKey : Ref TPM → String := keyBy fun t => [t.serial]

def gpuKey : Ref GPU → String := keyBy fun g => [g.serial, g.model, g.productName]

/-- How the components are written: any text of the fields, with the texts of the
addresses to fill in. -/
structure Layout where
  cpu : CPU → (Nat → String) → String
  memory : Memory → (Nat → String) → String
  nic : NIC → (Nat → String) → String
  nicPort : NICPort → (Nat → String) → String
  drive : Drive → (Nat → String) → String
  storageController : StorageController → (Nat → String) → String
  psu : PSU → (Nat → String) → String
  tpm : TPM → (Nat → String) → String
  gpu : GPU → (Nat → String) → String

def dump {α : Type} (fields : α → (Nat → String) → String) (ref : Ref α) : String :=
  match ref.object with
  | none => "<nil>"
  | some object => "&\x7b" ++ fields object (addressText ∘ ref.placement) ++ "\x7d"

def textLess (first second : String) : Bool :=
  first.toList < second.toList

def less {α : Type} (key : Ref α → String) (fields : α → (Nat → String) → String)
    (first second : Ref α) : Bool :=
  if key first ≠ key second then textLess (key first) (key second)
  else textLess (dump fields first) (dump fields second)

/-- What `sort.Slice` promises. -/
structure Sorter {α : Type} (less : α → α → Bool) where
  sort : List α → List α
  perm : ∀ items, (sort items).Perm items
  ordered : ∀ items, (sort items).Pairwise fun first second => less second first = false

/-- A sorter for the lists of each kind. -/
structure Sorters (layout : Layout) where
  cpu : Sorter (less cpuKey layout.cpu)
  memory : Sorter (less memoryKey layout.memory)
  nic : Sorter (less nicKey layout.nic)
  nicPort : Sorter (less nicPortKey layout.nicPort)
  drive : Sorter (less driveKey layout.drive)
  storageController : Sorter (less storageControllerKey layout.storageController)
  psu : Sorter (less psuKey layout.psu)
  tpm : Sorter (less tpmKey layout.tpm)
  gpu : Sorter (less gpuKey layout.gpu)

section SortDevice

variable {layout : Layout} (sorters : Sorters layout)

def sortPorts (nic : NIC) : NIC :=
  { nic with nicPorts := sorters.nicPort.sort nic.nicPorts }

def sortDevice (device : Option Device) : Option Device :=
  device.map fun d =>
    { d with
      cpus := sorters.cpu.sort d.cpus
      memory := sorters.memory.sort d.memory
      nics := (sorters.nic.sort d.nics).map fun ref =>
        { ref with object := ref.object.map (sortPorts sorters) }
      drives := sorters.drive.sort d.drives
      storageControllers := sorters.storageController.sort d.storageControllers
      psus := sorters.psu.sort d.psus
      tpms := sorters.tpm.sort d.tpms
      gpus := sorters.gpu.sort d.gpus
      bmc := d.bmc.map fun bmc => { bmc with nic := bmc.nic.map (sortPorts sorters) } }

end SortDevice

structure ComponentStatus where
  (health state : String)
  postCode : Option Int := none
  postCodeStatus : String := ""
deriving DecidableEq

structure CPUSocket where
  (slot vendor model : String)
  (cores threads clockSpeedMHz : Nat)
  (serialNumber firmwareVersion : String)
deriving DecidableEq

structure MemoryModule where
  (slot vendor model serialNumber partNumber : String)
  sizeBytes : Int
  speedMHz : Nat
  (formFactor firmwareVersion : String)
deriving DecidableEq

structure NetworkPort where
  (portID mac : String)
  (speedMbps mtu : Nat)
  linkStatus : String
deriving DecidableEq

structure NetworkInterface where
  (vendor model serialNumber firmwareVersion : String)
  ports : List NetworkPort
deriving DecidableEq

structure BlockDevice where
  (vendor model serialNumber wwn : String)
  sizeBytes : Int
  (driveType smartStatus firmwareVersion : String)
  status : Option ComponentStatus
deriving DecidableEq

/-- What a controller, a GPU and the baseboard are shown with. -/
structure DescribedDevice where
  (vendor model serialNumber description firmwareVersion : String)
  status : Option ComponentStatus
deriving DecidableEq

structure PSUInfo where
  (vendor model serialNumber description firmwareVersion : String)
  powerCapacityWatts : Int
  status : Option ComponentStatus
deriving DecidableEq

structure TPMInfo where
  (vendor model serialNumber interfaceType firmwareVersion : String)
  status : Option ComponentStatus
deriving DecidableEq

structure BIOSInfo where
  (vendor model serialNumber firmwareVersion : String)
  status : Option ComponentStatus
deriving DecidableEq

structure BMCInfo where
  (vendor model serialNumber firmwareVersion : String)
  nic : Option NetworkInterface
  status : Option ComponentStatus
deriving DecidableEq

structure Product where
  (name vendor model serialNumber : String)
  status : Option ComponentStatus
deriving DecidableEq

structure Attributes where
  lastUpdated : Option Time
  collectionMethod : String
  product : Option Product
  bios : Option BIOSInfo
  bmc : Option BMCInfo
  baseboard : Option DescribedDevice
  cpu : Option (List CPUSocket)
  memory : Option (List MemoryModule)
  networkInterfaces : List NetworkInterface
  blockDevices : List BlockDevice
  storageControllers : List DescribedDevice
  psus : List PSUInfo
  tpms : List TPMInfo
  gpuDevices : List DescribedDevice
deriving DecidableEq

/-- The checked conversions of numbers. -/
structure Safecast where
  toUint32 : Int → Nat
  toInt32 : Int → Int

def firmwareVersion : Option Firmware → String
  | none => ""
  | some firmware => firmware.installed

def statusFromCommon (status : Option Status) : Option ComponentStatus :=
  status.map fun s => { health := s.health, state := s.state }

section Convert

variable (safecast : Safecast)

def postStatusFromCommon (status : Option Status) : Option ComponentStatus :=
  status.map fun s =>
    if s.postCodeStatus ≠ "" then
      { health := s.health
        state := s.state
        postCode := some (safecast.toInt32 s.postCode)
        postCodeStatus := s.postCodeStatus }
    else { health := s.health, state := s.state }

def productFromCommon (c : Common) : Option Product :=
  let status := postStatusFromCommon safecast c.status
  if c.vendor = "" ∧ c.model = "" ∧ c.productName = "" ∧ c.serial = "" ∧ status = none then none
  else some
    { name := c.productName
      vendor := c.vendor
      model := c.model
      serialNumber := c.serial
      status }

def cpuSocket (c : CPU) : CPUSocket where
  slot := c.slot
  vendor := c.vendor
  model := c.model
  cores := safecast.toUint32 c.cores
  threads := safecast.toUint32 c.threads
  clockSpeedMHz := safecast.toUint32 (c.clockSpeedHz.tdiv 1000000)
  serialNumber := c.serial
  firmwareVersion := firmwareVersion c.firmware

def memoryModule (m : Memory) : MemoryModule where
  slot := m.slot
  vendor := m.vendor
  model := m.model
  serialNumber := m.serial
  partNumber := m.partNumber
  sizeBytes := m.sizeBytes
  speedMHz := safecast.toUint32 (m.clockSpeedHz.tdiv 1000000)
  formFactor := m.formFactor
  firmwareVersion := firmwareVersion m.firmware

def networkPort (p : NICPort) : NetworkPort where
  portID := cmpOr [p.physicalID, p.id]
  mac := p.macAddress
  speedMbps := safecast.toUint32 (p.speedBits.tdiv 1000000)
  mtu := safecast.toUint32 p.mtuSize
  linkStatus := p.linkStatus

def readRef {α β : Type} (convert : α → β) (ref : Ref α) : Option β :=
  ref.object.map convert

def networkInterfaceFromCommon (n : NIC) : NetworkInterface where
  vendor := n.vendor
  model := n.model
  serialNumber := n.serial
  firmwareVersion := firmwareVersion n.firmware
  ports := n.nicPorts.filterMap (readRef (networkPort safecast))

end Convert

def blockDevice (d : Drive) : BlockDevice where
  vendor := d.vendor
  model := d.model
  serialNumber := d.serial
  wwn := d.wwn
  sizeBytes := d.capacityBytes
  driveType := d.type
  smartStatus := d.smartStatus
  firmwareVersion := firmwareVersion d.firmware
  status := statusFromCommon d.status

def describedDevice (c : Common) : DescribedDevice where
  vendor := c.vendor
  model := c.model
  serialNumber := c.serial
  description := c.description
  firmwareVersion := firmwareVersion c.firmware
  status := statusFromCommon c.status

def storageController (sc : StorageController) : DescribedDevice := describedDevice sc.toCommon

def gpuDevice (g : GPU) : DescribedDevice := describedDevice g.toCommon

def psuInfo (p : PSU) : PSUInfo where
  vendor := p.vendor
  model := p.model
  serialNumber := p.serial
  description := p.description
  firmwareVersion := firmwareVersion p.firmware
  powerCapacityWatts := p.powerCapacityWatts
  status := statusFromCommon p.status

def tpmInfo (tpm : TPM) : TPMInfo where
  vendor := tpm.vendor
  model := tpm.model
  serialNumber := tpm.serial
  interfaceType := tpm.interfaceType
  firmwareVersion := firmwareVersion tpm.firmware
  status := statusFromCommon tpm.status

def biosFromCommon (b : Option Common) : Option BIOSInfo :=
  b.map fun b =>
    { vendor := b.vendor
      model := b.model
      serialNumber := b.serial
      firmwareVersion := firmwareVersion b.firmware
      status := statusFromCommon b.status }

def bmcFromCommon (safecast : Safecast) (bmc : Option BMC) : Option BMCInfo :=
  bmc.map fun bmc =>
    { vendor := bmc.vendor
      model := bmc.model
      serialNumber := bmc.serial
      firmwareVersion := firmwareVersion bmc.firmware
      nic := bmc.nic.map (networkInterfaceFromCommon safecast)
      status := statusFromCommon bmc.status }

def baseboardFromMainboard (m : Option Common) : Option DescribedDevice :=
  m.map describedDevice

def unlessEmpty {α : Type} (items : List α) : Option (List α) :=
  if items.length > 0 then some items else none

def attributesFromDevice (safecast : Safecast) (device : Option Device)
    (collectionMethod : String) (t : Option Time) : Option Attributes :=
  device.map fun device =>
    { lastUpdated := t
      collectionMethod
      product := productFromCommon safecast device.toCommon
      bios := biosFromCommon device.bios
      bmc := bmcFromCommon safecast device.bmc
      baseboard := baseboardFromMainboard device.mainboard
      cpu := unlessEmpty (device.cpus.filterMap (readRef (cpuSocket safecast)))
      memory := unlessEmpty (device.memory.filterMap (readRef (memoryModule safecast)))
      networkInterfaces :=
        device.nics.filterMap (readRef (networkInterfaceFromCommon safecast))
      blockDevices := device.drives.filterMap (readRef blockDevice)
      storageControllers := device.storageControllers.filterMap (readRef storageController)
      psus := device.psus.filterMap (readRef psuInfo)
      tpms := device.tpms.filterMap (readRef tpmInfo)
      gpuDevices := device.gpus.filterMap (readRef gpuDevice) }

def seenAsChanged (existing new : Option Attributes) : Bool :=
  existing.map (fun attributes => { attributes with lastUpdated := none }) ≠
    new.map fun attributes => { attributes with lastUpdated := none }

end Tinkerbell.Rufio.Inventory
