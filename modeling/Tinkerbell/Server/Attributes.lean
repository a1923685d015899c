import Tinkerbell.Agent.Attributes

/-!
Owns: `convert`, with which the server reads the attributes in an action request, and
what is left of the attributes an agent sent.

The conversion starts from attributes with every section present and empty, so that a
section the agent did not send is there all the same.
-/

namespace Tinkerbell.Server

def convertProcessor (core : Proto.Processor) : Data.Processor where
  id := core.id
  cores := core.cores
  threads := core.threads
  vendor := core.vendor
  model := core.model
  capabilities := core.capabilities

def convertCPU (cpu : Proto.CPU) : Data.CPU where
  totalCores := cpu.totalCores
  totalThreads := cpu.totalThreads
  processors := cpu.processors.map convertProcessor

def convertMemory (memory : Proto.Memory) : Data.Memory where
  total := memory.total
  usable := memory.usable

def convertBlock (block : Proto.Block) : Data.Block where
  name := block.name
  controllerType := block.controllerType
  driveType := block.driveType
  size := block.size
  physicalBlockSize := block.physicalBlockSize
  vendor := block.vendor
  model := block.model
  wwn := block.wwn
  serialNumber := block.serialNumber

def convertNetwork (network : Proto.Network) : Data.Network where
  name := network.name
  mac := network.mac
  speed := network.speed
  enabledCapabilities := network.enabledCapabilities

def convertPCI (pci : Proto.PCI) : Data.PCI where
  vendor := pci.vendor
  product := pci.product
  «class» := pci.class
  driver := pci.driver

def convertGPU (gpu : Proto.GPU) : Data.GPU where
  vendor := gpu.vendor
  product := gpu.product
  «class» := gpu.class
  driver := gpu.driver

def convertChassis (chassis : Proto.Chassis) : Data.Chassis where
  serial := chassis.serial
  vendor := chassis.vendor

def convertBIOS (bios : Proto.BIOS) : Data.BIOS where
  vendor := bios.vendor
  version := bios.version
  releaseDate := bios.releaseDate

def convertBaseboard (baseboard : Proto.Baseboard) : Data.Baseboard where
  vendor := baseboard.vendor
  product := baseboard.product
  version := baseboard.version
  serialNumber := baseboard.serialNumber

def convertProduct (product : Proto.Product) : Data.Product where
  name := product.name
  vendor := product.vendor
  serialNumber := product.serialNumber

def newAgentAttributes : Data.AgentAttributes where
  cpu := some {}
  memory := some {}
  chassis := some {}
  bios := some {}
  baseboard := some {}
  product := some {}

def convertSection {α β : Type} (convert : α → β) (initial : Option β) :
    Option α → Option β
  | none => initial
  | some «section» => some (convert «section»)

def convert : Option Proto.AgentAttributes → Option Data.AgentAttributes
  | none => none
  | some pAttr => some
      { cpu := convertSection convertCPU newAgentAttributes.cpu pAttr.cpu
        memory := convertSection convertMemory newAgentAttributes.memory pAttr.memory
        blockDevices := newAgentAttributes.blockDevices ++ pAttr.block.map convertBlock
        networkInterfaces :=
          newAgentAttributes.networkInterfaces ++ pAttr.network.map convertNetwork
        pciDevices := newAgentAttributes.pciDevices ++ pAttr.pci.map convertPCI
        gpuDevices := newAgentAttributes.gpuDevices ++ pAttr.gpu.map convertGPU
        chassis := convertSection convertChassis newAgentAttributes.chassis pAttr.chassis
        bios := convertSection convertBIOS newAgentAttributes.bios pAttr.bios
        baseboard := convertSection convertBaseboard newAgentAttributes.baseboard pAttr.baseboard
        product := convertSection convertProduct newAgentAttributes.product pAttr.product }

def fillSections (a : Data.AgentAttributes) : Data.AgentAttributes :=
  { a with
    cpu := some (a.cpu.getD {})
    memory := some (a.memory.getD {})
    chassis := some (a.chassis.getD {})
    bios := some (a.bios.getD {})
    baseboard := some (a.baseboard.getD {})
    product := some (a.product.getD {}) }

section Mappings

variable {α β : Type} {encode : α → β} {decode : β → α}
  (roundTrip : ∀ value, decode (encode value) = value)
include roundTrip

theorem map_map_roundTrip (values : List α) : (values.map encode).map decode = values := by
  rw [List.map_map]
  exact (List.map_congr_left fun value _ => roundTrip value).trans (List.map_id values)

theorem convertSection_map (initial : α) (sent : Option α) :
    convertSection decode (some initial) (sent.map encode) = some (sent.getD initial) := by
  cases sent with
  | none => rfl
  | some value => exact congrArg some (roundTrip value)

end Mappings

theorem convertProcessor_toProto (p : Data.Processor) :
    convertProcessor (Agent.processorToProto p) = p := rfl

theorem convertCPU_toProto (cpu : Data.CPU) : convertCPU (Agent.cpuToProto cpu) = cpu := by
  have processors := map_map_roundTrip convertProcessor_toProto cpu.processors
  unfold convertCPU Agent.cpuToProto
  simp only [processors]

/-- The server has the attributes that the agent sent, with an empty section for each
one that was absent. -/
theorem attributes_survive_the_wire (attributes : Option Data.AgentAttributes) :
    convert (Agent.toProto attributes) = attributes.map fillSections := by
  cases attributes with
  | none => rfl
  | some a =>
    apply congrArg some
    congr 1
    · exact convertSection_map convertCPU_toProto {} a.cpu
    · apply convertSection_map
      exact fun _ => rfl
    · exact map_map_roundTrip (fun _ => rfl) a.blockDevices
    · exact map_map_roundTrip (fun _ => rfl) a.networkInterfaces
    · exact map_map_roundTrip (fun _ => rfl) a.pciDevices
    · exact map_map_roundTrip (fun _ => rfl) a.gpuDevices
    · apply convertSection_map
      exact fun _ => rfl
    · apply convertSection_map
      exact fun _ => rfl
    · apply convertSection_map
      exact fun _ => rfl
    · apply convertSection_map
      exact fun _ => rfl

end Tinkerbell.Server
