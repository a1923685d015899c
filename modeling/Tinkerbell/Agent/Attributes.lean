import Tinkerbell.Api.Attributes

/-!
Owns: `ToProto`, with which the agent puts its attributes into an action request.
-/

namespace Tinkerbell.Agent

def processorToProto (p : Data.Processor) : Proto.Processor where
  id := p.id
  cores := p.cores
  threads := p.threads
  vendor := p.vendor
  model := p.model
  capabilities := p.capabilities

def cpuToProto (cpu : Data.CPU) : Proto.CPU where
  totalCores := cpu.totalCores
  totalThreads := cpu.totalThreads
  processors := cpu.processors.map processorToProto

def memoryToProto (memory : Data.Memory) : Proto.Memory where
  total := memory.total
  usable := memory.usable

def blockToProto (block : Data.Block) : Proto.Block where
  name := block.name
  controllerType := block.controllerType
  driveType := block.driveType
  size := block.size
  physicalBlockSize := block.physicalBlockSize
  vendor := block.vendor
  model := block.model
  wwn := block.wwn
  serialNumber := block.serialNumber

def networkToProto (nic : Data.Network) : Proto.Network where
  name := nic.name
  mac := nic.mac
  speed := nic.speed
  enabledCapabilities := nic.enabledCapabilities

def pciToProto (p : Data.PCI) : Proto.PCI where
  vendor := p.vendor
  product := p.product
  «class» := p.class
  driver := p.driver

def gpuToProto (g : Data.GPU) : Proto.GPU where
  vendor := g.vendor
  product := g.product
  «class» := g.class
  driver := g.driver

def chassisToProto (chassis : Data.Chassis) : Proto.Chassis where
  serial := chassis.serial
  vendor := chassis.vendor

def biosToProto (bios : Data.BIOS) : Proto.BIOS where
  vendor := bios.vendor
  version := bios.version
  releaseDate := bios.releaseDate

def baseboardToProto (baseboard : Data.Baseboard) : Proto.Baseboard where
  vendor := baseboard.vendor
  product := baseboard.product
  version := baseboard.version
  serialNumber := baseboard.serialNumber

def productToProto (product : Data.Product) : Proto.Product where
  name := product.name
  vendor := product.vendor
  serialNumber := product.serialNumber

def toProto : Option Data.AgentAttributes → Option Proto.AgentAttributes
  | none => none
  | some a => some
      { cpu := a.cpu.map cpuToProto
        memory := a.memory.map memoryToProto
        block := a.blockDevices.map blockToProto
        network := a.networkInterfaces.map networkToProto
        pci := a.pciDevices.map pciToProto
        gpu := a.gpuDevices.map gpuToProto
        chassis := a.chassis.map chassisToProto
        bios := a.bios.map biosToProto
        baseboard := a.baseboard.map baseboardToProto
        product := a.product.map productToProto }

end Tinkerbell.Agent
