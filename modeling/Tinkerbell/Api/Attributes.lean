import Mathlib.Data.List.Basic

/-!
Owns: the attributes of an agent's machine, as the programs hold them (`Data`) and as
they travel in an action request (`Proto`).

A missing value is `none`. Absent and empty lists are the same, and no list holds a nil
element: the wire format cannot carry one.
-/

namespace Tinkerbell.Data

structure Processor where
  (id cores threads : Option UInt32 := none)
  (vendor model : Option String := none)
  capabilities : List String := []

structure CPU where
  (totalCores totalThreads : Option UInt32 := none)
  processors : List Processor := []

structure Memory where
  (total usable : Option String := none)

structure Block where
  (name controllerType driveType size physicalBlockSize vendor model wwn serialNumber :
    Option String := none)

structure Network where
  (name mac speed : Option String := none)
  enabledCapabilities : List String := []

structure PCI where
  (vendor product «class» driver : Option String := none)

structure GPU where
  (vendor product «class» driver : Option String := none)

structure Chassis where
  (serial vendor : Option String := none)

structure BIOS where
  (vendor version releaseDate : Option String := none)

structure Baseboard where
  (vendor product version serialNumber : Option String := none)

structure Product where
  (name vendor serialNumber : Option String := none)

structure AgentAttributes where
  cpu : Option CPU := none
  memory : Option Memory := none
  blockDevices : List Block := []
  networkInterfaces : List Network := []
  pciDevices : List PCI := []
  gpuDevices : List GPU := []
  chassis : Option Chassis := none
  bios : Option BIOS := none
  baseboard : Option Baseboard := none
  product : Option Product := none

end Tinkerbell.Data

namespace Tinkerbell.Proto

structure Processor where
  (id cores threads : Option UInt32 := none)
  (vendor model : Option String := none)
  capabilities : List String := []

structure CPU where
  (totalCores totalThreads : Option UInt32 := none)
  processors : List Processor := []

structure Memory where
  (total usable : Option String := none)

structure Block where
  (name controllerType driveType size physicalBlockSize vendor model wwn serialNumber :
    Option String := none)

structure Network where
  (name mac speed : Option String := none)
  enabledCapabilities : List String := []

structure PCI where
  (vendor product «class» driver : Option String := none)

structure GPU where
  (vendor product «class» driver : Option String := none)

structure Chassis where
  (serial vendor : Option String := none)

structure BIOS where
  (vendor version releaseDate : Option String := none)

structure Baseboard where
  (vendor product version serialNumber : Option String := none)

structure Product where
  (name vendor serialNumber : Option String := none)

structure AgentAttributes where
  cpu : Option CPU := none
  memory : Option Memory := none
  block : List Block := []
  network : List Network := []
  pci : List PCI := []
  gpu : List GPU := []
  chassis : Option Chassis := none
  bios : Option BIOS := none
  baseboard : Option Baseboard := none
  product : Option Product := none

end Tinkerbell.Proto
