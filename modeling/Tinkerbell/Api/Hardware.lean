import Tinkerbell.Api.Time
import Tinkerbell.Library.KeyedMap

/-!
Owns: the part of a `Hardware` object that the server, the controllers and the
boot services read and write: the network interfaces with their netboot, ISO
and DHCP sections, the reference to the BMC machine, the facility and the
instance with its SSH keys, the disks, the user and vendor data, and whether
automatic enrollment is allowed.
-/

namespace Tinkerbell.Api

structure IPXE where
  (url contents binary : String := "")
deriving DecidableEq

structure OSIE where
  (baseURL kernel initrd : String := "")
  kernelParams : List String := []
deriving DecidableEq

structure PXELINUX where
  config : String := ""
deriving DecidableEq

structure RPI where
  (serialNum firmwarePath configTxt : String := "")
deriving DecidableEq

/-- The netboot section of an interface. -/
structure Netboot where
  (allowPXE allowWorkflow : Option Bool := none)
  ipxe : Option IPXE := none
  osie : Option OSIE := none
  pxelinux : Option PXELINUX := none
  rpi : Option RPI := none
deriving DecidableEq

structure IP where
  (address netmask gateway : String := "")
deriving DecidableEq

structure ClasslessStaticRoute where
  (destinationDescriptor router : String)
deriving DecidableEq

/-- The DHCP section of an interface. -/
structure DHCP where
  (mac hostname domainName : String := "")
  leaseTime : Int := 0
  (nameServers timeServers : List String := [])
  arch : String := ""
  uefi : Bool := false
  ip : Option IP := none
  vlanID : String := ""
  classlessStaticRoutes : List ClasslessStaticRoute := []
  (tftpServerName bootFileName : String := "")
deriving DecidableEq

structure Isoboot where
  sourceISO : String := ""
deriving DecidableEq

structure Interface where
  netboot : Option Netboot := none
  isoboot : Option Isoboot := none
  dhcp : Option DHCP := none
  disableDhcp : Bool := false
deriving DecidableEq

structure AutoCapabilities where
  enrollmentEnabled : Bool := false
deriving DecidableEq

structure Disk where
  device : String := ""
deriving DecidableEq

structure MetadataInstance where
  id : String := ""
  sshKeys : List String := []
deriving DecidableEq

structure HardwareMetadata where
  facilityCode : Option String := none
  «instance» : Option MetadataInstance := none
deriving DecidableEq

structure HardwareSpec where
  agentID : String := ""
  auto : AutoCapabilities := {}
  bmcRef : Option String := none
  interfaces : List Interface := []
  metadata : Option HardwareMetadata := none
  disks : List Disk := []
  (userData vendorData : Option String := none)
deriving DecidableEq

structure Hardware where
  (name «namespace» : String)
  (labels annotations : KeyedMap String String := KeyedMap.empty)
  spec : HardwareSpec := {}
deriving DecidableEq

end Tinkerbell.Api
