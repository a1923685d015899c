import Tinkerbell.Api.Hardware
import Tinkerbell.Library.NetAddress

/-!
Owns: the conversion of a `Hardware` object into the data the DHCP handlers and
the iPXE script server work with, and when it fails.

One interface of the object is converted: the first one with the client's MAC, in
exactly the spelling the server prints it, or the first one with its IP. A field
that does not parse fails the whole conversion, whatever the field has to do with
(`convertInterface_ok_iff`).

Does not own: the lookup of the object. The URL library is a parameter.
-/

namespace Tinkerbell.Smee.Dhcp

open NetAddress

structure AddrPort where
  addr : Addr
  port : Nat

structure Urls (URL : Type) where
  (parse parseRequestURI : String → Option URL)
  (text scheme hostname : URL → String)
  joinPath : URL → List String → URL
  tftp : AddrPort → URL

structure Route where
  destination : Addr × Nat
  router : Addr

structure DHCP where
  macAddress : List UInt8
  ipAddress : Option Addr
  subnetMask : Option (List UInt8)
  defaultGateway : Option Addr
  nameServers : List Addr
  (hostname domainName : String)
  broadcastAddress : Option Addr
  ntpServers : List Addr
  vlanID : String
  leaseTime : Nat
  (tftpServerName bootFileName arch : String)
  domainSearch : List String
  classlessStaticRoutes : List Route
  disabled : Bool

structure OSIE (URL : Type) where
  baseURL : Option URL := none
  (kernel initrd : String := "")
  kernelParams : List String := []

structure Netboot (URL : Type) where
  allowNetboot : Bool
  ipxeScriptURL : Option URL
  (ipxeScript ipxeBinary facility : String)
  osie : OSIE URL
  pxelinux : Api.PXELINUX
  rpi : Api.RPI

structure Hardware (URL : Type) where
  agentID : String
  dhcp : DHCP
  netboot : Netboot URL
  sourceISO : Option URL

inductive ConvertError where
  | noDHCPData
  | mac (text : String)
  | address (text : String)
  | noNetmask
  | netmaskNotIPv4
  | netmaskNotApplicable
  | gateway (text : String)
  | destination (text : String)
  | router (text : String)
  | noNetbootData
  | ipxeURL (text : String)
  | sourceISO (text : String)

def parsed {α : Type} (error : ConvertError) : Option α → Except ConvertError α
  | none => .error error
  | some value => .ok value

def readMAC (mac : String) : Except ConvertError (List UInt8) :=
  if mac = "" then .ok [] else parsed (.mac mac) (parseMAC mac)

def readNetmask (addr : Addr) (netmask : String) :
    Except ConvertError (Option (List UInt8)) :=
  if (to4 addr).isSome then
    match parseIP netmask with
    | none => .error .noNetmask
    | some mask => (parsed .netmaskNotIPv4 (to4 mask)).map some
  else if netmask ≠ "" then .error .netmaskNotApplicable
  else .ok none

def readIP : Option Api.IP → Except ConvertError (Option Addr × Option (List UInt8))
  | none => .ok (none, none)
  | some ip => do
      let addr ← parsed (.address ip.address) (parseAddr ip.address)
      let mask ← readNetmask addr ip.netmask
      .ok (some addr, mask)

def readGateway : Option Api.IP → Except ConvertError (Option Addr)
  | none => .ok none
  | some ip =>
    if ip.gateway = "" then .ok none
    else (parsed (.gateway ip.gateway) (parseAddr ip.gateway)).map some

def readRoute (route : Api.ClasslessStaticRoute) : Except ConvertError Route := do
  let destination ← parsed (.destination route.destinationDescriptor)
    (parseCIDR route.destinationDescriptor)
  let router ← parsed (.router route.router) (parseIP route.router)
  .ok ⟨destination, router⟩

def readRoutes : List Api.ClasslessStaticRoute → Except ConvertError (List Route)
  | [] => .ok []
  | route :: rest => do
      let first ← readRoute route
      let later ← readRoutes rest
      .ok (first :: later)

def broadcast : Option Addr → Option (List UInt8) → Option Addr
  | some (.v4 a b c d), some [maskA, maskB, maskC, maskD] =>
    some (.v4 (a ||| ~~~maskA) (b ||| ~~~maskB) (c ||| ~~~maskC) (d ||| ~~~maskD))
  | _, _ => none

def defaultLeaseTime : Nat := 604800

def leaseTime (seconds : Int) : Nat :=
  if 0 ≤ seconds ∧ seconds ≤ 4294967295 then seconds.toNat else defaultLeaseTime

def toDHCPData : Option Api.DHCP → Except ConvertError DHCP
  | none => .error .noDHCPData
  | some h => do
      let macAddress ← readMAC h.mac
      let (ipAddress, subnetMask) ← readIP h.ip
      let defaultGateway ← readGateway h.ip
      let classlessStaticRoutes ← readRoutes h.classlessStaticRoutes
      .ok
        { macAddress
          ipAddress
          subnetMask
          defaultGateway
          nameServers := h.nameServers.filterMap parseIP
          hostname := h.hostname
          domainName := h.domainName
          broadcastAddress := broadcast ipAddress subnetMask
          ntpServers := h.timeServers.filterMap parseIP
          vlanID := h.vlanID
          leaseTime := leaseTime h.leaseTime
          tftpServerName := h.tftpServerName
          bootFileName := h.bootFileName
          arch := h.arch
          domainSearch := if h.domainName = "" then [] else [h.domainName]
          classlessStaticRoutes
          disabled := false }

section Convert

variable {URL : Type} (urls : Urls URL)

def readURL (parse : String → Option URL) (error : String → ConvertError) (text : String) :
    Except ConvertError (Option URL) :=
  if text = "" then .ok none else (parsed (error text) (parse text)).map some

def toOSIE : Option Api.OSIE → OSIE URL
  | none => {}
  | some osie =>
    { baseURL := urls.parse osie.baseURL
      kernel := osie.kernel
      initrd := osie.initrd
      kernelParams := osie.kernelParams }

def toNetbootData (facility : String) :
    Option Api.Netboot → Except ConvertError (Netboot URL)
  | none => .error .noNetbootData
  | some netboot => do
      let ipxe := netboot.ipxe.getD {}
      let ipxeScriptURL ← readURL urls.parseRequestURI .ipxeURL ipxe.url
      .ok
        { allowNetboot := netboot.allowPXE.getD false
          ipxeScriptURL
          ipxeScript := ipxe.contents
          ipxeBinary := ipxe.binary
          facility
          osie := toOSIE urls netboot.osie
          pxelinux := netboot.pxelinux.getD {}
          rpi := netboot.rpi.getD {} }

def facilityOf (metadata : Option Api.HardwareMetadata) : String :=
  (metadata.bind Api.HardwareMetadata.facilityCode).getD ""

def transform (interface : Api.Interface) (metadata : Option Api.HardwareMetadata) :
    Except ConvertError (DHCP × Netboot URL) := do
  let dhcp ← toDHCPData interface.dhcp
  let netboot ← toNetbootData urls (facilityOf metadata) interface.netboot
  .ok ({ dhcp with disabled := interface.disableDhcp }, netboot)

def convertInterface (hardware : Api.Hardware) (interface : Api.Interface) :
    Except ConvertError (Hardware URL) := do
  let (dhcp, netboot) ← transform urls interface hardware.spec.metadata
  let isoboot := interface.isoboot.getD {}
  let sourceISO ← readURL urls.parse .sourceISO isoboot.sourceISO
  .ok
    { agentID := hardware.spec.agentID
      dhcp
      netboot
      sourceISO }

def interfaceByMac (mac : List UInt8) (hardware : Api.Hardware) : Option Api.Interface :=
  hardware.spec.interfaces.find? fun interface =>
    interface.dhcp.any fun dhcp => dhcp.mac == macString mac

def interfaceByIP (ip : String) (hardware : Api.Hardware) : Option Api.Interface :=
  hardware.spec.interfaces.find? fun interface =>
    interface.dhcp.any fun dhcp => dhcp.ip.any fun address => address.address == ip

def convertByMac (mac : List UInt8) (hardware : Api.Hardware) :
    Except ConvertError (Hardware URL) :=
  convertInterface urls hardware ((interfaceByMac mac hardware).getD {})

def convertByIP (ip : String) (hardware : Api.Hardware) :
    Except ConvertError (Hardware URL) :=
  convertInterface urls hardware ((interfaceByIP ip hardware).getD {})

end Convert

def ValidMAC (mac : String) : Prop :=
  mac = "" ∨ (parseMAC mac).isSome

def ValidIP (ip : Api.IP) : Prop :=
  (∃ addr, parseAddr ip.address = some addr ∧
    if (to4 addr).isSome then ∃ mask, parseIP ip.netmask = some mask ∧ (to4 mask).isSome
    else ip.netmask = "") ∧
  (ip.gateway = "" ∨ (parseAddr ip.gateway).isSome)

def ValidRoute (route : Api.ClasslessStaticRoute) : Prop :=
  (parseCIDR route.destinationDescriptor).isSome ∧ (parseIP route.router).isSome

structure ValidDHCP (dhcp : Api.DHCP) : Prop where
  mac : ValidMAC dhcp.mac
  ip : ∀ ip ∈ dhcp.ip, ValidIP ip
  routes : ∀ route ∈ dhcp.classlessStaticRoutes, ValidRoute route

/-- An interface whose sections are there and whose fields parse. -/
structure Convertible {URL : Type} (urls : Urls URL) (interface : Api.Interface) : Prop where
  dhcp : ∃ dhcp, interface.dhcp = some dhcp ∧ ValidDHCP dhcp
  netboot : ∃ netboot, interface.netboot = some netboot ∧
    ∀ ipxe ∈ netboot.ipxe, ipxe.url = "" ∨ (urls.parseRequestURI ipxe.url).isSome
  isoboot : ∀ isoboot ∈ interface.isoboot,
    isoboot.sourceISO = "" ∨ (urls.parse isoboot.sourceISO).isSome

def Converts {α : Type} (outcome : Except ConvertError α) : Prop :=
  ∃ result, outcome = .ok result

variable {α β : Type}

variable {error : ConvertError} {value : Option α} {outcome : Except ConvertError α}
  {next : α → Except ConvertError β}

theorem parsed_eq_ok {result : α} : parsed error value = .ok result ↔ value = some result := by
  cases value with
  | none | some value => simp [parsed]

theorem converts_parsed : Converts (parsed error value) ↔ value.isSome := by
  simp only [Converts, parsed_eq_ok, Option.isSome_iff_exists]

theorem converts_map {change : α → β} : Converts (outcome.map change) ↔ Converts outcome := by
  cases outcome with
  | error error | ok value => simp [Converts, Except.map]

theorem converts_bind :
    Converts (outcome >>= next) ↔ ∃ value, outcome = .ok value ∧ Converts (next value) := by
  cases outcome with
  | error error | ok value => simp [Converts, Bind.bind, Except.bind]

theorem converts_bind_of {condition : Prop}
    (independent : ∀ value, Converts (next value) ↔ condition) :
    Converts (outcome >>= next) ↔ Converts outcome ∧ condition := by
  rw [converts_bind]
  constructor
  · rintro ⟨value, isValue, later⟩
    exact ⟨⟨value, isValue⟩, (independent value).mp later⟩
  · rintro ⟨⟨value, isValue⟩, holds⟩
    exact ⟨value, isValue, (independent value).mpr holds⟩

theorem converts_ok (value : α) : Converts (.ok value) ↔ True :=
  iff_true_intro ⟨value, rfl⟩

theorem converts_error (error : ConvertError) :
    Converts (.error error : Except ConvertError α) ↔ False := by
  simp [Converts]

private theorem readMAC_converts (mac : String) : Converts (readMAC mac) ↔ ValidMAC mac := by
  unfold readMAC ValidMAC
  split
  · next empty => simp [converts_ok, empty]
  · next given => simp [converts_parsed, given]

private theorem readNetmask_converts (addr : Addr) (netmask : String) :
    Converts (readNetmask addr netmask) ↔
      if (to4 addr).isSome then ∃ mask, parseIP netmask = some mask ∧ (to4 mask).isSome
      else netmask = "" := by
  unfold readNetmask
  split
  · cases parseIP netmask with
    | none => simp [converts_error]
    | some => simp [converts_map, converts_parsed]
  · split
    · next given => simp [converts_error, given]
    · next empty => simp [converts_ok, not_not.mp empty]

private theorem readIP_converts (ip : Api.IP) :
    Converts (readIP (some ip)) ↔ ∃ addr, parseAddr ip.address = some addr ∧
      if (to4 addr).isSome then ∃ mask, parseIP ip.netmask = some mask ∧ (to4 mask).isSome
      else ip.netmask = "" := by
  unfold readIP
  rw [converts_bind]
  apply exists_congr
  intro addr
  rw [parsed_eq_ok, converts_bind_of fun mask => converts_ok (some addr, mask),
    readNetmask_converts, and_true]

private theorem readGateway_converts (ip : Api.IP) :
    Converts (readGateway (some ip)) ↔ ip.gateway = "" ∨ (parseAddr ip.gateway).isSome := by
  show Converts (if ip.gateway = "" then _ else _) ↔ _
  split
  · next empty => simp [converts_ok, empty]
  · next given => simp [converts_map, converts_parsed, given]

private theorem ip_converts (ip : Option Api.IP) :
    Converts (readIP ip) ∧ Converts (readGateway ip) ↔ ∀ given ∈ ip, ValidIP given := by
  cases ip with
  | none => simp [readIP, readGateway, converts_ok]
  | some =>
    rw [readIP_converts, readGateway_converts]
    simp only [Option.mem_some_iff, forall_eq']
    rfl

private theorem readRoute_converts (route : Api.ClasslessStaticRoute) :
    Converts (readRoute route) ↔ ValidRoute route := by
  unfold readRoute ValidRoute
  rw [converts_bind_of fun destination =>
    converts_bind_of fun router => converts_ok (Route.mk destination router)]
  simp only [converts_parsed, and_true]

private theorem readRoutes_converts (routes : List Api.ClasslessStaticRoute) :
    Converts (readRoutes routes) ↔ ∀ route ∈ routes, ValidRoute route := by
  induction routes with
  | nil => simp [readRoutes, converts_ok]
  | cons _ _ ih =>
    unfold readRoutes
    rw [converts_bind_of fun first =>
        converts_bind_of fun later => converts_ok (first :: later),
      readRoute_converts, ih, List.forall_mem_cons, and_true]

private theorem toDHCPData_converts (dhcp : Option Api.DHCP) :
    Converts (toDHCPData dhcp) ↔ ∃ given, dhcp = some given ∧ ValidDHCP given := by
  cases dhcp with
  | none => simp [toDHCPData, converts_error]
  | some dhcp =>
    unfold toDHCPData
    rw [converts_bind_of fun _ => converts_bind_of fun _ => converts_bind_of fun _ =>
      converts_bind_of fun _ => converts_ok _]
    rw [readMAC_converts, readRoutes_converts, and_true, ← and_assoc (c := ∀ route ∈ _, _),
      ip_converts]
    constructor
    · rintro ⟨mac, ip, routes⟩
      exact ⟨dhcp, rfl, mac, ip, routes⟩
    · rintro ⟨_, isGiven, valid⟩
      cases isGiven
      exact ⟨valid.mac, valid.ip, valid.routes⟩

section Interface

variable {URL : Type} (urls : Urls URL)

theorem readURL_converts (parse : String → Option URL) (error : String → ConvertError)
    (text : String) :
    Converts (readURL parse error text) ↔ text = "" ∨ (parse text).isSome := by
  unfold readURL
  split
  · next empty => simp [converts_ok, empty]
  · next given => simp [converts_map, converts_parsed, given]

theorem forall_section_iff (condition : α → Prop) {absent : α} (atAbsent : condition absent)
    (given : Option α) :
    condition (given.getD absent) ↔ ∀ value ∈ given, condition value := by
  cases given with
  | none => simp [atAbsent]
  | some => simp

private theorem toNetbootData_converts (facility : String) (netboot : Option Api.Netboot) :
    Converts (toNetbootData urls facility netboot) ↔
      ∃ given, netboot = some given ∧
        ∀ ipxe ∈ given.ipxe, ipxe.url = "" ∨ (urls.parseRequestURI ipxe.url).isSome := by
  cases netboot with
  | none => simp [toNetbootData, converts_error]
  | some netboot =>
    have url := @forall_section_iff Api.IPXE
      (fun ipxe => ipxe.url = "" ∨ (urls.parseRequestURI ipxe.url).isSome) {} (Or.inl rfl)
      netboot.ipxe
    unfold toNetbootData
    rw [converts_bind_of fun _ => converts_ok _, readURL_converts, and_true, url]
    simp

theorem convertInterface_ok_iff (hardware : Api.Hardware) (interface : Api.Interface) :
    Converts (convertInterface urls hardware interface) ↔ Convertible urls interface := by
  have isoboot : Converts (readURL urls.parse .sourceISO (interface.isoboot.getD {}).sourceISO) ↔
      ∀ isoboot ∈ interface.isoboot,
        isoboot.sourceISO = "" ∨ (urls.parse isoboot.sourceISO).isSome := by
    rw [readURL_converts]
    exact @forall_section_iff Api.Isoboot
      (fun isoboot => isoboot.sourceISO = "" ∨ (urls.parse isoboot.sourceISO).isSome) {}
      (Or.inl rfl) _
  unfold convertInterface transform
  rw [converts_bind_of fun _ => converts_bind_of fun _ => converts_ok _, isoboot,
    converts_bind_of fun _ => converts_bind_of fun _ => converts_ok _,
    toDHCPData_converts, toNetbootData_converts, and_true, and_true]
  constructor
  · rintro ⟨⟨dhcp, netboot⟩, isoboot⟩
    exact ⟨dhcp, netboot, isoboot⟩
  · intro convertible
    exact ⟨⟨convertible.dhcp, convertible.netboot⟩, convertible.isoboot⟩

omit urls in
theorem bind_eq_ok {result : β} (isResult : (outcome >>= next) = .ok result) :
    ∃ value, outcome = .ok value ∧ next value = .ok result := by
  cases outcome with
  | error => cases isResult
  | ok value => exact ⟨value, rfl, isResult⟩

omit urls in
private theorem toDHCPData_keeps {dhcp : Option Api.DHCP} {converted : DHCP}
    (isConverted : toDHCPData dhcp = .ok converted) :
    ∃ given, dhcp = some given ∧ converted.tftpServerName = given.tftpServerName ∧
      converted.bootFileName = given.bootFileName := by
  cases dhcp with
  | none => cases isConverted
  | some given =>
    obtain ⟨_, _, isConverted⟩ := bind_eq_ok isConverted
    obtain ⟨_, _, isConverted⟩ := bind_eq_ok isConverted
    obtain ⟨_, _, isConverted⟩ := bind_eq_ok isConverted
    obtain ⟨_, _, isConverted⟩ := bind_eq_ok isConverted
    cases isConverted
    exact ⟨given, rfl, rfl, rfl⟩

private theorem toNetbootData_keeps {facility : String} {netboot : Option Api.Netboot}
    {converted : Netboot URL} (isConverted : toNetbootData urls facility netboot = .ok converted) :
    ∃ given, netboot = some given ∧ converted.allowNetboot = given.allowPXE.getD false := by
  cases netboot with
  | none => cases isConverted
  | some given =>
    obtain ⟨_, _, isConverted⟩ := bind_eq_ok isConverted
    cases isConverted
    exact ⟨given, rfl, rfl⟩

theorem convertInterface_keeps {hardware : Api.Hardware} {interface : Api.Interface}
    {converted : Hardware URL}
    (isConverted : convertInterface urls hardware interface = .ok converted) :
    ∃ dhcp netboot, interface.dhcp = some dhcp ∧ interface.netboot = some netboot ∧
      converted.dhcp.tftpServerName = dhcp.tftpServerName ∧
      converted.dhcp.bootFileName = dhcp.bootFileName ∧
      converted.netboot.allowNetboot = netboot.allowPXE.getD false := by
  obtain ⟨_, isTransformed, isConverted⟩ := bind_eq_ok isConverted
  obtain ⟨_, _, isConverted⟩ := bind_eq_ok isConverted
  obtain ⟨_, isDHCP, isTransformed⟩ := bind_eq_ok isTransformed
  obtain ⟨_, isNetboot, isTransformed⟩ := bind_eq_ok isTransformed
  cases isTransformed
  cases isConverted
  obtain ⟨givenDHCP, isGiven, tftp, bootFile⟩ := toDHCPData_keeps isDHCP
  obtain ⟨givenNetboot, isGivenNetboot, allow⟩ := toNetbootData_keeps urls isNetboot
  exact ⟨givenDHCP, givenNetboot, isGiven, isGivenNetboot, tftp, bootFile, allow⟩

end Interface

/-- A URL library on plain texts, for the samples of the modules above. -/
def plainUrls : Urls String where
  parse := some
  parseRequestURI := some
  text := id
  scheme := fun _ => "http"
  hostname := id
  joinPath := fun url paths => "/".intercalate (url :: paths)
  tftp := fun _ => "tftp:"

end Tinkerbell.Smee.Dhcp
