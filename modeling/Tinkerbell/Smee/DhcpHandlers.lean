import Tinkerbell.Smee.Dhcp

/-!
Owns: the reply of the reservation handler and of the proxy handler to a client's
packet, given what the backend's lookup by the client's MAC answered.

A reply is what the handlers set on it: the headers by name and the options by
number, with values that are not yet encoded. No reply is `none`.
-/

namespace Tinkerbell.Smee.Dhcp

open NetAddress

inductive OptionValue where
  | messageType (value : MessageType)
  | addresses (values : List Addr)
  | bytes (value : List UInt8)
  | number (value : Nat)
  | text (value : String)
  | texts (values : List String)
  | routes (values : List Route)
  | suboptions (values : KeyedMap Nat (List UInt8))

def optionSubnetMask : Nat := 1
def optionRouter : Nat := 3
def optionDNS : Nat := 6
def optionLogServer : Nat := 7
def optionHostName : Nat := 12
def optionDomainName : Nat := 15
def optionBroadcastAddress : Nat := 28
def optionNTPServers : Nat := 42
def optionVendorSpecific : Nat := 43
def optionLeaseTime : Nat := 51
def optionMessageType : Nat := 53
def optionServerIdentifier : Nat := 54
def optionTFTPServerName : Nat := 66
def optionBootfileName : Nat := 67
def optionDomainSearch : Nat := 119
def optionClasslessStaticRoute : Nat := 121

structure Reply where
  (yourIPAddr serverIPAddr serverHostName : Option Addr := none)
  bootFileName : String := ""
  options : KeyedMap Nat OptionValue := KeyedMap.empty

def Reply.updateOption (reply : Reply) (code : Nat) (value : OptionValue) : Reply :=
  { reply with options := reply.options.set code value }

def Reply.updateOptions (reply : Reply) (values : List (Nat × OptionValue)) : Reply :=
  values.foldl (fun reply option => reply.updateOption option.1 option.2) reply

/-- The netboot part of a handler's configuration. -/
structure NetbootSettings (URL : Type) where
  ipxeBinServerTFTP : AddrPort
  ipxeBinServerHTTP : Option URL
  ipxeScriptURL : Packet → Option URL
  enabled : Bool
  userClass : List UInt8
  injectMacAddrFormat : MACFormat
  ipxeArchMapping : KeyedMap Nat String

structure Settings (URL : Type) where
  (ipAddr syslogAddr : Option Addr)
  otelEnabled : Bool
  netboot : NetbootSettings URL

structure Trace where
  text : String := ""
  bytes : List UInt8 := []

inductive LookupError where
  | notFound
  | other (text : String)

section Handlers

variable {URL : Type} (urls : Urls URL) (settings : Settings URL)

def optionIf (condition : Prop) [Decidable condition] (code : Nat) (value : OptionValue) :
    List (Nat × OptionValue) :=
  if condition then [(code, value)] else []

def dhcpOptions (dhcp : DHCP) : List (Nat × OptionValue) :=
  [(optionLeaseTime, .number dhcp.leaseTime)] ++
  optionIf (dhcp.nameServers ≠ []) optionDNS (.addresses dhcp.nameServers) ++
  optionIf (dhcp.domainSearch ≠ []) optionDomainSearch (.texts dhcp.domainSearch) ++
  optionIf (dhcp.ntpServers ≠ []) optionNTPServers (.addresses dhcp.ntpServers) ++
  optionIf (dhcp.broadcastAddress ≠ none) optionBroadcastAddress
    (.addresses dhcp.broadcastAddress.toList) ++
  optionIf (dhcp.domainName ≠ "") optionDomainName (.text dhcp.domainName) ++
  optionIf (dhcp.hostname ≠ "") optionHostName (.text dhcp.hostname) ++
  optionIf (dhcp.subnetMask ≠ none) optionSubnetMask (.bytes (dhcp.subnetMask.getD [])) ++
  optionIf (dhcp.defaultGateway ≠ none) optionRouter
    (.addresses dhcp.defaultGateway.toList) ++
  optionIf (settings.syslogAddr ≠ none) optionLogServer
    (.addresses settings.syslogAddr.toList) ++
  optionIf (dhcp.classlessStaticRoutes ≠ []) optionClasslessStaticRoute
    (.routes dhcp.classlessStaticRoutes) ++
  optionIf (dhcp.tftpServerName ≠ "") optionTFTPServerName (.text dhcp.tftpServerName) ++
  optionIf (dhcp.bootFileName ≠ "") optionBootfileName (.text dhcp.bootFileName)

def setDHCPOpts (dhcp : DHCP) (reply : Reply) : Reply :=
  let reply := { reply with yourIPAddr := dhcp.ipAddress }.updateOptions
    (dhcpOptions settings dhcp)
  if dhcp.bootFileName ≠ "" then { reply with bootFileName := dhcp.bootFileName } else reply

def bootfileAndNextServer (trace : Trace) (info : Info) (ipxeScript : Option URL) :
    String × Option Addr :=
  let info :=
    if settings.otelEnabled && trace.text != "" then
      { info with ipxeBinary := info.ipxeBinary ++ "-" ++ trace.text }
    else info
  let netboot := settings.netboot
  (bootfile urls info netboot.userClass ipxeScript netboot.ipxeBinServerHTTP
      netboot.ipxeBinServerTFTP,
    nextServer urls info netboot.ipxeBinServerHTTP netboot.ipxeBinServerTFTP
      settings.ipAddr)

def notAllowed : String := "/netboot-not-allowed"

def setNetworkBootOpts (trace : Trace) (packet : Packet) (netboot : Netboot URL)
    (reply : Reply) : Reply :=
  let reply :=
    if clientTypeFrom packet = .httpClient then
      reply.updateOption optionClassIdentifier (.text "HTTPClient")
    else reply
  let reply := { reply with bootFileName := notAllowed, serverIPAddr := some (.v4 0 0 0 0) }
  if netboot.allowNetboot then
    let info := newInfo packet settings.netboot.injectMacAddrFormat netboot.ipxeBinary
      settings.netboot.ipxeArchMapping
    if info.ipxeBinary = "" then reply
    else
      -- the script of the record goes before the global one
      let ipxeScript := netboot.ipxeScriptURL.orElse fun _ =>
        settings.netboot.ipxeScriptURL packet
      let (bootFileName, serverIPAddr) :=
        bootfileAndNextServer urls settings trace info ipxeScript
      let pxe := (KeyedMap.empty.set 6 [8]).set 69 trace.bytes
      { reply with
        bootFileName
        serverIPAddr }.updateOption optionVendorSpecific
          (.suboptions (addRPIOpt43 info.mac pxe))
  else reply

def updateMsg (trace : Trace) (packet : Packet) (dhcp : DHCP) (netboot : Netboot URL)
    (messageType : MessageType) : Reply :=
  let reply : Reply := { serverIPAddr := settings.ipAddr }
  let reply := reply.updateOptions
    [(optionMessageType, .messageType messageType),
      (optionServerIdentifier, .addresses settings.ipAddr.toList)]
  let reply := setDHCPOpts settings dhcp reply
  if settings.netboot.enabled ∧ isNetbootClient packet = [] ∧ dhcp.tftpServerName = "" ∧
      dhcp.bootFileName = "" then
    setNetworkBootOpts urls settings trace packet netboot reply
  else reply

def readBackend (lookup : Except LookupError Api.Hardware) (mac : List UInt8) :
    Option (DHCP × Netboot URL) :=
  match lookup with
  | .error _ => none
  | .ok hardware =>
    match convertByMac urls mac hardware with
    | .error _ => none
    | .ok converted => some (converted.dhcp, converted.netboot)

def reservationReply (trace : Trace) (lookup : Except LookupError Api.Hardware)
    (packet : Packet) (messageType : MessageType) : Option Reply :=
  match readBackend urls lookup packet.clientHWAddr with
  | none => none
  | some (dhcp, netboot) =>
    if dhcp.disabled then none
    else some (updateMsg urls settings trace packet dhcp netboot messageType)

def reservationHandle (trace : Trace) (lookup : Except LookupError Api.Hardware)
    (packet : Packet) : Option Reply :=
  match packet.messageType with
  | .discover => reservationReply urls settings trace lookup packet .offer
  | .request => reservationReply urls settings trace lookup packet .ack
  | _ => none

def setMessageType : MessageType → Option MessageType
  | .discover => some .offer
  | .request => some .ack
  | _ => none

/-- The record the proxy handler goes on with: `none` ignores the packet, `some none`
goes on with the defaults. -/
def proxyRecord (autoProxyEnabled : Bool) (lookup : Except LookupError Api.Hardware)
    (mac : List UInt8) : Option (Option (Hardware URL)) :=
  match lookup with
  | .error _ => if autoProxyEnabled then some none else none
  | .ok hardware =>
    match convertByMac urls mac hardware with
    | .error _ => if autoProxyEnabled then some none else none
    | .ok converted => some (some converted)

def notAllowedFor (mac : List UInt8) : String :=
  "/" ++ macString mac ++ notAllowed

def clientTypeText : ClientType → String
  | .unset => ""
  | .pxeClient => "PXEClient"
  | .httpClient => "HTTPClient"

def proxyReply (packet : Packet) (info : Info) (messageType : MessageType) : Reply :=
  let netboot := settings.netboot
  let server := nextServer urls info netboot.ipxeBinServerHTTP netboot.ipxeBinServerTFTP
    settings.ipAddr
  let reply : Reply := { serverIPAddr := server, serverHostName := server }
  reply.updateOptions
    [(optionMessageType, .messageType messageType),
      (optionClientMachine, .bytes ((packet.options.get optionClientMachine).getD [])),
      (optionVendorSpecific, .suboptions (addRPIOpt43 info.mac (KeyedMap.empty.set 6 [8]))),
      (optionClassIdentifier, .text (clientTypeText info.clientType)),
      (optionServerIdentifier, .addresses server.toList)]

def proxyBootFile (packet : Packet) (info : Info) (record : Option (Hardware URL)) : String :=
  let info :=
    match record with
    | none => info
    | some hardware =>
      if hardware.netboot.ipxeBinary = "" then info
      else { info with ipxeBinary := hardware.netboot.ipxeBinary }
  if record.any fun hardware => !hardware.netboot.allowNetboot then
    notAllowedFor packet.clientHWAddr
  else
    bootfile urls info [] (settings.netboot.ipxeScriptURL packet)
      settings.netboot.ipxeBinServerHTTP settings.netboot.ipxeBinServerTFTP

def proxyInfo (packet : Packet) : Info :=
  newInfo packet settings.netboot.injectMacAddrFormat "" settings.netboot.ipxeArchMapping

def proxyHandle (autoProxyEnabled : Bool) (lookup : Except LookupError Api.Hardware)
    (packet : Packet) : Option Reply :=
  if packet.opCode ≠ .bootRequest then none
  else
    match setMessageType packet.messageType with
    | none => none
    | some messageType =>
      if !settings.netboot.enabled then none
      else if isNetbootClient packet ≠ [] then none
      else if (proxyInfo settings packet).ipxeBinary = "" then none
      else
        match proxyRecord urls autoProxyEnabled lookup packet.clientHWAddr with
        | none => none
        | some record =>
          some
            { proxyReply urls settings packet (proxyInfo settings packet) messageType with
              bootFileName :=
                proxyBootFile urls settings packet (proxyInfo settings packet) record }

inductive Mode where
  | reservation
  | proxy
  | autoProxy

def handle (mode : Mode) (trace : Trace) (lookup : Except LookupError Api.Hardware)
    (packet : Packet) : Option Reply :=
  match mode with
  | .reservation => reservationHandle urls settings trace lookup packet
  | .proxy => proxyHandle urls settings false lookup packet
  | .autoProxy => proxyHandle urls settings true lookup packet

end Handlers

end Tinkerbell.Smee.Dhcp
