import Tinkerbell.Library.PatternSearch
import Tinkerbell.Smee.Convert

/-!
Owns: what the DHCP handlers read of a client's packet, and the boot file and next
server they derive from it.

A packet is taken as the DHCP library presents it: decoded message type and
architectures, each with the name the library prints for it, and the options by
their number. Texts in options are bytes, as on the wire.
-/

namespace Tinkerbell.Smee.Dhcp

open NetAddress

inductive OpCode where
  | bootRequest
  | bootReply
  | other
deriving DecidableEq

inductive MessageType where
  | none
  | discover
  | offer
  | request
  | decline
  | ack
  | nak
  | release
  | inform
deriving DecidableEq

structure Arch where
  code : Nat
  name : String

structure Packet where
  opCode : OpCode
  messageType : MessageType
  clientHWAddr : List UInt8
  clientArch : List Arch
  options : KeyedMap Nat (List UInt8)

def optionClassIdentifier : Nat := 60
def optionUserClass : Nat := 77
def optionClientArch : Nat := 93
def optionClientNetworkInterface : Nat := 94
def optionClientMachine : Nat := 97

def ascii (text : String) : List UInt8 :=
  text.toList.map fun c => c.toNat.toUInt8

def isRaspberryPI (mac : List UInt8) : Bool :=
  [[0xb8, 0x27, 0xeb], [0xdc, 0xa6, 0x32], [0xe4, 0x5f, 0x01], [0x28, 0xcd, 0xc1],
    [0xd8, 0x3a, 0xdd]].any fun vendor => vendor.isPrefixOf mac

def Arch.isKnown (arch : Arch) : Bool :=
  (PatternSearch.index "unknown".toList arch.name.toList).isNone

def rpiArch : Nat := 41
def unknownArch : Nat := 255

def archOf (packet : Packet) : Nat :=
  if isRaspberryPI packet.clientHWAddr then rpiArch
  else ((packet.clientArch.find? Arch.isKnown).map Arch.code).getD unknownArch

def undionly : String := "undionly.kpxe"
def ipxeEFI : String := "ipxe.efi"
def snpARM64 : String := "snp-arm64.efi"

def archToBootFile : KeyedMap Nat String :=
  ⟨[(0, undionly), (1, undionly), (2, undionly), (3, undionly), (4, undionly), (5, undionly),
    (6, ipxeEFI), (7, ipxeEFI), (8, ipxeEFI), (9, ipxeEFI), (10, snpARM64), (11, snpARM64),
    (15, ipxeEFI), (16, ipxeEFI), (18, snpARM64), (19, snpARM64), (20, undionly),
    (rpiArch, snpARM64)], by decide⟩

def ipxeBinaryFrom (arch : Nat) (override : KeyedMap Nat String) : String :=
  ((archToBootFile.copy override).get arch).getD ""

inductive ClientType where
  | unset
  | pxeClient
  | httpClient
deriving DecidableEq

def userClassFrom (packet : Packet) : List UInt8 :=
  (packet.options.get optionUserClass).getD []

def clientTypeFrom (packet : Packet) : ClientType :=
  match packet.options.get optionClassIdentifier with
  | none => .unset
  | some value =>
    if (ascii "HTTPClient").isPrefixOf value then .httpClient else .pxeClient

def guidErrors (guid : List UInt8) : List String :=
  if guid.length = 0 then []
  else if guid.length = 17 then
    if guid.head? ≠ some 0 then ["option 97 does not start with 0"] else []
  else ["option 97 has invalid length (must be 0 or 17)"]

/-- `IsNetbootClient`: the reasons why a packet is not from a netboot client, which
the source wraps into one error. -/
def isNetbootClient (packet : Packet) : List String :=
  let has := fun code => (packet.options.get code).isSome
  let class60 := (packet.options.get optionClassIdentifier).getD []
  (if packet.messageType ≠ .discover ∧ packet.messageType ≠ .request then
    ["message type must be either Discover or Request"] else []) ++
  (if has optionClassIdentifier then [] else ["option 60 not set"]) ++
  (if (ascii "PXEClient").isPrefixOf class60 || (ascii "HTTPClient").isPrefixOf class60 then []
    else ["option 60 not PXEClient or HTTPClient"]) ++
  (if has optionClientArch then [] else ["option 93 not set"]) ++
  (if has optionClientNetworkInterface then [] else ["option 94 not set"]) ++
  guidErrors ((packet.options.get optionClientMachine).getD [])

inductive MACFormat where
  | colon
  | dot
  | dash
  | noDelimiter
  | empty

def dotText : List UInt8 → List Char
  | [] => []
  | [octet] => octetText octet
  | [first, second] => octetText first ++ octetText second
  | first :: second :: rest => octetText first ++ octetText second ++ '.' :: dotText rest

def macAddrFormat (mac : List UInt8) : MACFormat → String
  | .colon => macString mac
  | .dot => String.ofList (dotText mac)
  | .dash => String.ofList (['-'].intercalate (mac.map octetText))
  | .noDelimiter => String.ofList (mac.flatMap octetText)
  | .empty => ""

structure Info where
  packet : Packet
  arch : Nat
  (mac userClass : List UInt8)
  clientType : ClientType
  ipxeBinary : String
  macAddrFormat : MACFormat

def newInfo (packet : Packet) (format : MACFormat) (binary : String)
    (archMapping : KeyedMap Nat String) : Info :=
  { packet
    arch := archOf packet
    mac := packet.clientHWAddr
    userClass := userClassFrom packet
    clientType := clientTypeFrom packet
    ipxeBinary := if binary = "" then ipxeBinaryFrom (archOf packet) archMapping else binary
    macAddrFormat := format }

def noScriptDefined : String := "/no-ipxe-script-defined"

section Urls

variable {URL : Type} (urls : Urls URL)

/-- `Bootfile`; the order of the cases gets a client out of a boot loop. -/
def bootfile (info : Info) (customUserClass : List UInt8)
    (ipxeScript ipxeHTTPBinServer : Option URL) (ipxeTFTPBinServer : AddrPort) : String :=
  let paths := [Dhcp.macAddrFormat info.mac info.macAddrFormat, info.ipxeBinary]
  if info.userClass = ascii "Tinkerbell" ∨
      (customUserClass ≠ [] ∧ info.userClass = customUserClass) then
    (ipxeScript.map urls.text).getD noScriptDefined
  else if info.clientType = .httpClient then
    (ipxeHTTPBinServer.map fun server => urls.text (urls.joinPath server paths)).getD
      noScriptDefined
  else if info.userClass = ascii "iPXE" then
    urls.text (urls.joinPath (urls.tftp ipxeTFTPBinServer) paths)
  else if info.ipxeBinary ≠ "" then info.ipxeBinary
  else noScriptDefined

def isUnspecified : Addr → Bool
  | .v4 a b c d => a == 0 && b == 0 && c == 0 && d == 0
  | .v6 octets zone => octets.val.all (· == 0) && zone == ""

def nextServer (info : Info) (ipxeHTTPBinServer : Option URL)
    (ipxeTFTPBinServer : AddrPort) (publicIP : Option Addr) : Option Addr :=
  let next :=
    if info.clientType = .httpClient then
      ipxeHTTPBinServer.bind fun server => parseIP (urls.hostname server)
    else some ipxeTFTPBinServer.addr
  if next.all isUnspecified && publicIP.any (fun ip => !isUnspecified ip) then publicIP
  else next

end Urls

def addRPIOpt43 (mac : List UInt8) (options : KeyedMap Nat (List UInt8)) :
    KeyedMap Nat (List UInt8) :=
  if isRaspberryPI mac then
    (options.set 9 ([0, 0, 17] ++ ascii "Raspberry Pi Boot")).set 10 ([0] ++ ascii "PXE")
  else options

end Tinkerbell.Smee.Dhcp
