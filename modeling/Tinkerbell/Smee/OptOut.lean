import Tinkerbell.Backend.Filter
import Tinkerbell.Smee.Script

/-!
Owns: whether a machine whose record forbids booting from the network is ever sent
a boot file or a boot script.

The record speaks for the machine only after it is converted. Where a record that
does not convert ends the request, the machine gets nothing. The proxy handler in
its automatic mode, and the script server when it has a static script, take such a
record for no record.

Does not own: the lookup. The record is the one the backend found for the MAC.
-/

namespace Tinkerbell.Smee

open ByteText NetAddress UrlPath
open Smee.Dhcp

def hasMAC (mac : List UInt8) (interface : Api.Interface) : Bool :=
  interface.dhcp.any fun dhcp => Backend.equalFold Char.toLower dhcp.mac (macString mac)

structure Refuses (interface : Api.Interface) : Prop where
  allowPXE : ∃ netboot, interface.netboot = some netboot ∧ netboot.allowPXE = some false
  names : ∀ dhcp ∈ interface.dhcp, dhcp.tftpServerName = "" ∧ dhcp.bootFileName = ""

/-- The record has the MAC, and every interface with it refuses. -/
structure OptedOut (mac : List UInt8) (hardware : Api.Hardware) : Prop where
  listed : ∃ interface ∈ hardware.spec.interfaces, hasMAC mac interface = true
  refuses : ∀ interface ∈ hardware.spec.interfaces, hasMAC mac interface = true →
    Refuses interface

/-- The record has an interface with the MAC as the server prints it, and the first
such interface converts. -/
def ConvertibleByMac {URL : Type} (urls : Urls URL) (mac : List UInt8)
    (hardware : Api.Hardware) : Prop :=
  ∃ interface, interfaceByMac mac hardware = some interface ∧ Convertible urls interface

structure NoBootFile (mac : List UInt8) (reply : Reply) : Prop where
  header : reply.bootFileName = "" ∨ reply.bootFileName = notAllowed ∨
    reply.bootFileName = notAllowedFor mac
  option : reply.options.get optionBootfileName = none

/-- No packet of the machine is answered with a boot file, and no request for its
script with a script, whatever the configuration of the mode. -/
structure Respected {URL : Type} (urls : Urls URL) (mode : Mode) (staticIPXEEnabled : Bool)
    (mac : List UInt8) (hardware : Api.Hardware) : Prop where
  dhcp : ∀ settings trace packet reply, packet.clientHWAddr = mac →
    handle urls settings mode trace (.ok hardware) packet = some reply → NoBootFile mac reply
  script : ∀ (settings : Script.Settings) lookupMac lookupIP request content,
    settings.staticIPXEEnabled = staticIPXEEnabled → lookupMac mac = .ok hardware →
    Script.getMAC request.path = some mac →
    Script.handlerFunc urls settings lookupMac lookupIP request ≠ .script content

section Converted

variable {URL : Type} {urls : Urls URL} {mac : List UInt8} {hardware : Api.Hardware}

theorem convertByMac_converts :
    Converts (convertByMac urls mac hardware) ↔ ConvertibleByMac urls mac hardware := by
  unfold convertByMac ConvertibleByMac
  cases interfaceByMac mac hardware with
  | none =>
    rw [Option.getD_none, convertInterface_ok_iff]
    constructor
    · intro convertible
      obtain ⟨_, isDHCP, _⟩ := convertible.dhcp
      cases isDHCP
    · rintro ⟨interface, isInterface, _⟩
      cases isInterface
  | some =>
    rw [Option.getD_some, convertInterface_ok_iff]
    simp

theorem convertByMac_error (unconvertible : ¬ConvertibleByMac urls mac hardware) :
    ∃ error, convertByMac urls mac hardware = .error error := by
  rw [← convertByMac_converts] at unconvertible
  cases isConverted : convertByMac urls mac hardware with
  | error error => exact ⟨error, rfl⟩
  | ok converted => exact absurd ⟨converted, isConverted⟩ unconvertible

theorem converted_refuses (optedOut : OptedOut mac hardware)
    {converted : Dhcp.Hardware URL} (isConverted : convertByMac urls mac hardware = .ok converted) :
    converted.netboot.allowNetboot = false ∧ converted.dhcp.tftpServerName = "" ∧
      converted.dhcp.bootFileName = "" := by
  have convertible := convertByMac_converts.mp ⟨converted, isConverted⟩
  obtain ⟨interface, isInterface, _⟩ := convertible
  unfold convertByMac at isConverted
  rw [isInterface, Option.getD_some] at isConverted
  obtain ⟨dhcp, netboot, isDHCP, isNetboot, tftp, bootFile, allow⟩ :=
    convertInterface_keeps urls isConverted
  have matched := List.find?_some isInterface
  have denotes : hasMAC mac interface = true := by
    rw [isDHCP, Option.any_some, beq_iff_eq] at matched
    unfold hasMAC Backend.equalFold
    rw [isDHCP, Option.any_some, matched, beq_self_eq_true]
  have refuses := optedOut.refuses interface (List.mem_of_find?_eq_some isInterface) denotes
  obtain ⟨given, isGiven, forbids⟩ := refuses.allowPXE
  obtain ⟨noTFTP, noBootFile⟩ := refuses.names dhcp isDHCP
  obtain rfl : netboot = given := Option.some.inj (isNetboot.symm.trans isGiven)
  rw [tftp, bootFile, allow, forbids]
  exact ⟨rfl, noTFTP, noBootFile⟩

end Converted

variable {code : Nat}

theorem updateOptions_other (reply : Reply) {values : List (Nat × OptionValue)}
    (others : ∀ option ∈ values, option.1 ≠ code) :
    (reply.updateOptions values).options.get code = reply.options.get code ∧
      (reply.updateOptions values).bootFileName = reply.bootFileName := by
  induction values generalizing reply with
  | nil => exact ⟨rfl, rfl⟩
  | cons option _ ih =>
    obtain ⟨other, laterOthers⟩ := List.forall_mem_cons.mp others
    obtain ⟨sameOption, sameFile⟩ :=
      ih (reply.updateOption option.1 option.2) laterOthers
    refine ⟨sameOption.trans ?_, sameFile⟩
    unfold Reply.updateOption
    rw [KeyedMap.get_set, if_neg other]

private theorem forall_mem_optionIf {condition : Prop} [Decidable condition] {value : OptionValue}
    {holds : Nat × OptionValue → Prop} :
    (∀ option ∈ optionIf condition code value, holds option) ↔
      (condition → holds (code, value)) := by
  unfold optionIf
  split
  · next given => simp [given]
  · next missing => simp [missing]

private theorem dhcpOptions_other {URL : Type} (settings : Dhcp.Settings URL) {dhcp : DHCP}
    (noBootFile : dhcp.bootFileName = "") :
    ∀ option ∈ dhcpOptions settings dhcp, option.1 ≠ optionBootfileName := by
  simp only [dhcpOptions, List.forall_mem_append, List.forall_mem_singleton,
    forall_mem_optionIf, noBootFile]
  simp only [optionLeaseTime, optionDNS, optionDomainSearch, optionNTPServers,
    optionBroadcastAddress, optionDomainName, optionHostName, optionSubnetMask, optionRouter,
    optionLogServer, optionClasslessStaticRoute, optionTFTPServerName, optionBootfileName]
  simp

section Handlers

variable {URL : Type} {urls : Urls URL} {mac : List UInt8} {hardware : Api.Hardware}
  (settings : Dhcp.Settings URL)

variable {reply : Reply} {dhcp : DHCP} {netboot : Dhcp.Netboot URL} {trace : Trace}
  {packet : Packet} {autoProxyEnabled : Bool}

omit settings in
theorem NoBootFile.updateOptions (before : NoBootFile mac reply) {values : List (Nat × OptionValue)}
    (others : ∀ option ∈ values, option.1 ≠ optionBootfileName) :
    NoBootFile mac (reply.updateOptions values) := by
  obtain ⟨sameOption, sameFile⟩ := updateOptions_other reply others
  constructor
  · rw [sameFile]
    exact before.header
  · rw [sameOption]
    exact before.option

private theorem setDHCPOpts_noBootFile {dhcp : DHCP} (noBootFile : dhcp.bootFileName = "")
    {reply : Reply} (before : NoBootFile mac reply) :
    NoBootFile mac (setDHCPOpts settings dhcp reply) := by
  have addressed : NoBootFile mac { reply with yourIPAddr := dhcp.ipAddress } :=
    ⟨before.header, before.option⟩
  unfold setDHCPOpts
  rw [if_neg (not_not.mpr noBootFile)]
  exact addressed.updateOptions (dhcpOptions_other settings noBootFile)

private theorem setNetworkBootOpts_noBootFile (trace : Trace) (packet : Packet)
    (forbids : netboot.allowNetboot = false) (before : NoBootFile mac reply) :
    NoBootFile mac (setNetworkBootOpts urls settings trace packet netboot reply) := by
  unfold setNetworkBootOpts
  rw [forbids, if_neg Bool.false_ne_true]
  refine ⟨Or.inr (Or.inl rfl), ?_⟩
  split
  · exact (@NoBootFile.updateOptions _ _ before
      [(optionClassIdentifier, .text "HTTPClient")] (by decide)).option
  · exact before.option

private theorem updateMsg_noBootFile (trace : Trace) (packet : Packet) (messageType : MessageType)
    (forbids : netboot.allowNetboot = false) (noBootFile : dhcp.bootFileName = "") :
    NoBootFile mac (updateMsg urls settings trace packet dhcp netboot messageType) := by
  have fresh : NoBootFile mac ({ serverIPAddr := settings.ipAddr } : Reply) :=
    ⟨Or.inl rfl, rfl⟩
  have identified : NoBootFile mac (Reply.updateOptions { serverIPAddr := settings.ipAddr }
      [(optionMessageType, .messageType messageType),
        (optionServerIdentifier, .addresses settings.ipAddr.toList)]) :=
    fresh.updateOptions (by simp +decide)
  have addressed := setDHCPOpts_noBootFile settings noBootFile identified
  unfold updateMsg
  split
  · exact setNetworkBootOpts_noBootFile settings trace packet forbids addressed
  · exact addressed

section

variable (optedOut : OptedOut mac hardware)
include optedOut

private theorem readBackend_refuses
    (isRead : readBackend urls (.ok hardware) mac = some (dhcp, netboot)) :
    netboot.allowNetboot = false ∧ dhcp.bootFileName = "" := by
  unfold readBackend at isRead
  dsimp only at isRead
  split at isRead
  · cases isRead
  · next _ isConverted =>
    obtain ⟨forbids, _, noBootFile⟩ := converted_refuses optedOut isConverted
    cases isRead
    exact ⟨forbids, noBootFile⟩

theorem reservationReply_noBootFile {trace : Trace}
    {packet : Packet} {messageType : MessageType} {reply : Reply}
    (isClient : packet.clientHWAddr = mac)
    (replies : reservationReply urls settings trace (.ok hardware) packet messageType =
      some reply) :
    NoBootFile mac reply := by
  unfold reservationReply at replies
  rw [isClient] at replies
  split at replies
  · cases replies
  · next _ _ isRead =>
    obtain ⟨forbids, noBootFile⟩ := readBackend_refuses optedOut isRead
    split at replies
    · cases replies
    · cases replies
      exact updateMsg_noBootFile settings trace packet messageType forbids noBootFile

private theorem reservation_noBootFile
    (isClient : packet.clientHWAddr = mac)
    (replies : reservationHandle urls settings trace (.ok hardware) packet = some reply) :
    NoBootFile mac reply := by
  unfold reservationHandle at replies
  split at replies
  · exact reservationReply_noBootFile settings optedOut isClient replies
  · exact reservationReply_noBootFile settings optedOut isClient replies
  · cases replies

end

private theorem proxyRecord_of_converts
    (converts : autoProxyEnabled = true → ConvertibleByMac urls mac hardware)
    {record : Option (Dhcp.Hardware URL)}
    (isRecord : proxyRecord urls autoProxyEnabled (.ok hardware) mac = some record) :
    ∃ converted, record = some converted ∧ convertByMac urls mac hardware = .ok converted := by
  unfold proxyRecord at isRecord
  dsimp only at isRecord
  split at isRecord
  · next _ isError =>
    split at isRecord
    · next automatic =>
      obtain ⟨_, isConverted⟩ := convertByMac_converts.mpr (converts automatic)
      rw [isError] at isConverted
      cases isConverted
    · cases isRecord
  · next converted isConverted =>
    cases isRecord
    exact ⟨converted, rfl, isConverted⟩

private theorem proxyHandle_eq_some {lookup : Except LookupError Api.Hardware}
    (replies : proxyHandle urls settings autoProxyEnabled lookup packet = some reply) :
    ∃ messageType record,
      proxyRecord urls autoProxyEnabled lookup packet.clientHWAddr = some record ∧
      reply =
        { proxyReply urls settings packet (proxyInfo settings packet) messageType with
          bootFileName :=
            proxyBootFile urls settings packet (proxyInfo settings packet) record } := by
  unfold proxyHandle at replies
  split at replies
  · cases replies
  · split at replies
    · cases replies
    · next messageType _ =>
      split at replies
      · cases replies
      · split at replies
        · cases replies
        · split at replies
          · cases replies
          · split at replies
            · cases replies
            · next record isRecord =>
              cases replies
              exact ⟨messageType, record, isRecord, rfl⟩

private theorem proxyReply_option (packet : Packet) (info : Info) (messageType : MessageType) :
    (proxyReply urls settings packet info messageType).options.get optionBootfileName = none := by
  exact (updateOptions_other _ (by simp +decide)).1

theorem proxy_noBootFile (optedOut : OptedOut mac hardware) {autoProxyEnabled : Bool}
    (converts : autoProxyEnabled = true → ConvertibleByMac urls mac hardware)
    {packet : Packet} {reply : Reply} (isClient : packet.clientHWAddr = mac)
    (replies : proxyHandle urls settings autoProxyEnabled (.ok hardware) packet = some reply) :
    NoBootFile mac reply := by
  obtain ⟨messageType, _, isRecord, rfl⟩ := proxyHandle_eq_some settings replies
  rw [isClient] at isRecord
  obtain ⟨converted, rfl, isConverted⟩ := proxyRecord_of_converts converts isRecord
  obtain ⟨forbids, _⟩ := converted_refuses optedOut isConverted
  have isFile : proxyBootFile urls settings packet (proxyInfo settings packet)
      (some converted) = notAllowedFor mac := by
    unfold proxyBootFile
    rw [Option.any_some, forbids, isClient]
    rfl
  constructor
  · exact Or.inr (Or.inr isFile)
  · exact proxyReply_option settings packet (proxyInfo settings packet) messageType

end Handlers

section Scripts

variable {URL : Type} {urls : Urls URL} {mac : List UInt8} {hardware : Api.Hardware}
  (settings : Script.Settings)

private theorem getByMac_refuses (optedOut : OptedOut mac hardware) {info : Script.Info URL}
    (isInfo : Script.getByMac urls mac (.ok hardware) = some info) :
    info.allowNetboot = false := by
  unfold Script.getByMac at isInfo
  dsimp only at isInfo
  cases isConverted : convertByMac urls mac hardware with
  | error =>
    rw [isConverted] at isInfo
    cases isInfo
  | ok =>
    rw [isConverted] at isInfo
    cases isInfo
    exact (converted_refuses optedOut isConverted).1

private theorem serveRecord_refused {record : Option (Script.Info URL)} (traceID : String)
    (forbids : ∀ info ∈ record, info.allowNetboot = false)
    (noStatic : record = none → settings.staticIPXEEnabled = false)
    (content : Script.BootScript URL) :
    Script.serveRecord urls settings traceID record ≠ .script content := by
  cases record with
  | none => simp [Script.serveRecord, noStatic rfl]
  | some info => simp [Script.serveRecord, forbids info rfl]

private theorem script_refused (optedOut : OptedOut mac hardware)
    (converts : settings.staticIPXEEnabled = true → ConvertibleByMac urls mac hardware)
    {lookupMac : List UInt8 → Except LookupError Api.Hardware}
    {lookupIP : String → Except LookupError Api.Hardware} {request : Script.Request}
    (found : lookupMac mac = .ok hardware) (isMAC : Script.getMAC request.path = some mac)
    (content : Script.BootScript URL) :
    Script.handlerFunc urls settings lookupMac lookupIP request ≠ .script content := by
  unfold Script.handlerFunc
  split
  · exact nofun
  · rw [isMAC]
    dsimp only
    rw [found]
    apply serveRecord_refused
    · intro info isInfo
      exact getByMac_refuses optedOut isInfo
    · intro noRecord
      by_contra static
      obtain ⟨_, isConverted⟩ :=
        convertByMac_converts.mpr (converts (Bool.not_eq_false _ ▸ static))
      unfold Script.getByMac at noRecord
      dsimp only at noRecord
      rw [isConverted] at noRecord
      cases noRecord

def autoRequest (mac : List UInt8) : Script.Request :=
  { path := slash :: bytesOf (macString mac) ++ slash :: bytesOf "auto.ipxe", remote := none }

private theorem macString_ne {text : String} (unread : parseMAC text = none)
    (isAddress : isAddressLength mac.length = true) : macString mac ≠ text := by
  rintro rfl
  rw [parseMAC_macString isAddress] at unread
  cases unread

theorem asciiText_macString (mac : List UInt8) :
    asciiText (bytesOf (macString mac)) = macString mac := by
  apply asciiText_bytesOf
  intro c member
  rw [macString, String.toList_ofList] at member
  have ascii : (macChars.all fun c => c.toNat < 128) = true := by decide
  exact of_decide_eq_true (List.all_eq_true.mp ascii c (macChars_macText mac c member))

theorem bytesOf_macString_ne {text : Bytes} (unread : parseMAC (asciiText text) = none)
    (isAddress : isAddressLength mac.length = true) : bytesOf (macString mac) ≠ text := by
  rintro rfl
  exact macString_ne unread isAddress (asciiText_macString mac).symm

private theorem isName_macString (isAddress : isAddressLength mac.length = true) :
    IsName (bytesOf (macString mac)) where
  noSlash := by
    have inAlphabet : ∀ c ∈ (macString mac).toList, c ∈ macChars := by
      rw [macString, String.toList_ofList]
      exact macChars_macText mac
    exact notMem_bytesOf inAlphabet (by decide) (List.mem_singleton.mpr rfl)
  notEmpty := bytesOf_macString_ne (by decide) isAddress
  notDot := bytesOf_macString_ne (by decide) isAddress
  notDotDot := bytesOf_macString_ne (by decide) isAddress

theorem getMAC_autoRequest (isAddress : isAddressLength mac.length = true) :
    Script.getMAC (autoRequest mac).path = some mac := by
  unfold Script.getMAC autoRequest
  rw [base_dir (isName_macString isAddress) (by decide), asciiText_macString,
    parseMAC_macString isAddress]

private theorem static_served (unconvertible : ¬ConvertibleByMac urls mac hardware)
    (isAddress : isAddressLength mac.length = true)
    (static : settings.staticIPXEEnabled = true)
    (lookupIP : String → Except LookupError Api.Hardware) :
    Script.handlerFunc urls settings (fun _ => .ok hardware) lookupIP (autoRequest mac) =
      .script (.static (Script.staticHook settings)) := by
  obtain ⟨_, isError⟩ := convertByMac_error unconvertible
  have isAuto : base (autoRequest mac).path = bytesOf "auto.ipxe" :=
    base_of_endsIn ⟨by decide, by decide⟩ (Or.inr ⟨_, rfl⟩)
  unfold Script.handlerFunc
  rw [isAuto, getMAC_autoRequest isAddress]
  simp [Script.getByMac, isError, Script.serveRecord, static, Except.toOption]

end Scripts

def staticSettings : Script.Settings :=
  { osieURL := ""
    extraKernelParams := []
    publicSyslogFQDN := ""
    tinkServerTLS := false
    tinkServerInsecureTLS := false
    tinkServerGRPCAddr := ""
    ipxeScriptRetries := 0
    ipxeScriptRetryDelay := 0
    staticIPXEEnabled := true
    kernelName := ""
    initrdName := "" }

def bareSettings (URL : Type) : Dhcp.Settings URL :=
  { ipAddr := none
    syslogAddr := none
    otelEnabled := false
    netboot :=
      { ipxeBinServerTFTP := ⟨.v4 10 0 0 1, 69⟩
        ipxeBinServerHTTP := none
        ipxeScriptURL := fun _ => none
        enabled := true
        userClass := []
        injectMacAddrFormat := .colon
        ipxeArchMapping := KeyedMap.empty } }

def pxePacket (mac : List UInt8) : Packet :=
  { opCode := .bootRequest
    messageType := .discover
    clientHWAddr := mac
    clientArch := [⟨0, "Intel x86PC"⟩]
    options := ((KeyedMap.empty.set optionClassIdentifier (ascii "PXEClient")).set
      optionClientArch [0, 0]).set optionClientNetworkInterface [1, 2, 1] }

section Unconvertible

variable {URL : Type} {urls : Urls URL} {mac : List UInt8} {hardware : Api.Hardware}

private theorem pxePacket_isNetbootClient : isNetbootClient (pxePacket mac) = [] := by
  show isNetbootClient (pxePacket []) = []
  decide

theorem pxePacket_binary :
    (proxyInfo (bareSettings URL) (pxePacket mac)).ipxeBinary = snpARM64 ∨
      (proxyInfo (bareSettings URL) (pxePacket mac)).ipxeBinary = undionly := by
  show ipxeBinaryFrom (archOf (pxePacket mac)) KeyedMap.empty = _ ∨
    ipxeBinaryFrom (archOf (pxePacket mac)) KeyedMap.empty = _
  have known : (((pxePacket mac).clientArch.find? Arch.isKnown).map Arch.code).getD
      unknownArch = 0 := by
    show (((pxePacket []).clientArch.find? Arch.isKnown).map Arch.code).getD _ = 0
    decide
  unfold archOf
  split
  · exact Or.inl (by decide)
  · rw [known]
    exact Or.inr (by decide)

private theorem bootfile_binary {info : Info} (noClass : info.userClass = [])
    (isPXE : info.clientType = .pxeClient) (named : info.ipxeBinary ≠ "")
    (ipxeScript ipxeHTTPBinServer : Option URL) (ipxeTFTPBinServer : AddrPort) :
    bootfile urls info [] ipxeScript ipxeHTTPBinServer ipxeTFTPBinServer = info.ipxeBinary := by
  unfold bootfile
  rw [noClass, isPXE]
  simp [named, ascii]

private theorem notAllowedFor_ne {text : String} (unrooted : text.toList.head? ≠ some '/') :
    text ≠ notAllowedFor mac := by
  rintro rfl
  apply unrooted
  simp [notAllowedFor]

private theorem proxyHandle_of_client {settings : Dhcp.Settings URL} {packet : Packet}
    {messageType : MessageType} (isRequest : packet.opCode = .bootRequest)
    (isType : setMessageType packet.messageType = some messageType)
    (enabled : settings.netboot.enabled = true) (isClient : isNetbootClient packet = [])
    (named : (proxyInfo settings packet).ipxeBinary ≠ "") (autoProxyEnabled : Bool)
    (lookup : Except LookupError Api.Hardware) :
    proxyHandle urls settings autoProxyEnabled lookup packet =
      (proxyRecord urls autoProxyEnabled lookup packet.clientHWAddr).map fun record =>
        { proxyReply urls settings packet (proxyInfo settings packet) messageType with
          bootFileName :=
            proxyBootFile urls settings packet (proxyInfo settings packet) record } := by
  unfold proxyHandle
  rw [if_neg (not_not.mpr isRequest), isType]
  dsimp only
  rw [enabled, if_neg nofun, if_neg (not_not.mpr isClient), if_neg named]
  cases proxyRecord urls autoProxyEnabled lookup packet.clientHWAddr <;> rfl

private theorem autoProxy_reply (unconvertible : ¬ConvertibleByMac urls mac hardware) :
    handle urls (bareSettings URL) .autoProxy {} (.ok hardware) (pxePacket mac) =
      some
        { proxyReply urls (bareSettings URL) (pxePacket mac)
            (proxyInfo (bareSettings URL) (pxePacket mac)) .offer with
          bootFileName := (proxyInfo (bareSettings URL) (pxePacket mac)).ipxeBinary } := by
  obtain ⟨_, isError⟩ := convertByMac_error unconvertible
  have named : (proxyInfo (bareSettings URL) (pxePacket mac)).ipxeBinary ≠ "" := by
    rcases @pxePacket_binary URL mac with isBinary | isBinary <;>
    · rw [isBinary]
      decide
  have noRecord : proxyRecord urls true (.ok hardware) (pxePacket mac).clientHWAddr =
      some none := by
    unfold proxyRecord
    dsimp only [pxePacket]
    rw [isError, if_pos rfl]
  have isFile : proxyBootFile urls (bareSettings URL) (pxePacket mac)
      (proxyInfo (bareSettings URL) (pxePacket mac)) none =
      (proxyInfo (bareSettings URL) (pxePacket mac)).ipxeBinary := by
    show bootfile urls (proxyInfo (bareSettings URL) (pxePacket mac)) [] none none
      (bareSettings URL).netboot.ipxeBinServerTFTP = _
    exact bootfile_binary rfl rfl named none none _
  show proxyHandle urls (bareSettings URL) true (.ok hardware) (pxePacket mac) = _
  rw [proxyHandle_of_client rfl rfl rfl pxePacket_isNetbootClient named, noRecord,
    Option.map_some, isFile]

private theorem autoProxy_boots (unconvertible : ¬ConvertibleByMac urls mac hardware) :
    ∃ reply, handle urls (bareSettings URL) .autoProxy {} (.ok hardware) (pxePacket mac) =
      some reply ∧ ¬NoBootFile mac reply := by
  refine ⟨_, autoProxy_reply unconvertible, ?_⟩
  intro noBootFile
  have header := noBootFile.header
  dsimp only at header
  rcases @pxePacket_binary URL mac with isBinary | isBinary <;>
  · rw [isBinary] at header
    rcases header with isEmpty | isMarker | isMarkerFor
    · exact absurd isEmpty (by decide)
    · exact absurd isMarker (by decide)
    · exact notAllowedFor_ne (by decide) isMarkerFor

end Unconvertible

/-- For an opted-out record: no packet of the machine is answered with a boot file and
no request for its script with a script, exactly when the record converts, or when
neither the automatic mode nor a static script takes it for no record. (No request
names a MAC that is not 6, 8 or 20 octets long.) -/
theorem opt_out_respected_iff {URL : Type} (urls : Urls URL) (mode : Mode)
    (staticIPXEEnabled : Bool) (mac : List UInt8) (hardware : Api.Hardware)
    (optedOut : OptedOut mac hardware) :
    Respected urls mode staticIPXEEnabled mac hardware ↔
      (mode = .autoProxy → ConvertibleByMac urls mac hardware) ∧
      (staticIPXEEnabled = true → isAddressLength mac.length = true →
        ConvertibleByMac urls mac hardware) := by
  constructor
  · intro respected
    constructor
    · rintro rfl
      by_contra unconvertible
      obtain ⟨reply, replies, boots⟩ := autoProxy_boots unconvertible
      exact boots (respected.dhcp _ _ _ reply rfl replies)
    · rintro rfl isAddress
      by_contra unconvertible
      exact respected.script staticSettings _ (fun _ => .error .notFound) (autoRequest mac) _
        rfl rfl (getMAC_autoRequest isAddress)
        (static_served staticSettings unconvertible isAddress rfl _)
  · rintro ⟨automatic, static⟩
    constructor
    · intro settings trace packet reply isClient replies
      cases mode with
      | reservation => exact reservation_noBootFile settings optedOut isClient replies
      | proxy =>
        exact @proxy_noBootFile _ _ _ _ settings optedOut false nofun _ _ isClient replies
      | autoProxy =>
        exact @proxy_noBootFile _ _ _ _ settings optedOut true (fun _ => automatic rfl) _ _
          isClient replies
    · intro settings lookupMac lookupIP request content isStatic found isMAC
      have isAddress := isAddressLength_of_parseMAC isMAC
      apply script_refused settings optedOut _ found isMAC
      intro isEnabled
      exact static (isStatic ▸ isEnabled) isAddress

def lockedMAC : List UInt8 := [0, 1, 2, 3, 4, 5]

def lockedInterface (ip : Api.IP) : Api.Interface :=
  { netboot := some { allowPXE := some false }
    dhcp := some { mac := "00:01:02:03:04:05", ip := some ip } }

def lockedHardware (ip : Api.IP) : Api.Hardware :=
  { name := "machine"
    «namespace» := "metal"
    spec := { interfaces := [lockedInterface ip] } }

theorem lockedHardware_optedOut (ip : Api.IP) : OptedOut lockedMAC (lockedHardware ip) where
  listed := ⟨lockedInterface ip, List.mem_singleton.mpr rfl, by
    show Backend.equalFold Char.toLower "00:01:02:03:04:05" (macString lockedMAC) = true
    decide⟩
  refuses := by
    intro interface member _
    obtain rfl := List.mem_singleton.mp member
    refine ⟨⟨_, rfl, rfl⟩, ?_⟩
    intro dhcp isDHCP
    cases isDHCP
    exact ⟨rfl, rfl⟩

private theorem lockedHardware_interface (ip : Api.IP) :
    interfaceByMac lockedMAC (lockedHardware ip) = some (lockedInterface ip) := by
  have spelled : ("00:01:02:03:04:05" == macString lockedMAC) = true := by decide
  exact List.find?_cons_of_pos spelled

theorem opt_out_respected_iff_locked :
    Respected plainUrls .autoProxy true lockedMAC
      (lockedHardware ⟨"10.0.0.5", "255.255.255.0", "10.0.0.1"⟩) := by
  have convertible : ConvertibleByMac plainUrls lockedMAC
      (lockedHardware ⟨"10.0.0.5", "255.255.255.0", "10.0.0.1"⟩) := by
    refine ⟨_, lockedHardware_interface _, ?_, ?_, ?_⟩
    · refine ⟨_, rfl, Or.inr (by decide), ?_, nofun⟩
      intro ip isIP
      cases isIP
      exact ⟨⟨.v4 10 0 0 5, by decide, ⟨.v4 255 255 255 0, by decide, by decide⟩⟩,
        Or.inr (by decide)⟩
    · exact ⟨_, rfl, nofun⟩
    · exact nofun
  exact (opt_out_respected_iff plainUrls .autoProxy true lockedMAC _
    (lockedHardware_optedOut _)).mpr ⟨fun _ => convertible, fun _ _ => convertible⟩

/-- A gateway that does not parse, and the machine boots. -/
theorem malformed_gateway_boots :
    OptedOut lockedMAC (lockedHardware ⟨"10.0.0.5", "255.255.255.0", "10.0.0"⟩) ∧
    (handle plainUrls (bareSettings String) .autoProxy {}
        (.ok (lockedHardware ⟨"10.0.0.5", "255.255.255.0", "10.0.0"⟩))
        (pxePacket lockedMAC)).map Reply.bootFileName = some "undionly.kpxe" ∧
    Script.handlerFunc plainUrls staticSettings
        (fun _ => .ok (lockedHardware ⟨"10.0.0.5", "255.255.255.0", "10.0.0"⟩))
        (fun _ => .error .notFound) (autoRequest lockedMAC) =
      .script (.static (Script.staticHook staticSettings)) := by
  refine ⟨lockedHardware_optedOut _, ?_, ?_⟩
  · decide +kernel
  · rfl

end Tinkerbell.Smee
