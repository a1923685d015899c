import Tinkerbell.Smee.DhcpHandlers

/-!
Owns: whether a client that already runs the project's iPXE is given an iPXE binary
once more.

A boot file is a text, so `BootChoice` keeps apart what the text stands for, and
`handle_offers` connects the choice with the reply of the handlers. The proxy handler
passes no custom user class on.
-/

namespace Tinkerbell.Smee.Dhcp

open NetAddress

inductive BootChoice (URL : Type) where
  | script (url : URL)
  | binary (name : String)
  | binaryAt (url : URL)
  | undefined
  | refused (file : String)
  | named (file : String)

/-- The choice is an iPXE binary. -/
def BootChoice.IsBinary {URL : Type} : BootChoice URL → Prop
  | .binary _ | .binaryAt _ => True
  | _ => False

section Choice

variable {URL : Type} (urls : Urls URL)

def BootChoice.text : BootChoice URL → String
  | .script url => urls.text url
  | .binary name => name
  | .binaryAt url => urls.text url
  | .undefined => noScriptDefined
  | .refused file => file
  | .named file => file

def bootChoice (info : Info) (customUserClass : List UInt8)
    (ipxeScript ipxeHTTPBinServer : Option URL) (ipxeTFTPBinServer : AddrPort) :
    BootChoice URL :=
  let paths := [Dhcp.macAddrFormat info.mac info.macAddrFormat, info.ipxeBinary]
  if info.userClass = ascii "Tinkerbell" ∨
      (customUserClass ≠ [] ∧ info.userClass = customUserClass) then
    (ipxeScript.map .script).getD .undefined
  else if info.clientType = .httpClient then
    (ipxeHTTPBinServer.map fun server => .binaryAt (urls.joinPath server paths)).getD .undefined
  else if info.userClass = ascii "iPXE" then
    .binaryAt (urls.joinPath (urls.tftp ipxeTFTPBinServer) paths)
  else if info.ipxeBinary ≠ "" then .binary info.ipxeBinary
  else .undefined

theorem bootfile_eq (info : Info) (customUserClass : List UInt8)
    (ipxeScript ipxeHTTPBinServer : Option URL) (ipxeTFTPBinServer : AddrPort) :
    bootfile urls info customUserClass ipxeScript ipxeHTTPBinServer ipxeTFTPBinServer =
      (bootChoice urls info customUserClass ipxeScript ipxeHTTPBinServer
        ipxeTFTPBinServer).text urls := by
  unfold bootfile bootChoice
  split
  · cases ipxeScript <;> rfl
  · split
    · cases ipxeHTTPBinServer <;> rfl
    · split
      · rfl
      · split <;> rfl

variable {info : Info}

theorem not_isBinary_of_userClass {customUserClass : List UInt8}
    (known : info.userClass = ascii "Tinkerbell" ∨
      (customUserClass ≠ [] ∧ info.userClass = customUserClass))
    (ipxeScript ipxeHTTPBinServer : Option URL) (ipxeTFTPBinServer : AddrPort) :
    ¬(bootChoice urls info customUserClass ipxeScript ipxeHTTPBinServer
      ipxeTFTPBinServer).IsBinary := by
  unfold bootChoice
  rw [if_pos known]
  cases ipxeScript with
  | none | some url => exact id

theorem not_isBinary_iff (hasBinary : info.ipxeBinary ≠ "")
    (ipxeScript ipxeHTTPBinServer : Option URL) (ipxeTFTPBinServer : AddrPort) :
    ¬(bootChoice urls info [] ipxeScript ipxeHTTPBinServer ipxeTFTPBinServer).IsBinary ↔
      info.userClass = ascii "Tinkerbell" ∨
        (info.clientType = .httpClient ∧ ipxeHTTPBinServer = none) := by
  by_cases isTinkerbell : info.userClass = ascii "Tinkerbell"
  · have notBinary := @not_isBinary_of_userClass _ urls _ [] (Or.inl isTinkerbell) ipxeScript
      ipxeHTTPBinServer ipxeTFTPBinServer
    simp [notBinary, isTinkerbell]
  · unfold bootChoice
    rw [if_neg (by simp [isTinkerbell])]
    by_cases isHTTP : info.clientType = .httpClient
    · rw [if_pos isHTTP]
      cases ipxeHTTPBinServer with
      | none => simp [BootChoice.IsBinary, isHTTP]
      | some => simp [BootChoice.IsBinary, isTinkerbell]
    · rw [if_neg isHTTP, if_pos hasBinary]
      split
      · simp [BootChoice.IsBinary, isTinkerbell, isHTTP]
      · simp [BootChoice.IsBinary, isTinkerbell, isHTTP]

end Choice

section Handlers

variable {URL : Type} (urls : Urls URL) (settings : Settings URL)

def networkBootChoice (trace : Trace) (packet : Packet) (netboot : Netboot URL) :
    BootChoice URL :=
  if netboot.allowNetboot then
    let info := newInfo packet settings.netboot.injectMacAddrFormat netboot.ipxeBinary
      settings.netboot.ipxeArchMapping
    if info.ipxeBinary = "" then .refused notAllowed
    else
      let ipxeScript := netboot.ipxeScriptURL.orElse fun _ =>
        settings.netboot.ipxeScriptURL packet
      let info :=
        if settings.otelEnabled && trace.text != "" then
          { info with ipxeBinary := info.ipxeBinary ++ "-" ++ trace.text }
        else info
      bootChoice urls info settings.netboot.userClass ipxeScript
        settings.netboot.ipxeBinServerHTTP settings.netboot.ipxeBinServerTFTP
  else .refused notAllowed

def reservationChoice (trace : Trace) (packet : Packet) (dhcp : DHCP) (netboot : Netboot URL) :
    BootChoice URL :=
  if settings.netboot.enabled ∧ isNetbootClient packet = [] ∧ dhcp.tftpServerName = "" ∧
      dhcp.bootFileName = "" then
    networkBootChoice urls settings trace packet netboot
  else .named dhcp.bootFileName

def proxyChoice (packet : Packet) (info : Info) (record : Option (Hardware URL)) :
    BootChoice URL :=
  let info :=
    match record with
    | none => info
    | some hardware =>
      if hardware.netboot.ipxeBinary = "" then info
      else { info with ipxeBinary := hardware.netboot.ipxeBinary }
  if record.any fun hardware => !hardware.netboot.allowNetboot then
    .refused (notAllowedFor packet.clientHWAddr)
  else
    bootChoice urls info [] (settings.netboot.ipxeScriptURL packet)
      settings.netboot.ipxeBinServerHTTP settings.netboot.ipxeBinServerTFTP

def reservationOffers (trace : Trace) (lookup : Except LookupError Api.Hardware)
    (packet : Packet) : Option (BootChoice URL) :=
  if packet.messageType = .discover ∨ packet.messageType = .request then
    match readBackend urls lookup packet.clientHWAddr with
    | none => none
    | some (dhcp, netboot) =>
      if dhcp.disabled then none
      else some (reservationChoice urls settings trace packet dhcp netboot)
  else none

def proxyOffers (autoProxyEnabled : Bool) (lookup : Except LookupError Api.Hardware)
    (packet : Packet) : Option (BootChoice URL) :=
  if packet.opCode ≠ .bootRequest then none
  else
    match setMessageType packet.messageType with
    | none => none
    | some _ =>
      if !settings.netboot.enabled then none
      else if isNetbootClient packet ≠ [] then none
      else if (proxyInfo settings packet).ipxeBinary = "" then none
      else
        (proxyRecord urls autoProxyEnabled lookup packet.clientHWAddr).map fun record =>
          proxyChoice urls settings packet (proxyInfo settings packet) record

def offers (mode : Mode) (trace : Trace) (lookup : Except LookupError Api.Hardware)
    (packet : Packet) : Option (BootChoice URL) :=
  match mode with
  | .reservation => reservationOffers urls settings trace lookup packet
  | .proxy => proxyOffers urls settings false lookup packet
  | .autoProxy => proxyOffers urls settings true lookup packet

theorem bootFileName_updateOptions (reply : Reply) (values : List (Nat × OptionValue)) :
    (reply.updateOptions values).bootFileName = reply.bootFileName := by
  induction values generalizing reply with
  | nil => rfl
  | cons _ _ ih => exact ih _

theorem bootFileName_setDHCPOpts (dhcp : DHCP) {reply : Reply} (noFile : reply.bootFileName = "") :
    (setDHCPOpts settings dhcp reply).bootFileName = dhcp.bootFileName := by
  unfold setDHCPOpts
  split
  · rfl
  · next unnamed =>
    rw [bootFileName_updateOptions]
    exact noFile.trans (not_not.mp unnamed).symm

private theorem bootFileName_setNetworkBootOpts (trace : Trace) (packet : Packet)
    (netboot : Netboot URL) (reply : Reply) :
    (setNetworkBootOpts urls settings trace packet netboot reply).bootFileName =
      (networkBootChoice urls settings trace packet netboot).text urls := by
  unfold setNetworkBootOpts networkBootChoice
  dsimp only
  split
  · split
    · rfl
    · exact bootfile_eq urls _ _ _ _ _
  · rfl

private theorem bootFileName_updateMsg (trace : Trace) (packet : Packet) (dhcp : DHCP)
    (netboot : Netboot URL) (messageType : MessageType) :
    (updateMsg urls settings trace packet dhcp netboot messageType).bootFileName =
      (reservationChoice urls settings trace packet dhcp netboot).text urls := by
  unfold updateMsg reservationChoice
  split
  · exact bootFileName_setNetworkBootOpts urls settings trace packet netboot _
  · exact bootFileName_setDHCPOpts settings dhcp (bootFileName_updateOptions _ _)

private theorem reservationHandle_offers (trace : Trace) (lookup : Except LookupError Api.Hardware)
    (packet : Packet) :
    (reservationHandle urls settings trace lookup packet).map Reply.bootFileName =
      (reservationOffers urls settings trace lookup packet).map (BootChoice.text urls) := by
  have replied : ∀ messageType,
      (reservationReply urls settings trace lookup packet messageType).map Reply.bootFileName =
        (match readBackend urls lookup packet.clientHWAddr with
        | none => none
        | some (dhcp, netboot) =>
          if dhcp.disabled then none
          else some (reservationChoice urls settings trace packet dhcp netboot)).map
            (BootChoice.text urls) := by
    intro messageType
    unfold reservationReply
    cases readBackend urls lookup packet.clientHWAddr with
    | none => rfl
    | some =>
      dsimp only
      split
      · rfl
      · exact congrArg some (bootFileName_updateMsg urls settings trace packet _ _ messageType)
  unfold reservationHandle reservationOffers
  cases packet.messageType with
  | discover => exact replied .offer
  | request => exact replied .ack
  | _ => rfl

private theorem proxyBootFile_eq (packet : Packet) (info : Info) (record : Option (Hardware URL)) :
    proxyBootFile urls settings packet info record =
      (proxyChoice urls settings packet info record).text urls := by
  unfold proxyBootFile proxyChoice
  dsimp only
  split
  · rfl
  · exact bootfile_eq urls _ _ _ _ _

theorem proxyHandle_offers (autoProxyEnabled : Bool) (lookup : Except LookupError Api.Hardware)
    (packet : Packet) :
    (proxyHandle urls settings autoProxyEnabled lookup packet).map Reply.bootFileName =
      (proxyOffers urls settings autoProxyEnabled lookup packet).map (BootChoice.text urls) := by
  unfold proxyHandle proxyOffers
  split
  · rfl
  · cases setMessageType packet.messageType with
    | none => rfl
    | some =>
      dsimp only
      split
      · rfl
      · split
        · rfl
        · split
          · rfl
          · cases proxyRecord urls autoProxyEnabled lookup packet.clientHWAddr with
            | none => rfl
            | some record =>
              exact congrArg some (proxyBootFile_eq urls settings packet _ record)

theorem handle_offers (mode : Mode) (trace : Trace) (lookup : Except LookupError Api.Hardware)
    (packet : Packet) :
    (handle urls settings mode trace lookup packet).map Reply.bootFileName =
      (offers urls settings mode trace lookup packet).map (BootChoice.text urls) := by
  cases mode with
  | reservation => exact reservationHandle_offers urls settings trace lookup packet
  | proxy => exact proxyHandle_offers urls settings false lookup packet
  | autoProxy => exact proxyHandle_offers urls settings true lookup packet

/-- A netboot client that runs the project's iPXE, by its user class, and whose record,
if there is one, lets it boot and names no boot file. -/
structure Chainloaded (lookup : Except LookupError Api.Hardware) (packet : Packet) : Prop where
  netbootClient : isNetbootClient packet = []
  userClass : userClassFrom packet = ascii "Tinkerbell" ∨
    (settings.netboot.userClass ≠ [] ∧ userClassFrom packet = settings.netboot.userClass)
  allowed : ∀ hardware, lookup = .ok hardware →
    ∀ interface, interfaceByMac packet.clientHWAddr hardware = some interface →
      ∀ netboot, interface.netboot = some netboot → netboot.allowPXE = some true
  unnamed : ∀ hardware, lookup = .ok hardware →
    ∀ interface, interfaceByMac packet.clientHWAddr hardware = some interface →
      ∀ dhcp, interface.dhcp = some dhcp → dhcp.bootFileName = ""
  hasScript : (settings.netboot.ipxeScriptURL packet).isSome = true

variable {settings} {lookup : Except LookupError Api.Hardware} {packet : Packet}

variable {converted : Hardware URL} {choice : BootChoice URL} {autoProxyEnabled : Bool}

private theorem allowNetboot_of_converted (client : Chainloaded settings lookup packet)
    {hardware : Api.Hardware} (isFound : lookup = .ok hardware)
    (isConverted : convertByMac urls packet.clientHWAddr hardware = .ok converted) :
    converted.netboot.allowNetboot = true := by
  obtain ⟨_, netboot, isDHCP, isNetboot, _, _, allows⟩ :=
    convertInterface_keeps urls isConverted
  cases isInterface : interfaceByMac packet.clientHWAddr hardware with
  | none =>
    rw [isInterface] at isDHCP
    cases isDHCP
  | some interface =>
    rw [isInterface] at isNetboot
    rw [allows, client.allowed hardware isFound interface isInterface netboot isNetboot]
    rfl

private theorem reservation_not_binary (client : Chainloaded settings lookup packet) (trace : Trace)
    (offered : reservationOffers urls settings trace lookup packet = some choice) :
    ¬choice.IsBinary := by
  have networkBoot : ∀ netboot,
      ¬(networkBootChoice urls settings trace packet netboot).IsBinary := by
    intro netboot
    unfold networkBootChoice
    split
    · dsimp only
      split
      · exact id
      · apply not_isBinary_of_userClass
        split
        · exact client.userClass
        · exact client.userClass
    · exact id
  unfold reservationOffers at offered
  split at offered
  · split at offered
    · cases offered
    · split at offered
      · cases offered
      · cases offered
        unfold reservationChoice
        split
        · exact networkBoot _
        · exact id
  · cases offered

private theorem proxyRecord_some {mac : List UInt8}
    (isRecord : proxyRecord urls autoProxyEnabled lookup mac = some (some converted)) :
    ∃ hardware, lookup = .ok hardware ∧ convertByMac urls mac hardware = .ok converted := by
  unfold proxyRecord at isRecord
  split at isRecord
  · split at isRecord
    · cases isRecord
    · cases isRecord
  · next hardware =>
    refine ⟨hardware, rfl, ?_⟩
    split at isRecord
    · split at isRecord
      · cases isRecord
      · cases isRecord
    · next isConverted =>
      cases isRecord
      exact isConverted

private theorem proxy_not_binary_iff (client : Chainloaded settings lookup packet)
    (offered : proxyOffers urls settings autoProxyEnabled lookup packet = some choice) :
    ¬choice.IsBinary ↔ userClassFrom packet = ascii "Tinkerbell" ∨
      (clientTypeFrom packet = .httpClient ∧ settings.netboot.ipxeBinServerHTTP = none) := by
  unfold proxyOffers at offered
  split at offered
  · cases offered
  · split at offered
    · cases offered
    · split at offered
      · cases offered
      · split at offered
        · cases offered
        · split at offered
          · cases offered
          · next hasBinary =>
            obtain ⟨record, isRecord, rfl⟩ := Option.map_eq_some_iff.mp offered
            cases record with
            | none => exact not_isBinary_iff urls hasBinary _ _ _
            | some =>
              obtain ⟨_, isFound, isConverted⟩ := proxyRecord_some urls isRecord
              have allows := allowNetboot_of_converted urls client isFound isConverted
              unfold proxyChoice
              dsimp only
              rw [if_neg (by simp [allows])]
              split
              · exact not_isBinary_iff urls hasBinary _ _ _
              · next named => exact not_isBinary_iff urls named _ _ _

/-- A client that already runs the project's iPXE is not given a binary exactly in
reservation mode, with the project's own user class, or if it boots over HTTP and no
HTTP server for the binaries is set. -/
theorem no_chainload_iff (client : Chainloaded settings lookup packet) {mode : Mode}
    {trace : Trace} {reply : Reply}
    (replies : handle urls settings mode trace lookup packet = some reply) :
    (∃ choice, offers urls settings mode trace lookup packet = some choice ∧
        reply.bootFileName = choice.text urls ∧ ¬choice.IsBinary) ↔
      mode = .reservation ∨ userClassFrom packet = ascii "Tinkerbell" ∨
        (clientTypeFrom packet = .httpClient ∧ settings.netboot.ipxeBinServerHTTP = none) := by
  have sameFile := handle_offers urls settings mode trace lookup packet
  rw [replies, Option.map_some] at sameFile
  obtain ⟨choice, offered, isText⟩ := Option.map_eq_some_iff.mp sameFile.symm
  have onlyChoice : (∃ choice, offers urls settings mode trace lookup packet = some choice ∧
      reply.bootFileName = choice.text urls ∧ ¬choice.IsBinary) ↔ ¬choice.IsBinary := by
    constructor
    · rintro ⟨other, isOther, _, notBinary⟩
      rw [offered] at isOther
      cases isOther
      exact notBinary
    · intro notBinary
      exact ⟨choice, offered, isText.symm, notBinary⟩
  rw [onlyChoice]
  cases mode with
  | reservation =>
    have notBinary := reservation_not_binary urls client trace offered
    simp [notBinary]
  | proxy | autoProxy =>
    rw [proxy_not_binary_iff urls client offered]
    simp

end Handlers

def siteSettings : Settings String where
  ipAddr := some (.v4 10 0 0 1)
  syslogAddr := none
  otelEnabled := false
  netboot :=
    { ipxeBinServerTFTP := ⟨.v4 10 0 0 1, 69⟩
      ipxeBinServerHTTP := some "http://10.0.0.1/ipxe"
      ipxeScriptURL := fun _ => some "http://10.0.0.1/auto.ipxe"
      enabled := true
      userClass := ascii "site"
      injectMacAddrFormat := .colon
      ipxeArchMapping := KeyedMap.empty }

def sitePacket : Packet where
  opCode := .bootRequest
  messageType := .discover
  clientHWAddr := [0, 1, 2, 3, 4, 5]
  clientArch := [⟨7, "EFI x86-64"⟩]
  options := (((KeyedMap.empty.set optionClassIdentifier (ascii "PXEClient")).set
    optionUserClass (ascii "site")).set optionClientArch [0, 7]).set
      optionClientNetworkInterface [1, 3, 16]

def siteRecord : Api.Hardware :=
  { name := "machine"
    «namespace» := "metal"
    spec := { interfaces :=
      [{ dhcp := some { mac := "00:01:02:03:04:05" }
         netboot := some { allowPXE := some true } }] } }

theorem sitePacket_chainloaded : Chainloaded siteSettings (.ok siteRecord) sitePacket where
  netbootClient := by decide
  userClass := Or.inr (by decide)
  allowed := by
    rintro hardware ⟨⟩ interface isInterface netboot isNetboot
    cases isInterface
    cases isNetboot
    rfl
  unnamed := by
    rintro hardware ⟨⟩ interface isInterface dhcp isDHCP
    cases isInterface
    cases isDHCP
    rfl
  hasScript := rfl

theorem no_chainload_by_reservation :
    ∃ reply,
      handle plainUrls siteSettings .reservation {} (.ok siteRecord) sitePacket = some reply ∧
      ∃ choice, offers plainUrls siteSettings .reservation {} (.ok siteRecord) sitePacket =
          some choice ∧
        reply.bootFileName = choice.text plainUrls ∧ ¬choice.IsBinary :=
  ⟨_, rfl, (no_chainload_iff plainUrls sitePacket_chainloaded rfl).mpr (Or.inl rfl)⟩

/-- The proxy handler sends the client back to the binary it runs. -/
theorem proxy_chainloads :
    Chainloaded siteSettings (.ok siteRecord) sitePacket ∧
    (handle plainUrls siteSettings .proxy {} (.ok siteRecord) sitePacket).map
        Reply.bootFileName = some "ipxe.efi" ∧
    offers plainUrls siteSettings .proxy {} (.ok siteRecord) sitePacket =
      some (.binary "ipxe.efi") :=
  ⟨sitePacket_chainloaded, rfl, rfl⟩

end Tinkerbell.Smee.Dhcp
