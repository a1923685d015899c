import Tinkerbell.Library.AddressText
import Tinkerbell.Smee.Convert

/-!
Owns: the kernel parameter that tells an image its static addresses, and when a
reader of the parameter gets the addresses of the DHCP section back.

The parameter joins nine fields with colons. The conversion of the section admits
addresses of the long form as gateway, name server and time server, and their
texts have colons.
-/

namespace Tinkerbell.Smee.Iso

open NetAddress Dhcp

def addressField : Option Addr → List Char
  | none => []
  | some addr => addrText addr

def maskText (mask : List UInt8) : List Char :=
  match mask with
  | [] => "<nil>".toList
  | [first, second, third, fourth] => ipv4Text first second third fourth
  | _ =>
    if isLong : mask.length = 16 then ipText (.v6 ⟨mask, isLong⟩ "")
    else '?' :: mask.flatMap octetText

def maskField : Option (List UInt8) → List Char
  | none => []
  | some mask => maskText mask

def ipamFields (d : DHCP) : List (List Char) :=
  [hyphenText d.macAddress,
    d.vlanID.toList,
    addressField d.ipAddress,
    maskField d.subnetMask,
    addressField d.defaultGateway,
    d.hostname.toList,
    join ',' (d.nameServers.map ipText),
    join ',' (d.domainSearch.map String.toList),
    join ',' (d.ntpServers.map ipText)]

def ipamText (d : DHCP) : List Char :=
  join ':' (ipamFields d)

def parseIPAM : Option DHCP → String
  | none => ""
  | some d => "ipam=" ++ String.ofList (ipamText d)

structure Ipam where
  mac : List UInt8
  vlanID : String
  address : Option Addr
  netmask : List UInt8
  gateway : Option Addr
  hostname : String
  nameServers : List (List UInt8)
  searchDomains : List String
  timeServers : List (List UInt8)

def readOctets (field : List Char) : Option (List UInt8) :=
  (parseIPv4 field).map fun (first, second, third, fourth) => [first, second, third, fourth]

def readHardwareAddress (field : List Char) : Option (List UInt8) :=
  if field = [] then some [] else parseMAC (String.ofList field)

def readAddress (field : List Char) : Option (Option Addr) :=
  if field = [] then some none else (parseAddr (String.ofList field)).map some

def readList {α : Type} (read : List Char → Option α) (field : List Char) : Option (List α) :=
  if field = [] then some [] else (splitAtChar ',' field).mapM read

def readIPAM (text : List Char) : Option Ipam :=
  match splitAtChar ':' text with
  | [mac, vlanID, address, netmask, gateway, hostname, nameServers, searchDomains,
      timeServers] => do
      let mac ← readHardwareAddress mac
      let address ← readAddress address
      let netmask ← readOctets netmask
      let gateway ← readAddress gateway
      let nameServers ← readList readOctets nameServers
      let searchDomains ← readList (fun name => some (String.ofList name)) searchDomains
      let timeServers ← readList readOctets timeServers
      some
        { mac
          vlanID := String.ofList vlanID
          address
          netmask
          gateway
          hostname := String.ofList hostname
          nameServers
          searchDomains
          timeServers }
  | _ => none

def shortServers (servers : List String) : List (List UInt8) :=
  servers.filterMap fun server => (parseIP server).bind to4

def sectionMAC (mac : String) : Option (List UInt8) :=
  if mac = "" then some [] else parseMAC mac

def sectionGateway (gateway : String) : Option (Option Addr) :=
  if gateway = "" then some none else (parseAddr gateway).map some

def ipamOf (h : Api.DHCP) (ip : Api.IP) : Option Ipam := do
  let mac ← sectionMAC h.mac
  let address ← parseAddr ip.address
  let netmask ← (parseIP ip.netmask).bind to4
  let gateway ← sectionGateway ip.gateway
  some
    { mac
      vlanID := h.vlanID
      address := some address
      netmask
      gateway
      hostname := h.hostname
      nameServers := shortServers h.nameServers
      searchDomains := if h.domainName = "" then [] else [h.domainName]
      timeServers := shortServers h.timeServers }

def Recovered (h : Api.DHCP) (ip : Api.IP) (parameter : String) : Prop :=
  ∃ text, parameter = "ipam=" ++ String.ofList text ∧
    (splitAtChar ':' text).length = 9 ∧
    ∃ ipam, ipamOf h ip = some ipam ∧ readIPAM text = some ipam

/-- Neither of the separators. -/
def Plain (text : String) : Prop :=
  ':' ∉ text.toList ∧ ',' ∉ text.toList

instance (text : String) : Decidable (Plain text) :=
  inferInstanceAs (Decidable (_ ∧ _))

/-- No address of the long form: the gateway, if there is one, is of the short form,
and the servers that are addresses can be written in it. -/
structure ShortForm (h : Api.DHCP) (ip : Api.IP) : Prop where
  gateway : ip.gateway = "" ∨
    ∃ first second third fourth, parseAddr ip.gateway = some (.v4 first second third fourth)
  nameServers : ∀ server ∈ h.nameServers, ∀ addr, parseIP server = some addr →
    to4 addr ≠ none
  timeServers : ∀ server ∈ h.timeServers, ∀ addr, parseIP server = some addr →
    to4 addr ≠ none

variable {mac gateway : String} {octets netmask : List UInt8} {read : Option Addr}

theorem readMAC_some (isRead : readMAC mac = .ok octets) : sectionMAC mac = some octets := by
  unfold sectionMAC
  unfold readMAC at isRead
  split at isRead
  · next isEmpty =>
    cases isRead
    rw [if_pos isEmpty]
  · next notEmpty =>
    rw [if_neg notEmpty]
    exact parsed_eq_ok.mp isRead

variable {α β : Type} {ip : Api.IP} {first second third fourth : UInt8} {h : Api.DHCP} {d : DHCP}

theorem parsed_map_some {error : ConvertError} {value : Option α} {change : α → β} {result : β}
    (isRead : (parsed error value).map change = .ok result) :
    value.map change = some result := by
  cases value with
  | none => cases isRead
  | some => exact congrArg some (Except.ok.inj isRead)

theorem readGateway_some {gateway : Option Addr} (isRead : readGateway (some ip) = .ok gateway) :
    sectionGateway ip.gateway = some gateway := by
  unfold sectionGateway
  rw [readGateway] at isRead
  split at isRead
  · next isEmpty =>
    cases isRead
    rw [if_pos isEmpty]
  · next notEmpty =>
    rw [if_neg notEmpty]
    exact parsed_map_some isRead

private theorem readIP_short (isShort : parseAddr ip.address = some (.v4 first second third fourth))
    {read : Option Addr × Option (List UInt8)} (isRead : readIP (some ip) = .ok read) :
    ∃ mask, (parseIP ip.netmask).bind to4 = some mask ∧
      read = (some (.v4 first second third fourth), some mask) := by
  obtain ⟨_, isAddr, isRead⟩ := bind_eq_ok isRead
  obtain ⟨_, isMask, isRead⟩ := bind_eq_ok isRead
  rw [isShort] at isAddr
  cases isAddr
  cases isRead
  unfold readNetmask at isMask
  cases isNetmask : parseIP ip.netmask with
  | none =>
    rw [isNetmask] at isMask
    cases isMask
  | some =>
    rw [isNetmask] at isMask
    obtain ⟨octets, isOctets, rfl⟩ := Option.map_eq_some_iff.mp (parsed_map_some isMask)
    exact ⟨octets, isOctets, rfl⟩

structure Reads (h : Api.DHCP) (ip : Api.IP) (d : DHCP) (address : Addr)
    (netmask : List UInt8) : Prop where
  mac : sectionMAC h.mac = some d.macAddress
  isAddress : d.ipAddress = some address
  isMask : d.subnetMask = some netmask
  netmask : (parseIP ip.netmask).bind to4 = some netmask
  gateway : sectionGateway ip.gateway = some d.defaultGateway
  nameServers : d.nameServers = h.nameServers.filterMap parseIP
  timeServers : d.ntpServers = h.timeServers.filterMap parseIP
  hostname : d.hostname = h.hostname
  vlanID : d.vlanID = h.vlanID
  domainSearch : d.domainSearch = if h.domainName = "" then [] else [h.domainName]

private theorem reads_of_accepted (accepted : toDHCPData (some h) = .ok d) (isIP : h.ip = some ip)
    (isShort : parseAddr ip.address = some (.v4 first second third fourth)) :
    ∃ netmask, Reads h ip d (.v4 first second third fourth) netmask := by
  obtain ⟨mac, isMac, accepted⟩ := bind_eq_ok accepted
  obtain ⟨_, isRead, accepted⟩ := bind_eq_ok accepted
  obtain ⟨gateway, isGateway, accepted⟩ := bind_eq_ok accepted
  obtain ⟨_, _, accepted⟩ := bind_eq_ok accepted
  rw [isIP] at isRead isGateway
  obtain ⟨netmask, isNetmask, rfl⟩ := readIP_short isShort isRead
  cases accepted
  exact ⟨netmask,
    { mac := readMAC_some isMac
      isAddress := rfl
      isMask := rfl
      netmask := isNetmask
      gateway := readGateway_some isGateway
      nameServers := rfl
      timeServers := rfl
      hostname := rfl
      vlanID := rfl
      domainSearch := rfl }⟩

theorem colon_notMem_servers_iff (servers : List String) :
    ':' ∉ join ',' ((servers.filterMap parseIP).map ipText) ↔
      ∀ server ∈ servers, ∀ addr, parseIP server = some addr → to4 addr ≠ none := by
  constructor
  · intro absent server inServers addr isAddr long
    apply absent
    have inAddrs : addr ∈ servers.filterMap parseIP :=
      List.mem_filterMap.mpr ⟨server, inServers, isAddr⟩
    exact mem_join_of_mem (List.mem_map_of_mem inAddrs) ((colon_mem_ipText_iff addr).mpr long)
  · intro short
    apply notMem_join (by decide)
    intro piece inPieces
    obtain ⟨addr, inAddrs, rfl⟩ := List.mem_map.mp inPieces
    obtain ⟨server, inServers, isAddr⟩ := List.mem_filterMap.mp inAddrs
    rw [colon_mem_ipText_iff]
    exact short server inServers addr isAddr

private theorem colon_notMem_gateway_iff (isRead : sectionGateway gateway = some read) :
    ':' ∉ addressField read ↔ gateway = "" ∨
      ∃ first second third fourth, parseAddr gateway = some (.v4 first second third fourth) := by
  unfold sectionGateway at isRead
  split at isRead
  · next isEmpty =>
    cases isRead
    simp [addressField, isEmpty]
  · next notEmpty =>
    obtain ⟨addr, isAddr, rfl⟩ := Option.map_eq_some_iff.mp isRead
    rw [isAddr]
    cases addr with
    | v4 first second third fourth =>
      have absent : ':' ∉ addressField (some (.v4 first second third fourth)) :=
        notMem_ipv4Text rfl (by decide) _ _ _ _
      simp [absent]
    | v6 octets zone =>
      have present : ':' ∈ addressField (some (.v6 octets zone)) :=
        colon_mem_addrText octets zone
      simp [present, notEmpty]

theorem colon_notMem_fields_iff (reads : Reads h ip d (.v4 first second third fourth) netmask)
    (plainHostname : Plain h.hostname) (plainVLAN : Plain h.vlanID)
    (plainDomain : Plain h.domainName) :
    (∀ field ∈ ipamFields d, ':' ∉ field) ↔ ShortForm h ip := by
  have noMac : ':' ∉ hyphenText d.macAddress := colon_notMem_hyphenText _
  have noVLAN : ':' ∉ d.vlanID.toList := by
    rw [reads.vlanID]
    exact plainVLAN.1
  have noAddress : ':' ∉ addressField d.ipAddress := by
    rw [reads.isAddress]
    exact notMem_ipv4Text rfl (by decide) _ _ _ _
  have noMask : ':' ∉ maskField d.subnetMask := by
    obtain ⟨_, _, isShort⟩ := Option.bind_eq_some_iff.mp reads.netmask
    obtain ⟨_, _, _, _, rfl⟩ := to4_length isShort
    rw [reads.isMask]
    exact notMem_ipv4Text rfl (by decide) _ _ _ _
  have noHostname : ':' ∉ d.hostname.toList := by
    rw [reads.hostname]
    exact plainHostname.1
  have noDomain : ':' ∉ join ',' (d.domainSearch.map String.toList) := by
    rw [reads.domainSearch]
    split
    · exact List.not_mem_nil
    · rw [List.map_singleton, join_singleton]
      exact plainDomain.1
  have gateway := colon_notMem_gateway_iff reads.gateway
  have nameServers := colon_notMem_servers_iff h.nameServers
  have timeServers := colon_notMem_servers_iff h.timeServers
  rw [← reads.nameServers] at nameServers
  rw [← reads.timeServers] at timeServers
  simp only [ipamFields, List.forall_mem_cons, List.not_mem_nil, false_implies, implies_true,
    and_true, noMac, noVLAN, noAddress, noMask, noHostname, noDomain, not_false_eq_true,
    true_and, gateway, nameServers, timeServers]
  constructor
  · rintro ⟨isGateway, areNames, areTimes⟩
    exact ⟨isGateway, areNames, areTimes⟩
  · intro short
    exact ⟨short.gateway, short.nameServers, short.timeServers⟩

theorem readOctets_ipv4Text (first second third fourth : UInt8) :
    readOctets (ipv4Text first second third fourth) = some [first, second, third, fourth] := by
  unfold readOctets
  rw [parseIPv4_ipv4Text]
  rfl

private theorem mapM_eq_some {γ : Type} {text : α → γ} {read : γ → Option β} {value : α → β}
    {elements : List α} (reads : ∀ element ∈ elements, read (text element) = some (value element)) :
    (elements.map text).mapM read = some (elements.map value) := by
  induction elements with
  | nil => rfl
  | cons _ _ ih =>
    obtain ⟨first, later⟩ := List.forall_mem_cons.mp reads
    rw [List.map_cons, List.mapM_cons, first, ih later]
    rfl

theorem readList_join {text : α → List Char} {read : List Char → Option β} {value : α → β}
    {elements : List α} (reads : ∀ element ∈ elements, read (text element) = some (value element))
    (plain : ∀ element ∈ elements, ',' ∉ text element)
    (nonempty : ∀ element ∈ elements, text element ≠ []) :
    readList read (join ',' (elements.map text)) = some (elements.map value) := by
  cases elements with
  | nil => rfl
  | cons element rest =>
    have notEmpty : join ',' ((element :: rest).map text) ≠ [] := by
      intro isEmpty
      obtain ⟨c, member⟩ := List.exists_mem_of_ne_nil _ (nonempty element List.mem_cons_self)
      have inJoin : c ∈ join ',' ((element :: rest).map text) :=
        mem_join_of_mem (List.mem_map_of_mem List.mem_cons_self) member
      rw [isEmpty] at inJoin
      cases inJoin
    have split : splitAtChar ',' (join ',' ((element :: rest).map text)) =
        (element :: rest).map text := by
      apply splitAtChar_join
      rw [← List.map_cons]
      intro piece inPieces
      obtain ⟨other, inElements, rfl⟩ := List.mem_map.mp inPieces
      exact plain other inElements
    unfold readList
    rw [if_neg notEmpty, split, mapM_eq_some reads]

theorem readList_servers {servers : List String}
    (short : ∀ server ∈ servers, ∀ addr, parseIP server = some addr → to4 addr ≠ none) :
    readList readOctets (join ',' ((servers.filterMap parseIP).map ipText)) =
      some (shortServers servers) := by
  have each : ∀ addr ∈ servers.filterMap parseIP, ∃ first second third fourth,
      to4 addr = some [first, second, third, fourth] := by
    intro addr inAddrs
    obtain ⟨server, inServers, isAddr⟩ := List.mem_filterMap.mp inAddrs
    obtain ⟨_, isOctets⟩ := Option.ne_none_iff_exists'.mp (short server inServers addr isAddr)
    obtain ⟨first, second, third, fourth, rfl⟩ := to4_length isOctets
    exact ⟨first, second, third, fourth, isOctets⟩
  have isShort : shortServers servers =
      (servers.filterMap parseIP).map fun addr => (to4 addr).getD [] := by
    unfold shortServers
    rw [← List.filterMap_eq_map, ← List.filterMap_filterMap]
    apply List.filterMap_congr
    intro addr inAddrs
    obtain ⟨_, _, _, _, isOctets⟩ := each addr inAddrs
    rw [Function.comp_apply, isOctets]
    rfl
  rw [isShort]
  apply readList_join
  · intro addr inAddrs
    obtain ⟨_, _, _, _, isOctets⟩ := each addr inAddrs
    rw [ipText_of_to4 isOctets, readOctets_ipv4Text, isOctets]
    rfl
  · intro addr inAddrs
    obtain ⟨_, _, _, _, isOctets⟩ := each addr inAddrs
    rw [ipText_of_to4 isOctets]
    exact notMem_ipv4Text rfl (by decide) _ _ _ _
  · intro addr inAddrs
    obtain ⟨_, _, _, _, isOctets⟩ := each addr inAddrs
    rw [ipText_of_to4 isOctets]
    exact ipv4Text_ne_nil _ _ _ _

private theorem readHardwareAddress_hyphenText (isRead : sectionMAC mac = some octets) :
    readHardwareAddress (hyphenText octets) = some octets := by
  unfold sectionMAC at isRead
  split at isRead
  · cases isRead
    rfl
  · have reads := parseMAC_hyphenText (isAddressLength_of_parseMAC isRead)
    unfold readHardwareAddress
    split
    · next isEmpty =>
      rw [isEmpty] at reads
      cases reads
    · exact reads

theorem readAddress_short (first second third fourth : UInt8) :
    readAddress (addrText (.v4 first second third fourth)) =
      some (some (.v4 first second third fourth)) := by
  show readAddress (ipv4Text first second third fourth) = _
  unfold readAddress
  rw [if_neg (ipv4Text_ne_nil _ _ _ _), parseAddr_ipv4Text]
  rfl

private theorem readAddress_gateway {gateway : String} {read : Option Addr}
    (isRead : sectionGateway gateway = some read)
    (short : gateway = "" ∨
      ∃ first second third fourth, parseAddr gateway = some (.v4 first second third fourth)) :
    readAddress (addressField read) = some read := by
  unfold sectionGateway at isRead
  split at isRead
  · cases isRead
    rfl
  · next notEmpty =>
    obtain ⟨first, second, third, fourth, isShort⟩ := short.resolve_left notEmpty
    rw [isShort] at isRead
    cases isRead
    exact readAddress_short first second third fourth

private theorem readList_domains {domainName : String} (plain : Plain domainName) :
    readList (fun name => some (String.ofList name))
        (join ',' ((if domainName = "" then [] else [domainName]).map String.toList)) =
      some (if domainName = "" then [] else [domainName]) := by
  split
  · rfl
  · next notEmpty =>
    have reads := @readList_join _ _ String.toList (fun name => some (String.ofList name)) id
      [domainName] (by simp) (by simpa using plain.2) (by simpa using notEmpty)
    rwa [List.map_id] at reads

private theorem readIPAM_fields (reads : Reads h ip d (.v4 first second third fourth) netmask)
    (isShort : parseAddr ip.address = some (.v4 first second third fourth))
    (plainDomain : Plain h.domainName) (short : ShortForm h ip)
    (noColon : ∀ field ∈ ipamFields d, ':' ∉ field) :
    ∃ ipam, ipamOf h ip = some ipam ∧ readIPAM (ipamText d) = some ipam := by
  have isMask : readOctets (maskField d.subnetMask) = some netmask := by
    obtain ⟨_, _, isOctets⟩ := Option.bind_eq_some_iff.mp reads.netmask
    obtain ⟨a, b, c, e, rfl⟩ := to4_length isOctets
    rw [reads.isMask]
    exact readOctets_ipv4Text a b c e
  have isAddress : readAddress (addressField d.ipAddress) =
      some (some (.v4 first second third fourth)) := by
    rw [reads.isAddress]
    exact readAddress_short first second third fourth
  have areNames := readList_servers short.nameServers
  have areTimes := readList_servers short.timeServers
  have areDomains := readList_domains plainDomain
  rw [← reads.nameServers] at areNames
  rw [← reads.timeServers] at areTimes
  rw [← reads.domainSearch] at areDomains
  have isSplit : splitAtChar ':' (ipamText d) = ipamFields d := splitAtChar_join noColon
  refine ⟨
    { mac := d.macAddress
      vlanID := h.vlanID
      address := some (.v4 first second third fourth)
      netmask
      gateway := d.defaultGateway
      hostname := h.hostname
      nameServers := shortServers h.nameServers
      searchDomains := d.domainSearch
      timeServers := shortServers h.timeServers }, ?_, ?_⟩
  · unfold ipamOf
    rw [reads.mac, isShort, reads.netmask, reads.gateway, reads.domainSearch]
    rfl
  · unfold readIPAM
    rw [isSplit]
    unfold ipamFields
    dsimp only
    rw [readHardwareAddress_hyphenText reads.mac, isAddress, isMask,
      readAddress_gateway reads.gateway short.gateway, areNames, areDomains, areTimes,
      reads.vlanID, reads.hostname, String.ofList_toList, String.ofList_toList]
    rfl

theorem parameter_text {text other : List Char}
    (same : "ipam=" ++ String.ofList text = "ipam=" ++ String.ofList other) : text = other := by
  have sameChars := congrArg String.toList same
  rwa [String.toList_append, String.toList_append, List.append_right_inj, String.toList_ofList,
    String.toList_ofList] at sameChars

/-- For a section that is accepted, with an address of the short form and names
without separators, the parameter reads back as the section exactly when the gateway,
the name servers and the time servers have no address of the long form. -/
theorem ipam_recovered_iff {h : Api.DHCP} {ip : Api.IP} {d : DHCP}
    (accepted : toDHCPData (some h) = .ok d) (isIP : h.ip = some ip)
    {first second third fourth : UInt8}
    (isShort : parseAddr ip.address = some (.v4 first second third fourth))
    (plainHostname : Plain h.hostname) (plainVLAN : Plain h.vlanID)
    (plainDomain : Plain h.domainName) :
    Recovered h ip (parseIPAM (some d)) ↔ ShortForm h ip := by
  obtain ⟨_, reads⟩ := reads_of_accepted accepted isIP isShort
  have colons := colon_notMem_fields_iff reads plainHostname plainVLAN plainDomain
  constructor
  · rintro ⟨text, isText, nine, _⟩
    rw [← parameter_text isText] at nine
    exact colons.mp (length_splitAtChar_join.mp nine)
  · intro short
    have noColon := colons.mpr short
    exact ⟨ipamText d, rfl, length_splitAtChar_join.mpr noColon,
      readIPAM_fields reads isShort plainDomain short noColon⟩

def sectionWith (nameServer : String) : Api.DHCP :=
  { mac := "00:01:02:03:04:05"
    hostname := "node"
    nameServers := [nameServer, "not an address"]
    vlanID := "30"
    ip := some { address := "10.0.0.2", netmask := "255.255.255.0", gateway := "10.0.0.1" } }

theorem ipam_recovered_of_short :
    ∃ d, toDHCPData (some (sectionWith "1.1.1.1")) = .ok d ∧
      Recovered (sectionWith "1.1.1.1")
        { address := "10.0.0.2", netmask := "255.255.255.0", gateway := "10.0.0.1" }
        (parseIPAM (some d)) := by
  obtain ⟨d, accepted⟩ : ∃ d, toDHCPData (some (sectionWith "1.1.1.1")) = .ok d := ⟨_, rfl⟩
  refine ⟨d, accepted, (@ipam_recovered_iff _ _ _ accepted rfl 10 0 0 2 (by decide +kernel)
    (by decide) (by decide) (by decide)).mpr ⟨Or.inr ⟨10, 0, 0, 1, by decide +kernel⟩, ?_, ?_⟩⟩
  · have isFirst : parseIP "1.1.1.1" = some (.v4 1 1 1 1) := by decide +kernel
    have isSecond : parseIP "not an address" = none := by decide +kernel
    intro server inServers addr isAddr
    have isServer : server = "1.1.1.1" ∨ server = "not an address" := by
      simpa [sectionWith] using inServers
    rcases isServer with rfl | rfl
    · cases isAddr
      exact Option.some_ne_none _
    · cases isAddr
  · intro server inServers
    cases inServers

/-- A name server of the long form is not left out, and the parameter has twelve
fields. -/
theorem long_name_server_splits :
    ∃ d, toDHCPData (some (sectionWith "2001:db8::1")) = .ok d ∧
      parseIPAM (some d) =
        "ipam=00-01-02-03-04-05:30:10.0.0.2:255.255.255.0:10.0.0.1:node:2001:db8::1::" ∧
      ¬Recovered (sectionWith "2001:db8::1")
        { address := "10.0.0.2", netmask := "255.255.255.0", gateway := "10.0.0.1" }
        (parseIPAM (some d)) := by
  obtain ⟨d, accepted⟩ : ∃ d, toDHCPData (some (sectionWith "2001:db8::1")) = .ok d := ⟨_, rfl⟩
  cases accepted
  refine ⟨_, rfl, by decide +kernel, ?_⟩
  rintro ⟨text, isText, nine, _⟩
  rw [← parameter_text isText] at nine
  exact absurd nine (by decide +kernel)

end Tinkerbell.Smee.Iso
