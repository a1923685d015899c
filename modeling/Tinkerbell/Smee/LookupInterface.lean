import Tinkerbell.Backend.Filter
import Tinkerbell.Library.AddressText
import Tinkerbell.Library.FirstMatch
import Tinkerbell.Smee.Convert

/-!
Owns: a lookup of a client in a backend and the conversion of the record it
returns, and when both go by the same interface of the record.

A record is matched through its first interface that passes the backend's own test
and converted through its first interface with the client's address to the letter.
The test of the file backend is wider: it compares hardware addresses without
regard to case. The Kubernetes backend drops a selector that is empty, as the text
of a hardware address without octets is.
-/

namespace Tinkerbell.Smee.Lookup

open NetAddress Api Backend Smee.Dhcp

inductive BackendKind where
  | kube
  | file

inductive Client where
  | mac (octets : List UInt8)
  | ip (octets : List UInt8)

def Client.text : Client → String
  | .mac octets => macString octets
  | .ip octets => String.ofList (bytesText octets)

def Client.filter (client : Client) : HardwareFilter :=
  match client with
  | .mac _ => { byMACAddress := client.text }
  | .ip _ => { byIPAddress := client.text }

def filterHardware (fold : Char → Char) (quote : String → String) (backend : BackendKind)
    (hardware : List Api.Hardware) (opts : HardwareFilter) :
    Except FilterError Api.Hardware :=
  match backend with
  | .kube => Kube.filterHardware quote hardware opts
  | .file => File.filterHardware fold hardware opts

def selectedInterface (client : Client) (hw : Api.Hardware) : Option Interface :=
  match client with
  | .mac octets => interfaceByMac octets hw
  | .ip _ => interfaceByIP client.text hw

def convert {URL : Type} (urls : Urls URL) (client : Client) (hw : Api.Hardware) :
    Except ConvertError (Dhcp.Hardware URL) :=
  match client with
  | .mac octets => convertByMac urls octets hw
  | .ip _ => convertByIP urls client.text hw

def interfaceMatches (fold : Char → Char) (backend : BackendKind) (client : Client)
    (interface : Interface) : Bool :=
  interface.dhcp.any fun dhcp =>
    match backend, client with
    | .kube, .mac _ => dhcp.mac ≠ "" && dhcp.mac == client.text
    | .file, .mac _ => equalFold fold dhcp.mac client.text
    | .kube, .ip _ => dhcp.ip.any fun ip => ip.address ≠ "" && ip.address == client.text
    | .file, .ip _ => dhcp.ip.any fun ip => ip.address == client.text

def matchedInterface (fold : Char → Char) (backend : BackendKind) (client : Client)
    (hw : Api.Hardware) : Option Interface :=
  hw.spec.interfaces.find? (interfaceMatches fold backend client)

def interfaceSelected (client : Client) (interface : Interface) : Bool :=
  interface.dhcp.any fun dhcp =>
    match client with
    | .mac _ => dhcp.mac == client.text
    | .ip _ => dhcp.ip.any fun ip => ip.address == client.text

theorem selectedInterface_eq (client : Client) (hw : Api.Hardware) :
    selectedInterface client hw = hw.spec.interfaces.find? (interfaceSelected client) := by
  cases client with
  | mac octets | ip octets => rfl

private theorem text_ip_ne_empty (octets : List UInt8) : (Client.ip octets).text ≠ "" := by
  intro isEmpty
  apply bytesText_ne_nil octets
  have lists := congrArg String.toList isEmpty
  rw [Client.text, String.toList_ofList] at lists
  exact lists

def Client.index : Client → HardwareIndex
  | .mac _ => .macAddr
  | .ip _ => .ipAddr

variable {client : Client} {fold : Char → Char} {hw : Api.Hardware} {quote : String → String}
  {backend : BackendKind} {records : List Api.Hardware}

private theorem selectors_filter (isSet : client.text ≠ "") :
    selectors client.filter = [(client.index, client.text)] := by
  cases client with
  | mac octets | ip octets => simp [selectors, Client.filter, whenSet, isSet, Client.index]

theorem mem_of_found {α : Type} {objects : List α} {object : α}
    (isOne : found objects = .one object) : object ∈ objects := by
  unfold found at isOne
  split at isOne
  · cases isOne
  · cases isOne
    exact List.mem_singleton_self _
  · cases isOne

private theorem any_matches_kube (listed : client.text ∈ client.index.extract hw) :
    hw.spec.interfaces.any (interfaceMatches fold .kube client) = true := by
  rw [List.any_eq_true]
  cases client with
  | mac =>
    obtain ⟨interface, member, isGiven⟩ := List.mem_filterMap.mp listed
    refine ⟨interface, member, ?_⟩
    obtain ⟨_, isDhcp, isMAC⟩ := Option.bind_eq_some_iff.mp isGiven
    split at isMAC
    · next given =>
      simp only [interfaceMatches, isDhcp, Option.any_some]
      rw [← Option.some.inj isMAC]
      simp [given]
    · cases isMAC
  | ip =>
    obtain ⟨interface, member, isGiven⟩ := List.mem_filterMap.mp listed
    refine ⟨interface, member, ?_⟩
    obtain ⟨_, isDhcp, isGiven⟩ := Option.bind_eq_some_iff.mp isGiven
    obtain ⟨_, isIP, isAddress⟩ := Option.bind_eq_some_iff.mp isGiven
    split at isAddress
    · next given =>
      simp only [interfaceMatches, isDhcp, isIP, Option.any_some]
      rw [← Option.some.inj isAddress]
      simp [given]
    · cases isAddress

private theorem any_matches_file (isSet : client.text ≠ "")
    (met : Meets fold hw (client.index, client.text)) :
    hw.spec.interfaces.any (interfaceMatches fold .file client) = true := by
  cases client with
  | mac => exact (exists_mem_getMACs fold isSet).mp met
  | ip => exact (mem_getIPs isSet).mp met

private theorem matched_of_returned (isSet : client.text ≠ "")
    (returned : filterHardware fold quote backend records client.filter = .ok hw) :
    ∃ interface, matchedInterface fold backend client hw = some interface := by
  have isOne := congrArg kind returned
  have onlySelector := selectors_filter isSet
  rw [← Option.isSome_iff_exists, matchedInterface, List.find?_isSome, ← List.any_eq_true]
  cases backend with
  | kube =>
    have isFound := (kind_kube quote records client.filter).symm.trans isOne
    have meets := of_decide_eq_true (List.mem_filter.mp (mem_of_found isFound)).2
    apply any_matches_kube
    exact meets.2 (client.index, client.text) (by simp [onlySelector])
  | file =>
    have selects : selectors client.filter ≠ [] := by simp [onlySelector]
    have isFound := (kind_file fold records selects).symm.trans isOne
    have meets := of_decide_eq_true (List.mem_filter.mp (mem_of_found isFound)).2
    apply any_matches_file isSet
    exact meets.2 (client.index, client.text) (by simp [onlySelector])

private theorem text_ne_empty_of_file
    (returned : filterHardware fold quote .file records client.filter = .ok hw) :
    client.text ≠ "" := by
  intro isEmpty
  have noSelectors : selectors client.filter = [] := by
    cases client <;> simp [selectors, Client.filter, whenSet, isEmpty]
  have isFound : found (records.filter (matchHardware fold · client.filter)) = .one hw := by
    rw [← kind_single "no matching hardware found" (fun count => "found " ++ toString count ++
      " hardware objects matching filter, expected 1")]
    exact congrArg kind returned
  have isMatch := (List.mem_filter.mp (mem_of_found isFound)).2
  exact ((matchHardware_iff fold client.filter hw).mp isMatch).2 noSelectors

section NoDHCPData

/-- The outcome is not the complaint about missing DHCP data. -/
def HasDHCPData {α : Type} (outcome : Except ConvertError α) : Prop :=
  outcome ≠ .error .noDHCPData

variable {α : Type}

variable {β : Type} {outcome : Except ConvertError α} {interface : Interface}

theorem hasDHCPData_bind {next : α → Except ConvertError β} (first : HasDHCPData outcome)
    (later : ∀ value, HasDHCPData (next value)) : HasDHCPData (outcome >>= next) := by
  cases outcome with
  | error => exact fun isError => first (congrArg Except.error (Except.error.inj isError))
  | ok value => exact later value

theorem hasDHCPData_ok (value : α) : HasDHCPData (.ok value) := by
  intro isError
  cases isError

theorem hasDHCPData_parsed {α : Type} {error : ConvertError} (differs : error ≠ .noDHCPData)
    (value : Option α) : HasDHCPData (parsed error value) := by
  cases value with
  | none => exact fun isError => differs (Except.error.inj isError)
  | some value => exact hasDHCPData_ok value

theorem hasDHCPData_map (change : α → β) (first : HasDHCPData outcome) :
    HasDHCPData (outcome.map change) := by
  cases outcome with
  | error => exact fun isError => first (congrArg Except.error (Except.error.inj isError))
  | ok => exact hasDHCPData_ok _

private theorem hasDHCPData_readNetmask (addr : Addr) (netmask : String) :
    HasDHCPData (readNetmask addr netmask) := by
  unfold readNetmask
  split
  · split
    · simp [HasDHCPData]
    · exact hasDHCPData_map _ (hasDHCPData_parsed (by simp) _)
  · split
    · simp [HasDHCPData]
    · exact hasDHCPData_ok _

private theorem hasDHCPData_readIP (ip : Option Api.IP) : HasDHCPData (readIP ip) := by
  cases ip with
  | none => exact hasDHCPData_ok _
  | some =>
    exact hasDHCPData_bind (hasDHCPData_parsed (by simp) _) fun addr =>
      hasDHCPData_bind (hasDHCPData_readNetmask addr _) fun _ => hasDHCPData_ok _

private theorem hasDHCPData_readGateway (ip : Option Api.IP) : HasDHCPData (readGateway ip) := by
  cases ip with
  | none => exact hasDHCPData_ok _
  | some =>
    unfold readGateway
    simp only
    split
    · exact hasDHCPData_ok _
    · exact hasDHCPData_map _ (hasDHCPData_parsed (by simp) _)

private theorem hasDHCPData_readRoutes (routes : List Api.ClasslessStaticRoute) :
    HasDHCPData (readRoutes routes) := by
  induction routes with
  | nil => exact hasDHCPData_ok _
  | cons _ _ ih =>
    refine hasDHCPData_bind ?_ fun _ => hasDHCPData_bind ih fun _ =>
      hasDHCPData_ok _
    exact hasDHCPData_bind (hasDHCPData_parsed (by simp) _) fun _ =>
      hasDHCPData_bind (hasDHCPData_parsed (by simp) _) fun _ => hasDHCPData_ok _

theorem hasDHCPData_toDHCPData (dhcp : Api.DHCP) : HasDHCPData (toDHCPData (some dhcp)) := by
  have readMAC : HasDHCPData (readMAC dhcp.mac) := by
    unfold Dhcp.readMAC
    split
    · exact hasDHCPData_ok _
    · exact hasDHCPData_parsed (by simp) _
  exact hasDHCPData_bind readMAC fun _ =>
    hasDHCPData_bind (hasDHCPData_readIP _) fun _ =>
      hasDHCPData_bind (hasDHCPData_readGateway _) fun _ =>
        hasDHCPData_bind (hasDHCPData_readRoutes _) fun _ => hasDHCPData_ok _

variable {URL : Type} (urls : Urls URL)

theorem hasDHCPData_readURL (parse : String → Option URL) {error : String → ConvertError}
    (differs : ∀ text, error text ≠ .noDHCPData) (text : String) :
    HasDHCPData (readURL parse error text) := by
  unfold readURL
  split
  · exact hasDHCPData_ok _
  · exact hasDHCPData_map _ (hasDHCPData_parsed (differs text) _)

private theorem hasDHCPData_toNetbootData (facility : String) (netboot : Option Api.Netboot) :
    HasDHCPData (toNetbootData urls facility netboot) := by
  cases netboot with
  | none => simp [HasDHCPData, toNetbootData]
  | some =>
    exact hasDHCPData_bind (hasDHCPData_readURL _ (by simp) _) fun _ => hasDHCPData_ok _

private theorem hasDHCPData_convertInterface (hw : Api.Hardware) {dhcp : Api.DHCP}
    (isDhcp : interface.dhcp = some dhcp) :
    HasDHCPData (convertInterface urls hw interface) := by
  have transformed : HasDHCPData (transform urls interface hw.spec.metadata) := by
    unfold transform
    rw [isDhcp]
    exact hasDHCPData_bind (hasDHCPData_toDHCPData dhcp) fun _ =>
      hasDHCPData_bind (hasDHCPData_toNetbootData urls _ _) fun _ => hasDHCPData_ok _
  exact hasDHCPData_bind transformed fun _ =>
    hasDHCPData_bind (hasDHCPData_readURL _ (by simp) _) fun _ => hasDHCPData_ok _

private theorem convert_eq (client : Client) (hw : Api.Hardware) :
    convert urls client hw = convertInterface urls hw ((selectedInterface client hw).getD {}) := by
  cases client with
  | mac octets | ip octets => rfl

private theorem hasDHCPData_convert (isSelected : selectedInterface client hw = some interface) :
    HasDHCPData (convert urls client hw) := by
  have accepted : interfaceSelected client interface = true := by
    rw [selectedInterface_eq] at isSelected
    exact List.find?_some isSelected
  obtain ⟨_, isDhcp, _⟩ := (Option.any_eq_true _ _).mp accepted
  rw [convert_eq, isSelected]
  exact hasDHCPData_convertInterface urls hw isDhcp

end NoDHCPData

def spelledMACs (hw : Api.Hardware) : List String :=
  hw.spec.interfaces.filterMap fun interface => interface.dhcp.map DHCP.mac

/-- By its internet address a client is always found under the address as it is printed.
In the Kubernetes backend its hardware address must have octets. In the file backend
the first spelling of it in the record, up to case, must be the printed one. -/
def SpelledAsPrinted (fold : Char → Char) (backend : BackendKind) (client : Client)
    (hw : Api.Hardware) : Prop :=
  match backend, client with
  | _, .ip _ => True
  | .kube, .mac octets => octets ≠ []
  | .file, .mac octets =>
    (spelledMACs hw).find? (equalFold fold · (macString octets)) = some (macString octets)

instance (fold : Char → Char) (backend : BackendKind) (client : Client) (hw : Api.Hardware) :
    Decidable (SpelledAsPrinted fold backend client hw) := by
  unfold SpelledAsPrinted
  split <;> infer_instance

def SameInterface (fold : Char → Char) (backend : BackendKind) (client : Client)
    (hw : Api.Hardware) : Prop :=
  ∃ interface, matchedInterface fold backend client hw = some interface ∧
    selectedInterface client hw = some interface

private theorem interfaceMatches_of_selected (fold : Char → Char) (backend : BackendKind)
    (isSet : client.text ≠ "") (interface : Interface)
    (selected : interfaceSelected client interface = true) :
    interfaceMatches fold backend client interface = true := by
  obtain ⟨_, isDhcp, isSame⟩ := (Option.any_eq_true _ _).mp selected
  rw [interfaceMatches, isDhcp, Option.any_some]
  cases client with
  | mac =>
    rw [beq_iff_eq] at isSame
    cases backend with
    | kube => simp [isSame, isSet]
    | file => simp [isSame, equalFold]
  | ip =>
    obtain ⟨_, isIP, isAddress⟩ := (Option.any_eq_true _ _).mp isSame
    rw [beq_iff_eq] at isAddress
    cases backend with
    | kube => simp [isIP, isAddress, isSet]
    | file => simp [isIP, isAddress]

theorem sameInterface_iff (fold : Char → Char) (backend : BackendKind) (isSet : client.text ≠ "")
    (hw : Api.Hardware) :
    SameInterface fold backend client hw ↔
      ∃ interface, matchedInterface fold backend client hw = some interface ∧
        interfaceSelected client interface = true := by
  unfold SameInterface
  rw [selectedInterface_eq]
  exact FirstMatch.find?_same_iff (interfaceMatches_of_selected fold backend isSet)
    hw.spec.interfaces

theorem interfaceSelected_of_matches (isExact : backend = .kube ∨ ∃ octets, client = .ip octets)
    {interface : Interface} (isMatch : interfaceMatches fold backend client interface = true) :
    interfaceSelected client interface = true := by
  obtain ⟨dhcp, isDhcp, passes⟩ := (Option.any_eq_true _ _).mp isMatch
  rw [interfaceSelected, isDhcp, Option.any_some]
  cases client with
  | mac =>
    cases backend with
    | kube => exact (Bool.and_eq_true _ _ ▸ passes).2
    | file => simp at isExact
  | ip octets =>
    obtain ⟨ip, isIP, isAddress⟩ : ∃ ip, dhcp.ip = some ip ∧
        (ip.address == (Client.ip octets).text) = true := by
      cases backend with
      | kube =>
        obtain ⟨ip, isIP, isAddress⟩ := (Option.any_eq_true _ _).mp passes
        exact ⟨ip, isIP, (Bool.and_eq_true _ _ ▸ isAddress).2⟩
      | file => exact (Option.any_eq_true _ _).mp passes
    simp only [isIP, Option.any_some]
    exact isAddress

private theorem exists_selected_iff_spelled (fold : Char → Char) (octets : List UInt8)
    (hw : Api.Hardware) :
    (∃ interface, matchedInterface fold .file (.mac octets) hw = some interface ∧
        interfaceSelected (.mac octets) interface = true) ↔
      SpelledAsPrinted fold .file (.mac octets) hw := by
  have sameTest : (fun interface : Interface => (interface.dhcp.map DHCP.mac).any
      (equalFold fold · (macString octets))) = interfaceMatches fold .file (.mac octets) := by
    funext interface
    cases isDhcp : interface.dhcp with
    | none => simp [interfaceMatches, isDhcp]
    | some => simp [interfaceMatches, isDhcp, Client.text]
  have sameSpelling : ∀ interface, interfaceSelected (.mac octets) interface = true ↔
      interface.dhcp.map DHCP.mac = some (macString octets) := by
    intro interface
    cases isDhcp : interface.dhcp with
    | none => simp [interfaceSelected, isDhcp]
    | some => simp [interfaceSelected, isDhcp, Client.text]
  unfold SpelledAsPrinted spelledMACs matchedInterface
  simp only
  rw [List.find?_filterMap, sameTest, Option.bind_eq_some_iff]
  exact exists_congr fun interface => and_congr_right fun _ => sameSpelling interface

private theorem eq_nil_of_macString {octets : List UInt8} (isEmpty : macString octets = "") :
    octets = [] := by
  cases octets with
  | nil => rfl
  | cons octet rest =>
    have length := length_macText octet rest
    have isNil := congrArg String.toList isEmpty
    rw [macString, String.toList_ofList] at isNil
    have isZero : (macText (octet :: rest)).length = 0 := by
      rw [isNil]
      rfl
    omega

private theorem sameInterface_iff_spelled
    (returned : filterHardware fold quote backend records client.filter = .ok hw) :
    SameInterface fold backend client hw ↔ SpelledAsPrinted fold backend client hw := by
  have exactTest : client.text ≠ "" → (backend = .kube ∨ ∃ octets, client = .ip octets) →
      SameInterface fold backend client hw := by
    intro isSet isExact
    obtain ⟨interface, isMatched⟩ := matched_of_returned isSet returned
    apply (sameInterface_iff fold backend isSet hw).mpr
    exact ⟨interface, isMatched, interfaceSelected_of_matches isExact (List.find?_some isMatched)⟩
  cases client with
  | ip octets =>
    have same := exactTest (text_ip_ne_empty octets) (Or.inr ⟨octets, rfl⟩)
    exact iff_of_true same (by cases backend <;> trivial)
  | mac octets =>
    cases backend with
    | file =>
      rw [sameInterface_iff fold .file (text_ne_empty_of_file returned)]
      exact exists_selected_iff_spelled fold octets hw
    | kube =>
      constructor
      · rintro ⟨interface, isMatched, _⟩ isEmpty
        subst isEmpty
        have isMatch := List.find?_some isMatched
        obtain ⟨_, _, passes⟩ := (Option.any_eq_true _ _).mp isMatch
        simp [Client.text, macString, macText] at passes
      · intro hasOctets
        refine exactTest ?_ (Or.inl rfl)
        exact fun isEmpty => hasOctets (eq_nil_of_macString isEmpty)

/-- Whenever a backend returns a record for a client: the conversion goes by the
interface that made the record match, and never finds DHCP data missing, exactly when
the record spells the client's address as it is printed. -/
theorem lookup_and_conversion_agree_iff {URL : Type} (urls : Urls URL) (fold : Char → Char)
    (quote : String → String) (backend : BackendKind) (records : List Api.Hardware)
    (client : Client) (hw : Api.Hardware)
    (returned : filterHardware fold quote backend records client.filter = .ok hw) :
    (SameInterface fold backend client hw ∧ convert urls client hw ≠ .error .noDHCPData) ↔
      SpelledAsPrinted fold backend client hw := by
  rw [← sameInterface_iff_spelled returned]
  constructor
  · exact And.left
  · rintro ⟨interface, isMatched, isSelected⟩
    exact ⟨⟨interface, isMatched, isSelected⟩, hasDHCPData_convert urls isSelected⟩

def machineAt (mac : String) : Api.Hardware where
  name := "machine"
  «namespace» := "tink"
  spec := { interfaces := [{ dhcp := some { mac }, netboot := some {} }] }

def clientOctets : List UInt8 := [170, 187, 204, 221, 238, 255]

theorem lookup_and_conversion_agree_of_printed :
    let hw := machineAt "aa:bb:cc:dd:ee:ff"
    filterHardware Char.toLower id .file [machineAt "aa:bb:cc:dd:ee:00", hw]
        (Client.mac clientOctets).filter = .ok hw ∧
      SameInterface Char.toLower .file (.mac clientOctets) hw ∧
      convert plainUrls (.mac clientOctets) hw ≠ .error .noDHCPData := by
  have returned : filterHardware Char.toLower id .file
      [machineAt "aa:bb:cc:dd:ee:00", machineAt "aa:bb:cc:dd:ee:ff"]
      (Client.mac clientOctets).filter = .ok (machineAt "aa:bb:cc:dd:ee:ff") := by
    decide +kernel
  exact ⟨returned, (lookup_and_conversion_agree_iff plainUrls Char.toLower id .file _ _ _
    returned).mpr (by decide +kernel)⟩

/-- The file backend knows the machine by its address in upper case; the conversion then
finds no interface and no DHCP data. -/
theorem upper_case_address_refused :
    let hw := machineAt "AA:BB:CC:DD:EE:FF"
    filterHardware Char.toLower id .file [hw] (Client.mac clientOctets).filter = .ok hw ∧
      (matchedInterface Char.toLower .file (.mac clientOctets) hw).isSome = true ∧
      selectedInterface (.mac clientOctets) hw = none ∧
      convert plainUrls (.mac clientOctets) hw = .error .noDHCPData :=
  ⟨by decide +kernel, by decide +kernel, by decide +kernel, rfl⟩

end Tinkerbell.Smee.Lookup
