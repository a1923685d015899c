import Tinkerbell.Library.FirstMatch

/-!
Owns: the metadata instance made of a Hardware object, the data endpoints, and the
addresses they serve.

Does not own: how the Hardware of a request is found; a request comes with the
instance or with the error of looking it up.
-/

namespace Tinkerbell.Tootles

structure MetadataInstanceOperatingSystem where
  (slug distro version imageTag : String := "")

structure MetadataInstanceIP where
  address : String := ""
  family : Int := 0
  isPublic : Bool := false

structure MetadataInstance where
  (id hostname : String := "")
  operatingSystem : Option MetadataInstanceOperatingSystem := none
  ips : List MetadataInstanceIP := []
  tags : List String := []

structure MetadataFacility where
  (planSlug facilityCode : String := "")

structure HardwareMetadata where
  «instance» : Option MetadataInstance := none
  facility : Option MetadataFacility := none

structure Hardware where
  metadata : Option HardwareMetadata := none
  userData : Option String := none

structure LicenseActivation where
  state : String := ""

structure OperatingSystem where
  (slug distro version imageTag : String := "")
  licenseActivation : LicenseActivation := {}

structure Metadata where
  (instanceID hostname localHostname iqn plan facility : String := "")
  (tags publicKeys : List String := [])
  (publicIPv4 publicIPv6 localIPv4 : String := "")
  operatingSystem : OperatingSystem := {}

structure Ec2Instance where
  userdata : String := ""
  metadata : Metadata := {}

def addIP (metadata : Metadata) (ip : MetadataInstanceIP) : Metadata :=
  let metadata :=
    if ip.family = 4 ∧ ip.isPublic = true ∧ metadata.publicIPv4 = "" then
      { metadata with publicIPv4 := ip.address }
    else metadata
  let metadata :=
    if ip.family = 4 ∧ ip.isPublic = false ∧ metadata.localIPv4 = "" then
      { metadata with localIPv4 := ip.address }
    else metadata
  -- the source does not ask whether an IPv6 address is public
  if ip.family = 6 ∧ metadata.publicIPv6 = "" then
    { metadata with publicIPv6 := ip.address }
  else metadata

def operatingSystemOf : Option MetadataInstanceOperatingSystem → OperatingSystem
  | none => {}
  | some os => ⟨os.slug, os.distro, os.version, os.imageTag, {}⟩

def instanceMetadata : Option MetadataInstance → Metadata
  | none => {}
  | some found =>
    found.ips.foldl addIP
      { instanceID := found.id, hostname := found.hostname, localHostname := found.hostname,
        tags := found.tags, operatingSystem := operatingSystemOf found.operatingSystem }

def toEC2Instance (hw : Hardware) : Ec2Instance :=
  let metadata := instanceMetadata (hw.metadata.bind (·.instance))
  let metadata :=
    match hw.metadata.bind (·.facility) with
    | none => metadata
    | some facility =>
      { metadata with plan := facility.planSlug, facility := facility.facilityCode }
  ⟨hw.userData.getD "", metadata⟩

structure DataRoute where
  endpoint : String
  filter : Ec2Instance → String

def join (v : List String) : String := "\n".intercalate v

def dataRoutes : List DataRoute :=
  [⟨"/user-data", fun i => i.userdata⟩,
    ⟨"/meta-data/instance-id", fun i => i.metadata.instanceID⟩,
    ⟨"/meta-data/hostname", fun i => i.metadata.hostname⟩,
    ⟨"/meta-data/local-hostname", fun i => i.metadata.localHostname⟩,
    ⟨"/meta-data/iqn", fun i => i.metadata.iqn⟩,
    ⟨"/meta-data/plan", fun i => i.metadata.plan⟩,
    ⟨"/meta-data/facility", fun i => i.metadata.facility⟩,
    ⟨"/meta-data/tags", fun i => join i.metadata.tags⟩,
    ⟨"/meta-data/public-ipv4", fun i => i.metadata.publicIPv4⟩,
    ⟨"/meta-data/public-ipv6", fun i => i.metadata.publicIPv6⟩,
    ⟨"/meta-data/local-ipv4", fun i => i.metadata.localIPv4⟩,
    ⟨"/meta-data/public-keys", fun i => join i.metadata.publicKeys⟩,
    ⟨"/meta-data/operating-system/slug", fun i => i.metadata.operatingSystem.slug⟩,
    ⟨"/meta-data/operating-system/distro", fun i => i.metadata.operatingSystem.distro⟩,
    ⟨"/meta-data/operating-system/version", fun i => i.metadata.operatingSystem.version⟩,
    ⟨"/meta-data/operating-system/image_tag", fun i => i.metadata.operatingSystem.imageTag⟩,
    ⟨"/meta-data/operating-system/license_activation/state",
      fun i => i.metadata.operatingSystem.licenseActivation.state⟩]

/-- Why no instance was found, with the status it asks for. -/
structure InstanceError where
  statusCode : Option Nat
  text : String

structure Response where
  statusCode : Nat
  body : String
deriving DecidableEq

def writeInstanceDataOrErrToHTTP (getInstanceErr : Option InstanceError)
    (filteredInstanceData : String) : Response :=
  match getInstanceErr with
  | some err => ⟨err.statusCode.getD 500, ""⟩
  | none => ⟨200, filteredInstanceData⟩

def serveData (endpoint : String) (found : Except InstanceError Ec2Instance) : Option Response :=
  (dataRoutes.find? fun route => route.endpoint = endpoint).map fun route =>
    match found with
    | .error err => writeInstanceDataOrErrToHTTP (some err) (route.filter {})
    | .ok found => writeInstanceDataOrErrToHTTP none (route.filter found)

def isPublicIPv4 (ip : MetadataInstanceIP) : Bool := ip.family = 4 && ip.isPublic

def isPrivateIPv4 (ip : MetadataInstanceIP) : Bool := ip.family = 4 && !ip.isPublic

def isIPv6 (ip : MetadataInstanceIP) : Bool := ip.family = 6

def isPublicIPv6 (ip : MetadataInstanceIP) : Bool := ip.family = 6 && ip.isPublic

def instanceIPs (hw : Hardware) : List MetadataInstanceIP :=
  ((hw.metadata.bind (·.instance)).map (·.ips)).getD []

def firstAddress (isKind : MetadataInstanceIP → Bool) (hw : Hardware) : String :=
  FirstMatch.firstValue isKind (·.address) "" (instanceIPs hw)

variable (metadata : Metadata) (ip : MetadataInstanceIP)

private theorem addIP_publicIPv4 :
    (addIP metadata ip).publicIPv4 =
      FirstMatch.keepFirst isPublicIPv4 (·.address) "" metadata.publicIPv4 ip := by
  unfold addIP FirstMatch.keepFirst isPublicIPv4
  by_cases taken : ip.family = 4 ∧ ip.isPublic = true ∧ metadata.publicIPv4 = ""
  · simp [taken]
  · simp only [if_neg taken, Bool.and_eq_true, decide_eq_true_eq, and_assoc]
    split_ifs <;> rfl

private theorem addIP_localIPv4 :
    (addIP metadata ip).localIPv4 =
      FirstMatch.keepFirst isPrivateIPv4 (·.address) "" metadata.localIPv4 ip := by
  unfold addIP FirstMatch.keepFirst isPrivateIPv4
  simp only [Bool.and_eq_true, decide_eq_true_eq, and_assoc, Bool.not_eq_true']
  split_ifs <;> rfl

private theorem addIP_publicIPv6 :
    (addIP metadata ip).publicIPv6 =
      FirstMatch.keepFirst isIPv6 (·.address) "" metadata.publicIPv6 ip := by
  unfold addIP FirstMatch.keepFirst isIPv6
  simp only [decide_eq_true_eq]
  split_ifs <;> simp_all

section Field

variable {field : Metadata → String} {isKind : MetadataInstanceIP → Bool}

private theorem field_foldl_addIP (step : ∀ metadata ip, field (addIP metadata ip) =
      FirstMatch.keepFirst isKind (·.address) "" (field metadata) ip)
    {metadata : Metadata} (isBlank : field metadata = "") (ips : List MetadataInstanceIP) :
    field (ips.foldl addIP metadata) = FirstMatch.firstValue isKind (·.address) "" ips := by
  rw [← List.foldl_hom field fun metadata ip => (step metadata ip).symm,
    FirstMatch.foldl_keepFirst, if_pos isBlank]

theorem field_toEC2Instance (step : ∀ metadata ip, field (addIP metadata ip) =
      FirstMatch.keepFirst isKind (·.address) "" (field metadata) ip)
    (ofFacility : ∀ (metadata : Metadata) (plan facility : String),
      field { metadata with plan, facility } = field metadata)
    (isBlank : ∀ instanceID hostname localHostname tags operatingSystem,
      field { instanceID, hostname, localHostname, tags, operatingSystem } = "")
    (hw : Hardware) : field (toEC2Instance hw).metadata = firstAddress isKind hw := by
  have ofInstance : field (instanceMetadata (hw.metadata.bind (·.instance))) =
      firstAddress isKind hw := by
    unfold firstAddress instanceIPs
    cases hw.metadata.bind (·.instance) with
    | none => exact isBlank "" "" "" [] {}
    | some found => exact field_foldl_addIP step (isBlank _ _ _ _ _) found.ips
  unfold toEC2Instance
  cases hw.metadata.bind (·.facility) with
  | none => exact ofInstance
  | some => exact (ofFacility _ _ _).trans ofInstance

end Field

structure RightAddresses (hw : Hardware) : Prop where
  publicIPv4 : serveData "/meta-data/public-ipv4" (.ok (toEC2Instance hw)) =
    some ⟨200, firstAddress isPublicIPv4 hw⟩
  localIPv4 : serveData "/meta-data/local-ipv4" (.ok (toEC2Instance hw)) =
    some ⟨200, firstAddress isPrivateIPv4 hw⟩
  publicIPv6 : serveData "/meta-data/public-ipv6" (.ok (toEC2Instance hw)) =
    some ⟨200, firstAddress isPublicIPv6 hw⟩

/-- The first IPv6 address is public, or has the text of the first that is. -/
def FirstIPv6Public (hw : Hardware) : Prop :=
  ∀ first, (instanceIPs hw).find? (fun ip => isIPv6 ip && ip.address ≠ "") = some first →
    isPublicIPv6 first = true ∨
      ∃ other, (instanceIPs hw).find? (fun ip => isPublicIPv6 ip && ip.address ≠ "") = some other ∧
        other.address = first.address

/-- Addresses are served rightly exactly when no private IPv6 address comes first. -/
theorem served_addresses_right_iff (hw : Hardware) : RightAddresses hw ↔ FirstIPv6Public hw := by
  have ofPublicIPv4 := field_toEC2Instance addIP_publicIPv4 (fun _ _ _ => rfl)
    (fun _ _ _ _ _ => rfl) hw
  have ofLocalIPv4 := field_toEC2Instance addIP_localIPv4 (fun _ _ _ => rfl)
    (fun _ _ _ _ _ => rfl) hw
  have ofIPv6 := field_toEC2Instance addIP_publicIPv6 (fun _ _ _ => rfl)
    (fun _ _ _ _ _ => rfl) hw
  have narrower : ∀ ip, isPublicIPv6 ip = true → isIPv6 ip = true := by
    intro ip accepted
    exact (Bool.and_eq_true_iff.mp accepted).1
  refine Iff.trans ?_ (FirstMatch.firstValue_eq_iff narrower (instanceIPs hw))
  constructor
  · intro right
    have served := congrArg Response.body (Option.some.inj right.publicIPv6)
    exact ofIPv6.symm.trans served
  · intro sameAddress
    refine ⟨?_, ?_, ?_⟩
    · exact congrArg (fun text => some (Response.mk 200 text)) ofPublicIPv4
    · exact congrArg (fun text => some (Response.mk 200 text)) ofLocalIPv4
    · exact congrArg (fun text => some (Response.mk 200 text)) (ofIPv6.trans sameAddress)

/-- A private IPv6 address is served as the public one. -/
theorem private_ipv6_served_as_public :
    let hw : Hardware :=
      { metadata := some { «instance» := some { ips := [⟨"fd00::1", 6, false⟩] } } }
    serveData "/meta-data/public-ipv6" (.ok (toEC2Instance hw)) = some ⟨200, "fd00::1"⟩ ∧
      ¬ RightAddresses hw := by
  refine ⟨by decide +kernel, ?_⟩
  intro right
  have isEmpty := right.publicIPv6
  revert isEmpty
  decide +kernel

end Tinkerbell.Tootles
