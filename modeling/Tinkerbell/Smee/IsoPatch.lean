import Tinkerbell.Library.UrlPath
import Tinkerbell.Smee.Iso
import Tinkerbell.Smee.Ipam
import Tinkerbell.Smee.DhcpHandlers

/-!
Owns: the kernel parameters that a boot image is patched with, and when the patch
stays within the magic string it replaces.

The parameters have no bound on their length, and neither the handler that makes
them nor the copy loop compares it with the room in the image. In one read the
patch stays in its place exactly when the image has no magic string or the
parameters fit (`patch_in_place_iff`).
-/

namespace Tinkerbell.Smee.Iso

open ByteText PatternSearch NetAddress Dhcp UrlPath

structure KernelParams where
  extraParams : List String
  syslog : String
  tinkServerTLS : Bool
  tinkServerGRPCAddr : String

/-- The settings for patching an image. -/
structure PatchSettings where
  kernelParams : KernelParams
  (magicString sourceISO : String)
  staticIPAMEnabled : Bool

def defaultConsoles : String :=
  "console=ttyAMA0 console=ttyS0 console=tty0 console=tty1 console=ttyS1"

def hasConsole (facility : String) : Bool :=
  decide ("console=".toList <:+: facility.toList)

def consoles (facility : String) : String :=
  if facility ≠ "" ∧ hasConsole facility = true then "facility=" ++ facility
  else if facility ≠ "" then "facility=" ++ facility ++ " " ++ defaultConsoles
  else defaultConsoles

def vlanParam : Option DHCP → List String
  | none => []
  | some d => if d.vlanID ≠ "" then ["vlan_id=" ++ d.vlanID] else []

def patchParams (settings : PatchSettings) (console mac : String) (d : Option DHCP) :
    List String :=
  let params := settings.kernelParams
  [console] ++ vlanParam d ++
    ["hw_addr=" ++ mac, "syslog_host=" ++ params.syslog,
      "grpc_authority=" ++ params.tinkServerGRPCAddr,
      "tinkerbell_tls=" ++ (if params.tinkServerTLS then "true" else "false"),
      "worker_id=" ++ mac] ++
    params.extraParams ++
    (if settings.staticIPAMEnabled = true ∧ parseIPAM d ≠ "" then [parseIPAM d] else [])

def constructPatch (settings : PatchSettings) (console mac : String) (d : Option DHCP) :
    String :=
  String.ofList (join ' ' ((patchParams settings console mac d).map String.toList))

section Request

variable {URL : Type} (urls : Urls URL)

inductive FacilityError where
  | noBackend
  | lookup (error : LookupError)
  | convert (error : ConvertError)

def getFacility (mac : List UInt8) (backend : Option (Except LookupError Api.Hardware)) :
    Except FacilityError (String × Dhcp.Hardware URL) :=
  match backend with
  | none => .error .noBackend
  | some (.error error) => .error (.lookup error)
  | some (.ok spec) =>
    match convertByMac urls mac spec with
    | .error error => .error (.convert error)
    | .ok hardware => .ok (hardware.netboot.facility, hardware)

def schemeAllowed (url : URL) : Bool :=
  urls.scheme url == "http" || urls.scheme url == "https"

def targetURL (fromHardware fromConfig : String) : Option URL :=
  if fromHardware ≠ "" then (urls.parse fromHardware).filter (schemeAllowed urls)
  else if fromConfig ≠ "" then (urls.parse fromConfig).filter (schemeAllowed urls)
  else none

def statusOf : FacilityError → Nat
  | .lookup .notFound => 404
  | _ => 500

def requestPatch (settings : PatchSettings) (mac : List UInt8)
    (backend : Option (Except LookupError Api.Hardware)) : Except Nat (Bytes × URL) :=
  match getFacility urls mac backend with
  | .error error => .error (statusOf error)
  | .ok (facility, hardware) =>
    let patch := bytesOf (constructPatch settings (consoles facility) (macString mac)
      (some hardware.dhcp))
    match targetURL urls ((hardware.sourceISO.map urls.text).getD "") settings.sourceISO with
    | none => .error 400
    | some url => .ok (patch, url)

end Request

def size (text : List Char) : Nat :=
  (text.map Char.utf8Size).sum

private theorem length_bytesOf (text : String) : (bytesOf text).length = size text.toList := by
  unfold bytesOf size
  rw [List.length_flatMap]
  congr 1
  apply List.map_congr_left
  intro c _
  exact String.length_utf8EncodeChar c

theorem size_append (left right : List Char) : size (left ++ right) = size left + size right := by
  unfold size
  rw [List.map_append, List.sum_append_nat]

theorem size_cons (c : Char) (text : List Char) : size (c :: text) = c.utf8Size + size text := by
  unfold size
  rw [List.map_cons, List.sum_cons]

theorem size_join {separator : Char} (oneByte : separator.utf8Size = 1) (piece : List Char)
    (pieces : List (List Char)) :
    size (join separator (piece :: pieces)) =
      size piece + (pieces.map fun text => 1 + size text).sum := by
  induction pieces generalizing piece with
  | nil =>
    rw [join_singleton]
    rfl
  | cons _ _ ih =>
    rw [join_cons_cons, size_append, size_cons, ih, oneByte, List.map_cons, List.sum_cons]
    omega

def ipamLength (d : DHCP) : Nat :=
  13 + ((ipamFields d).map size).sum

def consolesLength (facility : String) : Nat :=
  if facility ≠ "" ∧ hasConsole facility = true then 9 + size facility.toList
  else if facility ≠ "" then 9 + size facility.toList + 1 + size defaultConsoles.toList
  else size defaultConsoles.toList

def patchLength (settings : PatchSettings) (facility : String) (mac : List UInt8)
    (d : DHCP) : Nat :=
  let params := settings.kernelParams
  consolesLength facility +
    (if d.vlanID ≠ "" then 9 + size d.vlanID.toList else 0) +
    (9 + size (macText mac)) +
    (13 + size params.syslog.toList) +
    (16 + size params.tinkServerGRPCAddr.toList) +
    (if params.tinkServerTLS then 20 else 21) +
    (11 + size (macText mac)) +
    (params.extraParams.map fun param => 1 + size param.toList).sum +
    (if settings.staticIPAMEnabled then 1 + ipamLength d else 0)

variable (settings : PatchSettings) (d : DHCP)

private theorem size_parseIPAM : size (parseIPAM (some d)).toList = ipamLength d := by
  have isName : size "ipam=".toList = 5 := by decide
  unfold parseIPAM ipamText ipamLength
  rw [String.toList_append, size_append, isName, String.toList_ofList]
  unfold ipamFields
  rw [size_join rfl]
  simp only [List.map_cons, List.map_nil, List.sum_cons, List.sum_nil]
  omega

private theorem size_consoles (facility : String) :
    size (consoles facility).toList = consolesLength facility := by
  have isName : size "facility=".toList = 9 := by decide
  have isBlank : size " ".toList = 1 := by decide
  unfold consoles consolesLength
  split
  · rw [String.toList_append, size_append, isName]
  · split
    · simp only [String.toList_append, size_append, isName, isBlank]
    · rfl

private theorem parseIPAM_ne_empty : parseIPAM (some d) ≠ "" := by
  intro isEmpty
  have noChars := congrArg String.toList isEmpty
  unfold parseIPAM at noChars
  rw [String.toList_append] at noChars
  cases noChars

def paramsLength (params : List String) : Nat :=
  (params.map fun param => 1 + size param.toList).sum

theorem paramsLength_append (left right : List String) :
    paramsLength (left ++ right) = paramsLength left + paramsLength right := by
  unfold paramsLength
  rw [List.map_append, List.sum_append_nat]

private theorem paramsLength_vlan :
    paramsLength (vlanParam (some d)) = if d.vlanID ≠ "" then 9 + size d.vlanID.toList else 0 := by
  have isName : size "vlan_id=".toList = 8 := by decide
  rw [vlanParam]
  split
  · simp only [paramsLength, List.map_cons, List.map_nil, List.sum_cons, List.sum_nil,
      String.toList_append, size_append, isName]
    omega
  · rfl

private theorem paramsLength_ipam (enabled : Bool) (d : DHCP) :
    paramsLength (if enabled = true ∧ parseIPAM (some d) ≠ "" then [parseIPAM (some d)] else []) =
      if enabled then 1 + ipamLength d else 0 := by
  cases enabled with
  | false => rfl
  | true =>
    rw [if_pos ⟨rfl, parseIPAM_ne_empty d⟩, if_pos rfl]
    simp only [paramsLength, List.map_cons, List.map_nil, List.sum_cons, List.sum_nil,
      size_parseIPAM, Nat.add_zero]

private theorem paramsLength_fixed (params : KernelParams) (mac : List UInt8) :
    paramsLength ["hw_addr=" ++ macString mac, "syslog_host=" ++ params.syslog,
        "grpc_authority=" ++ params.tinkServerGRPCAddr,
        "tinkerbell_tls=" ++ (if params.tinkServerTLS then "true" else "false"),
        "worker_id=" ++ macString mac] =
      (9 + size (macText mac)) + (13 + size params.syslog.toList) +
        (16 + size params.tinkServerGRPCAddr.toList) +
        (if params.tinkServerTLS then 20 else 21) + (11 + size (macText mac)) := by
  have isMac : (macString mac).toList = macText mac := String.toList_ofList
  have isAddr : size "hw_addr=".toList = 8 := by decide
  have isSyslog : size "syslog_host=".toList = 12 := by decide
  have isGRPC : size "grpc_authority=".toList = 15 := by decide
  have isTLS : size "tinkerbell_tls=".toList +
      size (if params.tinkServerTLS then "true" else "false").toList =
        if params.tinkServerTLS then 19 else 20 := by
    cases params.tinkServerTLS <;> decide
  have isWorker : size "worker_id=".toList = 10 := by decide
  simp only [paramsLength, List.map_cons, List.map_nil, List.sum_cons, List.sum_nil,
    String.toList_append, size_append, isMac, isAddr, isSyslog, isGRPC, isTLS, isWorker]
  split <;> omega

private theorem size_joinParams (first : String) (params : List String) :
    size (join ' ' ((first :: params).map String.toList)) =
      size first.toList + paramsLength params := by
  rw [List.map_cons, size_join rfl, List.map_map]
  rfl

private theorem patchParams_eq (console mac : String) (d : Option DHCP) :
    patchParams settings console mac d =
      console :: (vlanParam d ++
        ["hw_addr=" ++ mac, "syslog_host=" ++ settings.kernelParams.syslog,
          "grpc_authority=" ++ settings.kernelParams.tinkServerGRPCAddr,
          "tinkerbell_tls=" ++ (if settings.kernelParams.tinkServerTLS then "true" else "false"),
          "worker_id=" ++ mac] ++
        settings.kernelParams.extraParams ++
        (if settings.staticIPAMEnabled = true ∧ parseIPAM d ≠ "" then [parseIPAM d] else [])) :=
  rfl

theorem length_constructPatch (facility : String) (mac : List UInt8) (d : DHCP) :
    (bytesOf (constructPatch settings (consoles facility) (macString mac) (some d))).length =
      patchLength settings facility mac d := by
  rw [length_bytesOf]
  unfold constructPatch
  rw [String.toList_ofList]
  rw [patchParams_eq, size_joinParams, paramsLength_append, paramsLength_append,
    paramsLength_append, paramsLength_vlan, paramsLength_fixed, paramsLength_ipam, size_consoles]
  unfold patchLength paramsLength
  dsimp only
  omega

theorem bytesOf_constructPatch (console mac : String) (d : Option DHCP) :
    bytesOf (constructPatch settings console mac d) =
      (join ' ' ((patchParams settings console mac d).map String.toList)).flatMap
        String.utf8EncodeChar := by
  unfold bytesOf constructPatch
  rw [String.toList_ofList]

structure PatchedInPlace (magicString isoPatch stream : Bytes) (progress : Progress) :
    Prop where
  written : progress.written = stream.length
  sameLength : progress.output.length = stream.length
  unchanged : ∀ place, (∀ start, magicString <+: stream.drop start →
      place < start ∨ start + magicString.length ≤ place) →
    progress.output[place]? = stream[place]?
  whole : ∀ start, FirstAt magicString stream start →
    (progress.output.drop start).take magicString.length =
      isoPatch ++ List.replicate (magicString.length - isoPatch.length) 32

theorem exists_firstAt {pattern text : Bytes} (occurs : pattern <:+: text) :
    ∃ position, FirstAt pattern text position := by
  by_cases isEmpty : pattern = []
  · refine ⟨0, ?_, fun earlier below => absurd below (Nat.not_lt_zero earlier)⟩
    rw [isEmpty]
    exact List.nil_prefix
  · obtain ⟨position, found⟩ := (infix_iff_found isEmpty text).mp occurs
    exact ⟨position, (index_eq_some_iff isEmpty).mp found⟩

theorem infix_of_prefix_drop {pattern text : Bytes} {start : Nat}
    (occurs : pattern <+: text.drop start) : pattern <:+: text :=
  occurs.isInfix.trans (List.drop_suffix start text).isInfix

private theorem copy_absent {patch : Patch} (isoPatch : Bytes) {stream : Bytes}
    (absent : index patch.magicString stream = none) :
    copy patch isoPatch (oneRead stream) = ⟨stream, stream.length, some none⟩ := by
  unfold copy oneRead
  rw [copyFrom]
  by_cases isEmpty : stream = []
  · rw [if_pos isEmpty, isEmpty]
    rfl
  · have unpatched : patchRead patch isoPatch stream = stream := by
      unfold patchRead
      rw [absent]
    dsimp only
    rw [if_neg isEmpty, unpatched, if_neg (by simp), List.take_length, Nat.zero_add]
    rfl

private theorem patchedInPlace_absent {magicString isoPatch stream : Bytes}
    (absent : ¬magicString <:+: stream) :
    PatchedInPlace magicString isoPatch stream (copy ⟨magicString⟩ isoPatch (oneRead stream)) := by
  have nonempty : magicString ≠ [] := by
    rintro rfl
    exact absent (List.nil_infix)
  have notFound : index magicString stream = none := by
    rw [index_eq_none_iff nonempty]
    intro position occurs
    exact absent (infix_of_prefix_drop occurs)
  rw [@copy_absent ⟨magicString⟩ isoPatch stream notFound]
  exact
    { written := rfl
      sameLength := rfl
      unchanged := fun _ _ => rfl
      whole := fun start first => absurd (infix_of_prefix_drop first.1) absent }

variable {magicString isoPatch stream : Bytes}

theorem patchedInPlace_fits (nonempty : isoPatch ≠ []) (fits : isoPatch.length ≤ magicString.length)
    (occurs : magicString <:+: stream) :
    PatchedInPlace magicString isoPatch stream (copy ⟨magicString⟩ isoPatch (oneRead stream)) := by
  have someMagic : magicString ≠ [] := by
    rintro rfl
    exact nonempty (List.eq_nil_of_length_eq_zero (Nat.le_zero.mp fits))
  have isLong : (replacement ⟨magicString⟩ isoPatch).length = magicString.length :=
    length_replacement fits
  have isCopy : copy ⟨magicString⟩ isoPatch (oneRead stream) =
      ⟨replaceFirst magicString (replacement ⟨magicString⟩ isoPatch) stream, stream.length,
        some none⟩ := by
    rw [copy_complete someMagic fits (complete_oneRead stream)]
    simp [reads, oneRead]
  obtain ⟨position, first⟩ := exists_firstAt occurs
  have found := (index_eq_some_iff someMagic).mpr first
  rw [isCopy]
  constructor
  · rfl
  · exact length_replaceFirst someMagic isLong stream
  · intro place outside
    exact getElem?_replaceFirst someMagic isLong found (outside position first.1)
  · intro start firstStart
    have sameStart : some position = some start := by
      rw [← found]
      exact (index_eq_some_iff someMagic).mpr firstStart
    cases sameStart
    rw [take_drop_replaceFirst someMagic isLong found]
    unfold replacement Patch.magicStrPadding
    rw [List.drop_replicate]

theorem not_patchedInPlace {progress : Progress} (long : magicString.length < isoPatch.length)
    (occurs : magicString <:+: stream) :
    ¬PatchedInPlace magicString isoPatch stream progress := by
  intro inPlace
  obtain ⟨position, first⟩ := exists_firstAt occurs
  have sameLength := congrArg List.length (inPlace.whole position first)
  rw [List.length_take, List.length_append] at sameLength
  omega

section Serve

variable {URL : Type} (urls : Urls URL)

def ServesInPlace (settings : PatchSettings) (stream : Bytes)
    (outcome : Except Nat (Bytes × URL)) : Prop :=
  ∀ isoPatch url, outcome = .ok (isoPatch, url) →
    PatchedInPlace (bytesOf settings.magicString) isoPatch stream
      (copy ⟨bytesOf settings.magicString⟩ isoPatch (oneRead stream))

def Fits (settings : PatchSettings) (mac : List UInt8) (stream : Bytes)
    (hardware : Dhcp.Hardware URL) : Prop :=
  ¬bytesOf settings.magicString <:+: stream ∨
    patchLength settings hardware.netboot.facility mac hardware.dhcp ≤
      (bytesOf settings.magicString).length

def targetOf (settings : PatchSettings) (hardware : Dhcp.Hardware URL) : Option URL :=
  targetURL urls ((hardware.sourceISO.map urls.text).getD "") settings.sourceISO

private theorem patchLength_pos (settings : PatchSettings) (facility : String) (mac : List UInt8)
    (d : DHCP) : 0 < patchLength settings facility mac d := by
  unfold patchLength
  dsimp only
  omega

theorem requestPatch_ok_iff (settings : PatchSettings) (mac : List UInt8)
    (backend : Option (Except LookupError Api.Hardware)) (isoPatch : Bytes) (url : URL) :
    requestPatch urls settings mac backend = .ok (isoPatch, url) ↔
      ∃ record hardware, backend = some (.ok record) ∧
        convertByMac urls mac record = .ok hardware ∧ targetOf urls settings hardware = some url ∧
        isoPatch = bytesOf (constructPatch settings (consoles hardware.netboot.facility)
          (macString mac) (some hardware.dhcp)) := by
  unfold requestPatch getFacility
  constructor
  · intro served
    match backend with
    | none | some (.error error) => cases served
    | some (.ok record) =>
      cases isConverted : convertByMac urls mac record with
      | error =>
        simp only [isConverted] at served
        cases served
      | ok hardware =>
        simp only [isConverted] at served
        cases isTarget : targetURL urls ((hardware.sourceISO.map urls.text).getD "")
            settings.sourceISO with
        | none =>
          rw [isTarget] at served
          cases served
        | some target =>
          rw [isTarget] at served
          obtain ⟨isPatch, isURL⟩ := Prod.mk.inj (Except.ok.inj served)
          rw [isURL] at isTarget
          exact ⟨record, hardware, rfl, isConverted, isTarget, isPatch.symm⟩
  · rintro ⟨record, hardware, isBackend, isConverted, isTarget, isPatch⟩
    unfold targetOf at isTarget
    rw [isBackend, isPatch]
    simp only [isConverted, isTarget]

/-- The requests of a machine are served with the patch in its place, or refused,
exactly when the image has no magic string or the parameters fit into it. -/
theorem patch_in_place_iff (settings : PatchSettings) (mac : List UInt8)
    (backend : Option (Except LookupError Api.Hardware)) (stream : Bytes) :
    ServesInPlace settings stream (requestPatch urls settings mac backend) ↔
      ∀ record hardware, backend = some (.ok record) →
        convertByMac urls mac record = .ok hardware →
        (targetOf urls settings hardware).isSome = true → Fits settings mac stream hardware := by
  constructor
  · intro serves record hardware isBackend isConverted hasTarget
    obtain ⟨url, isTarget⟩ := Option.isSome_iff_exists.mp hasTarget
    have inPlace := serves _ url ((requestPatch_ok_iff urls settings mac backend _ url).mpr
      ⟨record, hardware, isBackend, isConverted, isTarget, rfl⟩)
    by_contra unfit
    obtain ⟨occurs, long⟩ := not_or.mp unfit
    rw [← length_constructPatch] at long
    exact not_patchedInPlace (Nat.not_le.mp long) (not_not.mp occurs) inPlace
  · intro fits isoPatch url served
    obtain ⟨record, hardware, isBackend, isConverted, isTarget, isPatch⟩ :=
      (requestPatch_ok_iff urls settings mac backend isoPatch url).mp served
    rw [isPatch]
    have isLength := length_constructPatch settings hardware.netboot.facility mac hardware.dhcp
    have positive := patchLength_pos settings hardware.netboot.facility mac hardware.dhcp
    by_cases occurs : bytesOf settings.magicString <:+: stream
    · have roomy := (fits record hardware isBackend isConverted
        (Option.isSome_iff_exists.mpr ⟨url, isTarget⟩)).resolve_left (not_not.mpr occurs)
      rw [← isLength] at roomy positive
      exact patchedInPlace_fits (List.ne_nil_of_length_pos positive) roomy occurs
    · exact patchedInPlace_absent occurs

end Serve

def magicSettings : PatchSettings :=
  { kernelParams :=
      { extraParams := [], syslog := "", tinkServerTLS := false, tinkServerGRPCAddr := "" }
    magicString := "magic"
    sourceISO := "image"
    staticIPAMEnabled := false }

def imageRecord : Api.Hardware :=
  { name := "machine"
    «namespace» := "metal"
    spec := { interfaces :=
      [{ dhcp := some { mac := "00:01:02:03:04:05" }, netboot := some {} }] } }

/-- The consoles run over the magic string and over the byte behind it. -/
theorem long_patch_overruns :
    ∃ isoPatch, requestPatch plainUrls magicSettings [0, 1, 2, 3, 4, 5] (some (.ok imageRecord)) =
        .ok (isoPatch, "image") ∧
      (copy ⟨bytesOf "magic"⟩ isoPatch (oneRead [1, 109, 97, 103, 105, 99, 2])).output =
        [1, 99, 111, 110, 115, 111, 108] ∧
      ¬PatchedInPlace (bytesOf "magic") isoPatch [1, 109, 97, 103, 105, 99, 2]
        (copy ⟨bytesOf "magic"⟩ isoPatch (oneRead [1, 109, 97, 103, 105, 99, 2])) := by
  refine ⟨_, rfl, ?_, ?_⟩
  · rw [bytesOf_constructPatch]
    decide +kernel
  · refine not_patchedInPlace ?_ ⟨[1], [2], by decide +kernel⟩
    rw [bytesOf_constructPatch]
    decide +kernel

end Tinkerbell.Smee.Iso
