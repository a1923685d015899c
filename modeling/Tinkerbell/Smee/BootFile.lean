import Tinkerbell.Smee.BinaryHandlers
import Tinkerbell.Smee.DhcpHandlers

/-!
Owns: that the boot files of the reservation handler lead back to the binaries
they were made for.

The URLs of the handler are those of the library, with a scheme, a host and a
path, as the configuration builds them. The TFTP handler matches the whole
path, so a line break in it would hide the traceparent; its own URLs have none.
-/

namespace Tinkerbell.Smee

open ByteText UrlPath NetAddress Dhcp Binary

def netUrls (parse parseRequestURI : String → Option Url) (hostText : AddrPort → String) :
    Urls Url where
  parse
  parseRequestURI
  text := urlText
  scheme := Url.scheme
  hostname
  joinPath := fun url elements => UrlPath.joinPath url (elements.map bytesOf)
  tftp := fun server => { scheme := "tftp", host := hostText server }

def lowerHexDigits : List Char := "0123456789abcdef".toList

def nameChars : List Char :=
  "abcdefghijklmnopqrstuvwxyzABCDEFGHIJKLMNOPQRSTUVWXYZ0123456789.-_".toList

theorem forall_mem_of_all {alphabet text : List Char}
    (all : (text.all fun c => alphabet.contains c) = true) : ∀ c ∈ text, c ∈ alphabet := by
  intro c member
  exact List.contains_iff_mem.mp (List.all_eq_true.mp all c member)

/-- The names that binaries have. -/
structure IsBinaryName (name : String) : Prop where
  notEmpty : name ≠ ""
  chars : ∀ c ∈ name.toList, c ∈ nameChars

/-- A valid identifier of a trace or a span. -/
structure HexID (length : Nat) where
  digits : List Char
  isLength : digits.length = length
  lowerCase : ∀ c ∈ digits, c ∈ lowerHexDigits
  notZero : ∃ c ∈ digits, c ≠ '0'

/-- A valid W3C traceparent of version 00. -/
structure Traceparent where
  traceID : HexID 32
  spanID : HexID 16
  flags : List Char
  flagsLength : flags.length = 2
  flagsLowerCase : ∀ c ∈ flags, c ∈ lowerHexDigits

def Traceparent.text (traceparent : Traceparent) : String :=
  String.ofList ("00-".toList ++ traceparent.traceID.digits ++ '-' :: traceparent.spanID.digits ++
    '-' :: traceparent.flags)

def digitBytes (digits : List Char) : Bytes := digits.map fun c => UInt8.ofNat c.toNat

variable {digits : List Char} {byte : UInt8}

theorem flatMap_utf8EncodeChar_digits (lowerCase : ∀ c ∈ digits, c ∈ lowerHexDigits) :
    digits.flatMap String.utf8EncodeChar = digitBytes digits := by
  have single : (lowerHexDigits.all fun c =>
      String.utf8EncodeChar c == [UInt8.ofNat c.toNat]) = true := by decide
  induction digits with
  | nil => rfl
  | cons c _ ih =>
    have ofDigit := List.all_eq_true.mp single c (lowerCase c (by simp))
    rw [List.flatMap_cons, eq_of_beq ofDigit,
      ih fun other member => lowerCase other (by simp [member])]
    rfl

theorem lowerCase_digitBytes (lowerCase : ∀ c ∈ digits, c ∈ lowerHexDigits) :
    ∀ byte ∈ digitBytes digits, (48 ≤ byte ∧ byte ≤ 57) ∨ (97 ≤ byte ∧ byte ≤ 102) := by
  have digit : ((digitBytes lowerHexDigits).all fun byte =>
      (48 ≤ byte ∧ byte ≤ 57) ∨ (97 ≤ byte ∧ byte ≤ 102)) = true := by decide
  intro byte member
  obtain ⟨c, inDigits, rfl⟩ := List.mem_map.mp member
  exact of_decide_eq_true
    (List.all_eq_true.mp digit _ (List.mem_map_of_mem (lowerCase c inDigits)))

theorem isHexID_digitBytes {length : Nat} (id : HexID length) :
    IsHexID length (digitBytes id.digits) where
  isLength := by rw [digitBytes, List.length_map, id.isLength]
  lowerCase := lowerCase_digitBytes id.lowerCase
  notZero := by
    have other : (lowerHexDigits.all fun c =>
        c == '0' || UInt8.ofNat c.toNat != 48) = true := by decide
    obtain ⟨c, member, notZero⟩ := id.notZero
    have ofDigit := List.all_eq_true.mp other c (id.lowerCase c member)
    exact ⟨_, List.mem_map_of_mem member, by simpa [notZero] using ofDigit⟩

def Traceparent.parts (traceparent : Traceparent) : Parts where
  version := digitBytes "00".toList
  traceText := digitBytes traceparent.traceID.digits
  spanText := digitBytes traceparent.spanID.digits
  flags := digitBytes traceparent.flags
  isVersion := by decide
  isTraceID := isHexID_digitBytes traceparent.traceID
  isSpanID := isHexID_digitBytes traceparent.spanID
  isFlags := ⟨by rw [digitBytes, List.length_map, traceparent.flagsLength],
    all_isXDigit (lowerCase_digitBytes traceparent.flagsLowerCase)⟩

private theorem bytesOf_traceparent (traceparent : Traceparent) :
    bytesOf ("-" ++ traceparent.text) = traceparent.parts.suffix := by
  have isDash : String.utf8EncodeChar '-' = [Binary.dash] := by decide
  have isVersion : "00-".toList.flatMap String.utf8EncodeChar =
      digitBytes "00".toList ++ [Binary.dash] := by decide
  have isSeparator : bytesOf "-" = [Binary.dash] := by decide
  rw [bytesOf_append, isSeparator]
  unfold Traceparent.text bytesOf
  simp only [String.toList_ofList, List.flatMap_append, List.flatMap_cons, isDash, isVersion,
    flatMap_utf8EncodeChar_digits traceparent.traceID.lowerCase,
    flatMap_utf8EncodeChar_digits traceparent.spanID.lowerCase,
    flatMap_utf8EncodeChar_digits traceparent.flagsLowerCase, Parts.suffix, Parts.values,
    Traceparent.parts, List.flatMap_nil, List.append_assoc, List.cons_append, List.nil_append,
    List.append_nil]

def specialBytes : Bytes := [slash, percent, newline]

theorem notMem_binaryName {name : String} (isName : IsBinaryName name)
    (special : byte ∈ specialBytes) : byte ∉ bytesOf name :=
  notMem_bytesOf isName.chars (by decide +kernel) special

theorem isElement_binaryName {name : String} (isName : IsBinaryName name) :
    IsElement (bytesOf name) where
  noSlash := notMem_binaryName isName (by decide)
  notEmpty := bytesOf_ne_nil isName.notEmpty

variable (mac : List UInt8)

private theorem macChars_dotText : ∀ c ∈ dotText mac, c ∈ macChars := by
  fun_induction dotText mac with
  | case1 => simp
  | case2 octet => exact macChars_octetText octet
  | case3 first second =>
    rw [List.forall_mem_append]
    exact ⟨macChars_octetText first, macChars_octetText second⟩
  | case4 first second rest _ ih =>
    rw [List.forall_mem_append, List.forall_mem_append, List.forall_mem_cons]
    exact ⟨⟨macChars_octetText first, macChars_octetText second⟩, by decide, ih⟩

private theorem macChars_dashText : ∀ c ∈ ['-'].intercalate (mac.map octetText), c ∈ macChars := by
  induction mac with
  | nil => simp
  | cons octet rest ih =>
    cases rest with
    | nil =>
      exact macChars_octetText octet
    | cons =>
      rw [List.map_cons, List.map_cons, List.intercalate_cons_cons, List.forall_mem_append,
        List.forall_mem_append]
      exact ⟨⟨macChars_octetText octet, List.forall_mem_singleton.mpr (by decide)⟩, ih⟩

private theorem macChars_macAddrFormat (format : MACFormat) :
    ∀ c ∈ (macAddrFormat mac format).toList, c ∈ macChars := by
  cases format with
  | colon =>
    rw [macAddrFormat, macString, String.toList_ofList]
    exact macChars_macText mac
  | dot =>
    rw [macAddrFormat, String.toList_ofList]
    exact macChars_dotText mac
  | dash =>
    rw [macAddrFormat, String.toList_ofList]
    exact macChars_dashText mac
  | noDelimiter =>
    rw [macAddrFormat, String.toList_ofList]
    intro c member
    obtain ⟨octet, _, inOctet⟩ := List.mem_flatMap.mp member
    exact macChars_octetText octet c inOctet
  | empty => simp [macAddrFormat]

theorem notMem_macAddrFormat (format : MACFormat) (special : byte ∈ specialBytes) :
    byte ∉ bytesOf (macAddrFormat mac format) :=
  notMem_bytesOf (macChars_macAddrFormat mac format) (by decide) special

section LeadsBack

variable {TraceID SpanID : Type} (tracing : Tracing TraceID SpanID)

structure ResolvesHTTP (path : Bytes) (name : String) : Prop where
  filename : httpFilename tracing path = bytesOf name
  answer : ∀ files patch method, method = "GET" ∨ method = "HEAD" →
    Binary.handle tracing files patch method path = serveFile files patch (bytesOf name)

structure ResolvesTFTP (path : Bytes) (name : String) : Prop where
  filename : (tftpRequest tracing path).base = bytesOf name
  answer : ∀ files patch routes file, files (bytesOf name) = some file →
    handleRead tracing (embeddedIPXERoute files patch :: routes) path = patch file

structure Resolves (path : Bytes) (name : String) : Prop where
  http : ResolvesHTTP tracing path name
  tftp : ResolvesTFTP tracing path name

variable {name : String} {traceparent : Traceparent}

variable {path : Bytes} {server url : Url}

theorem resolvesHTTP_of_filename (isName : httpFilename tracing path = bytesOf name) :
    ResolvesHTTP tracing path name where
  filename := isName
  answer := by
    intro files patch method reads
    have allowed : ¬(method ≠ "GET" ∧ method ≠ "HEAD") := by
      rintro ⟨notGet, notHead⟩
      exact reads.elim notGet notHead
    unfold Binary.handle
    rw [if_neg allowed, isName]

theorem resolvesTFTP_of_filename (isName : (tftpRequest tracing path).base = bytesOf name) :
    ResolvesTFTP tracing path name where
  filename := isName
  answer := fun _ _ routes _ isFile => handleRead_embedded tracing isName isFile routes

theorem bytesOf_named (name : String) (traceparent : Traceparent) :
    bytesOf (name ++ "-" ++ traceparent.text) = bytesOf name ++ traceparent.parts.suffix := by
  rw [String.append_assoc, bytesOf_append, bytesOf_traceparent]

private theorem isName_named (isName : IsBinaryName name) (traceparent : Traceparent) :
    IsName (bytesOf name ++ traceparent.parts.suffix) := by
  have isElement := isElement_append (isElement_binaryName isName) traceparent.parts
  have isLength := traceparent.parts.length_suffix
  have long : 56 ≤ (bytesOf name ++ traceparent.parts.suffix).length := by
    rw [List.length_append, isLength]
    exact Nat.le_add_left 56 _
  refine ⟨isElement, ?_, ?_⟩
  · intro isDot
    rw [isDot] at long
    exact absurd long (by decide)
  · intro isDotDot
    rw [isDotDot] at long
    exact absurd long (by decide)

theorem notMem_named (isName : IsBinaryName name) (traceparent : Traceparent) {byte : UInt8}
    (special : byte ∈ specialBytes) :
    byte ∉ bytesOf name ++ traceparent.parts.suffix := by
  have apart : (specialBytes.all fun byte => byte != Binary.dash && !isXDigit byte) = true := by
    decide
  have other := List.all_eq_true.mp apart byte special
  rw [Bool.and_eq_true, bne_iff_ne, Bool.not_eq_true'] at other
  rw [List.mem_append, not_or]
  exact ⟨notMem_binaryName isName special, traceparent.parts.notMem_suffix other.1 other.2⟩

structure Named (server url : Url) (name : String) (traceparent : Traceparent) : Prop where
  isScheme : url.scheme = server.scheme
  isHost : url.host = server.host
  endsIn : EndsIn url.path (bytesOf name ++ traceparent.parts.suffix)
  noBreak : newline ∉ server.path → newline ∉ url.path

theorem named_joinPath (isName : IsBinaryName name) (traceparent : Traceparent) (server : Url)
    (mac : List UInt8) (format : MACFormat) :
    Named server (UrlPath.joinPath server
      ([macAddrFormat mac format, name ++ "-" ++ traceparent.text].map bytesOf)) name
      traceparent := by
  -- A line break is allowed only if the path of the server has one.
  let allowed : UInt8 → Prop := fun byte => byte = newline → newline ∈ server.path
  have allowedOf : ∀ {text : Bytes}, newline ∉ text → ∀ byte ∈ text, allowed byte := by
    intro text noBreak byte member isBreak
    exact absurd (isBreak ▸ member) noBreak
  have macDecodes : Decodes allowed (bytesOf (macAddrFormat mac format)) :=
    decodes_plain (notMem_macAddrFormat mac format (by decide))
      (allowedOf (notMem_macAddrFormat mac format (by decide)))
  have slashAllowed : allowed slash := fun isBreak => absurd isBreak (by decide)
  have joined := endsIn_joinPath slashAllowed server (fun byte member isBreak => isBreak ▸ member)
    (List.forall_mem_singleton.mpr macDecodes) (isName_named isName traceparent)
    (notMem_named isName traceparent (by decide))
    (allowedOf (notMem_named isName traceparent (by decide)))
  have isServer := joinPath_server server
    ([bytesOf (macAddrFormat mac format)] ++ [bytesOf name ++ traceparent.parts.suffix])
  rw [List.map_cons, List.map_cons, List.map_nil, bytesOf_named]
  refine ⟨isServer.1, isServer.2, joined.1, ?_⟩
  intro noBreak inPath
  exact noBreak (joined.2 newline inPath rfl)

theorem Named.http (named : Named server url name traceparent) (isName : IsBinaryName name) :
    ∀ path ∈ [url.path, requestPath url], ResolvesHTTP tracing path name := by
  have isElement := isElement_binaryName isName
  have noBreak : newline ∉ bytesOf name := notMem_binaryName isName (by decide)
  rw [List.forall_mem_cons, List.forall_mem_singleton]
  constructor
  · apply resolvesHTTP_of_filename
    exact httpFilename_of_endsIn tracing isElement noBreak named.endsIn
  · apply resolvesHTTP_of_filename
    exact httpFilename_of_endsIn tracing isElement noBreak named.endsIn.requestPath

theorem Named.resolves (named : Named server url name traceparent) (isName : IsBinaryName name)
    (noBreak : newline ∉ server.path) :
    ∀ path ∈ [url.path, requestPath url], Resolves tracing path name := by
  have isElement := isElement_binaryName isName
  have noBreakRequest : newline ∉ requestPath url := by
    intro member
    rcases mem_requestPath member with inPath | isSlash
    · exact named.noBreak noBreak inPath
    · exact absurd isSlash (by decide)
  have http := named.http tracing isName
  rw [List.forall_mem_cons, List.forall_mem_singleton] at http ⊢
  refine ⟨⟨http.1, ?_⟩, ⟨http.2, ?_⟩⟩
  · apply resolvesTFTP_of_filename
    exact tftpRequest_of_endsIn tracing isElement (named.noBreak noBreak) named.endsIn
  · apply resolvesTFTP_of_filename
    exact tftpRequest_of_endsIn tracing isElement noBreakRequest named.endsIn.requestPath

theorem Traceparent.text_ne_empty (traceparent : Traceparent) : traceparent.text ≠ "" := by
  intro isEmpty
  have isText : traceparent.text.toList = [] := by rw [isEmpty]; rfl
  unfold Traceparent.text at isText
  exact absurd isText (by simp)

theorem bootfileAndNextServer_traced {URL : Type} (urls : Urls URL) {settings : Settings URL}
    {trace : Trace} (info : Info) (ipxeScript : Option URL) (enabled : settings.otelEnabled = true)
    (isTrace : trace.text = traceparent.text) :
    (bootfileAndNextServer urls settings trace info ipxeScript).1 =
      bootfile urls { info with ipxeBinary := info.ipxeBinary ++ "-" ++ traceparent.text }
        settings.netboot.userClass ipxeScript settings.netboot.ipxeBinServerHTTP
        settings.netboot.ipxeBinServerTFTP := by
  have appended : (settings.otelEnabled && trace.text != "") = true := by
    rw [enabled, isTrace, Bool.true_and, bne_iff_ne]
    exact traceparent.text_ne_empty
  unfold bootfileAndNextServer
  rw [if_pos appended, isTrace]

/-- The boot file that the reservation handler makes for a client that is to be served a
binary, with the traceparent of the request appended, is resolved to that binary. -/
theorem boot_files_lead_back (parse parseRequestURI : String → Option Url)
    (hostText : AddrPort → String) (settings : Settings Url) (trace : Trace)
    (traceparent : Traceparent) (info : Info) (ipxeScript : Option Url)
    (enabled : settings.otelEnabled = true) (isTrace : trace.text = traceparent.text)
    (isName : IsBinaryName info.ipxeBinary)
    (forBinary : ¬(info.userClass = ascii "Tinkerbell" ∨
      (settings.netboot.userClass ≠ [] ∧ info.userClass = settings.netboot.userClass))) :
    let bootFile := (bootfileAndNextServer (netUrls parse parseRequestURI hostText) settings trace
      info ipxeScript).1
    (info.clientType = .httpClient → ∀ server, settings.netboot.ipxeBinServerHTTP = some server →
      ∃ url, bootFile = urlText url ∧ url.scheme = server.scheme ∧ url.host = server.host ∧
        ∀ path ∈ [url.path, requestPath url],
          ResolvesHTTP tracing path info.ipxeBinary ∧
          (newline ∉ server.path → Resolves tracing path info.ipxeBinary)) ∧
    (info.clientType ≠ .httpClient → info.userClass = ascii "iPXE" →
      ∃ url, bootFile = urlText url ∧ url.scheme = "tftp" ∧
        url.host = hostText settings.netboot.ipxeBinServerTFTP ∧
        ∀ path ∈ [url.path, requestPath url], Resolves tracing path info.ipxeBinary) ∧
    (info.clientType ≠ .httpClient → info.userClass ≠ ascii "iPXE" →
      bootFile = info.ipxeBinary ++ "-" ++ traceparent.text ∧
        Resolves tracing (bytesOf bootFile) info.ipxeBinary) := by
  intro bootFile
  have isBootFile : bootFile = _ :=
    (bootfileAndNextServer_traced (netUrls parse parseRequestURI hostText) info ipxeScript enabled
      isTrace).trans (if_neg forBinary)
  refine ⟨?_, ?_, ?_⟩
  · intro isHTTP server isServer
    have named := named_joinPath isName traceparent server info.mac info.macAddrFormat
    refine ⟨_, ?_, named.isScheme, named.isHost, ?_⟩
    · rw [isBootFile, if_pos isHTTP, isServer]
      rfl
    · intro path member
      exact ⟨named.http tracing isName path member,
        fun noBreak => named.resolves tracing isName noBreak path member⟩
  · intro notHTTP isIPXE
    let server : Url :=
      { scheme := "tftp", host := hostText settings.netboot.ipxeBinServerTFTP }
    have named := named_joinPath isName traceparent server info.mac info.macAddrFormat
    refine ⟨_, ?_, named.isScheme, named.isHost, named.resolves tracing isName (by simp [server])⟩
    rw [isBootFile, if_neg notHTTP, if_pos isIPXE]
    rfl
  · intro notHTTP notIPXE
    have isNamed : bootFile = info.ipxeBinary ++ "-" ++ traceparent.text := by
      have notEmpty : info.ipxeBinary ++ "-" ++ traceparent.text ≠ "" := by
        simp [isName.notEmpty]
      rw [isBootFile, if_neg notHTTP, if_neg notIPXE, if_pos notEmpty]
    refine ⟨isNamed, ?_⟩
    have isElement := isElement_binaryName isName
    have last : EndsIn (bytesOf bootFile)
        (bytesOf info.ipxeBinary ++ traceparent.parts.suffix) := by
      rw [isNamed, bytesOf_named]
      exact Or.inl rfl
    have noBreak : newline ∉ bytesOf bootFile := by
      rw [isNamed, bytesOf_named]
      exact notMem_named isName traceparent (by decide)
    constructor
    · apply resolvesHTTP_of_filename
      exact httpFilename_of_endsIn tracing isElement (notMem_binaryName isName (by decide)) last
    · apply resolvesTFTP_of_filename
      exact tftpRequest_of_endsIn tracing isElement noBreak last

end LeadsBack

def readHexID (length : Nat) (text : Bytes) : Except String Bytes :=
  if IsHexID length text then .ok text else .error "not a valid identifier"

def hexTracing : Tracing Bytes Bytes where
  traceIDFromHex := readHexID 32
  spanIDFromHex := readHexID 16
  traceIDFromHex_valid := fun text isID => ⟨text, if_pos isID⟩
  spanIDFromHex_valid := fun text isID => ⟨text, if_pos isID⟩

def sampleTraceparent : Traceparent where
  traceID := ⟨"0af7651916cd43dd8448eb211c80319c".toList, by decide, forall_mem_of_all (by decide),
    'a', by decide, by decide⟩
  spanID := ⟨"b7ad6b7169203331".toList, by decide, forall_mem_of_all (by decide), 'b', by decide,
    by decide⟩
  flags := "01".toList
  flagsLength := by decide
  flagsLowerCase := forall_mem_of_all (by decide)

def sampleInfo : Info where
  packet := ⟨.bootRequest, .discover, [2, 0, 0, 0, 0, 1], [], KeyedMap.empty⟩
  arch := 7
  mac := [2, 0, 0, 0, 0, 1]
  userClass := ascii "iPXE"
  clientType := .pxeClient
  ipxeBinary := "ipxe.efi-00-00000000000000000000000000000001-0000000000000001-00"
  macAddrFormat := .dot

def sampleSettings : Settings Url where
  ipAddr := none
  syslogAddr := none
  otelEnabled := true
  netboot := {
    ipxeBinServerTFTP := ⟨.v4 192 168 2 111, 69⟩
    ipxeBinServerHTTP := none
    ipxeScriptURL := fun _ => none
    enabled := true
    userClass := []
    injectMacAddrFormat := .dot
    ipxeArchMapping := KeyedMap.empty }

theorem boot_files_lead_back_sample :
    ∃ url, (bootfileAndNextServer (netUrls (fun _ => none) (fun _ => none)
        (fun _ => "192.168.2.111:69")) sampleSettings ⟨sampleTraceparent.text, []⟩ sampleInfo
        none).1 = urlText url ∧
      Resolves hexTracing url.path sampleInfo.ipxeBinary := by
  obtain ⟨url, isUrl, _, _, resolves⟩ := (boot_files_lead_back hexTracing (fun _ => none)
    (fun _ => none) (fun _ => "192.168.2.111:69") sampleSettings ⟨sampleTraceparent.text, []⟩
    sampleTraceparent sampleInfo none rfl rfl ⟨by decide, forall_mem_of_all (by decide +kernel)⟩
    (by decide)).2.1
    (by decide) rfl
  exact ⟨url, isUrl, resolves url.path List.mem_cons_self⟩

end Tinkerbell.Smee
