import Tinkerbell.Library.LineSplit
import Tinkerbell.Library.NetAddress
import Tinkerbell.Library.TextFields
import Tinkerbell.Library.UrlPath

/-!
Owns: the resolver file that is made for a container from the host's, and that an
isolated container can use it.

A host file is missing, or there and not readable, or has any bytes. The file is
written by joining the words that were parsed, so parsing it gives them back
(`parseResolvConf_writeResolvConf`), and everything claimed of the written file is
then about the parsed one.
-/

namespace Tinkerbell.Agent.ResolvConf

open ByteText (Bytes)
open TextFields (fields trimSpace unwords IsWord)
open UrlPath (bytesOf)

structure Parsed where
  (nameservers searchDomains options : List Bytes := [])
deriving DecidableEq

def maxScanTokenSize : Nat := 64 * 1024

def isComment (line : Bytes) : Bool :=
  line = [] || (bytesOf "#").isPrefixOf line || (bytesOf ";").isPrefixOf line

def addFields (conf : Parsed) : List Bytes → Parsed
  | key :: value :: values =>
    if key = bytesOf "nameserver" then
      { conf with nameservers := conf.nameservers ++ [value] }
    else if key = bytesOf "search" then
      { conf with searchDomains := conf.searchDomains ++ value :: values }
    else if key = bytesOf "options" then
      { conf with options := conf.options ++ value :: values }
    else conf
  | _ => conf

def addLine (conf : Parsed) (line : Bytes) : Parsed :=
  let line := trimSpace line
  if isComment line then conf else addFields conf (fields line)

def parseResolvConf (content : Bytes) : Parsed :=
  (LineSplit.scan 10 13 maxScanTokenSize content).foldl addLine {}

def parseNameservers (content : Bytes) : List Bytes := (parseResolvConf content).nameservers

def isLoopback (ip : NetAddress.Addr) : Bool :=
  match NetAddress.to4 ip with
  | some ipv4 => ipv4.head? = some 127
  | none => NetAddress.octetsOf ip = List.replicate 15 0 ++ [1]

def isLocalhost (ip : Bytes) : Bool :=
  match NetAddress.parseIP (UrlPath.asciiText ip) with
  | none => false
  | some parsed => isLoopback parsed

def header : Bytes := bytesOf "# Generated by tink-agent for container DNS"

def writeResolvConf (nameservers searchDomains options : List Bytes) : Bytes :=
  header ++ [10] ++
    (if searchDomains ≠ [] then bytesOf "search " ++ unwords searchDomains ++ [10] else []) ++
    nameservers.flatMap (fun ns => bytesOf "nameserver " ++ ns ++ [10]) ++
    (if options ≠ [] then bytesOf "options " ++ unwords options ++ [10] else [])

inductive HostFile where
  | missing
  | unreadable
  | content (bytes : Bytes)
deriving DecidableEq

def HostFile.read : HostFile → Option Bytes
  | .content bytes => some bytes
  | _ => none

structure Host where
  (resolvConf systemdResolved : HostFile)

def fallbackNameservers : List Bytes :=
  [bytesOf "8.8.8.8", bytesOf "8.8.4.4", bytesOf "2001:4860:4860::8888",
    bytesOf "2001:4860:4860::8844"]

/-- The file to read: the upstream one of systemd-resolved if the host's names its stub. -/
def hostResolvConf (host : Host) (allowLocalhostDNS : Bool) : HostFile :=
  if allowLocalhostDNS then host.resolvConf
  else
    match host.resolvConf.read with
    | none => host.resolvConf
    | some content =>
      if bytesOf "127.0.0.53" ∈ parseNameservers content ∧ host.systemdResolved ≠ .missing then
        host.systemdResolved
      else host.resolvConf

def usableNameservers (nameservers : List Bytes) (allowLocalhostDNS : Bool) : List Bytes :=
  if allowLocalhostDNS then nameservers
  else
    let filtered := nameservers.filter fun ns => !isLocalhost ns
    if filtered = [] then fallbackNameservers else filtered

def buildResolvConf (host : Host) (allowLocalhostDNS : Bool) : Bytes :=
  match (hostResolvConf host allowLocalhostDNS).read with
  | none => writeResolvConf fallbackNameservers [] []
  | some content =>
    let conf := parseResolvConf content
    writeResolvConf (usableNameservers conf.nameservers allowLocalhostDNS) conf.searchDomains
      conf.options

def directive (key : String) (values : List Bytes) : Bytes := unwords (bytesOf key :: values)

def writtenLines (nameservers searchDomains options : List Bytes) : List Bytes :=
  header :: (if searchDomains ≠ [] then [directive "search" searchDomains] else []) ++
    nameservers.map (fun ns => directive "nameserver" [ns]) ++
    (if options ≠ [] then [directive "options" options] else [])

theorem directive_cons (key : String) (value : Bytes) (values : List Bytes) :
    directive key (value :: values) = bytesOf key ++ 32 :: unwords (value :: values) :=
  TextFields.unwords_cons_cons ..

private theorem writeResolvConf_eq (nameservers searchDomains options : List Bytes) :
    writeResolvConf nameservers searchDomains options =
      ((writtenLines nameservers searchDomains options).map (· ++ [10])).flatten := by
  have isSearch : bytesOf "search " = bytesOf "search" ++ [32] := by decide +kernel
  have isNameserver : bytesOf "nameserver " = bytesOf "nameserver" ++ [32] := by decide +kernel
  have isOptions : bytesOf "options " = bytesOf "options" ++ [32] := by decide +kernel
  have ofValues : ∀ (key : String) (values : List Bytes), values ≠ [] →
      bytesOf key ++ [32] ++ unwords values = directive key values := by
    intro key values notEmpty
    cases values with
    | nil => exact absurd rfl notEmpty
    | cons => rw [directive_cons, List.append_assoc, List.singleton_append]
  have ofNameservers : nameservers.flatMap (fun ns => bytesOf "nameserver " ++ ns ++ [10]) =
      ((nameservers.map fun ns => directive "nameserver" [ns]).map (· ++ [10])).flatten := by
    rw [List.map_map, List.flatMap_def]
    congr 1
    refine List.map_congr_left fun ns _ => ?_
    have isLine := ofValues "nameserver" [ns] (List.cons_ne_nil ns [])
    rw [TextFields.unwords_singleton] at isLine
    rw [isNameserver, isLine]
    rfl
  unfold writeResolvConf writtenLines
  rw [ofNameservers]
  by_cases hasSearch : searchDomains ≠ []
  · by_cases hasOptions : options ≠ []
    · rw [if_pos hasSearch, if_pos hasOptions, if_pos hasSearch, if_pos hasOptions, isSearch,
        isOptions, ofValues _ _ hasSearch, ofValues _ _ hasOptions]
      simp
    · rw [if_pos hasSearch, if_neg hasOptions, if_pos hasSearch, if_neg hasOptions, isSearch,
        ofValues _ _ hasSearch]
      simp
  · by_cases hasOptions : options ≠ []
    · rw [if_neg hasSearch, if_pos hasOptions, if_neg hasSearch, if_pos hasOptions,
        isOptions, ofValues _ _ hasOptions]
      simp
    · rw [if_neg hasSearch, if_neg hasOptions, if_neg hasSearch, if_neg hasOptions]
      simp

variable {line : Bytes} {nameservers : List Bytes} {host : Host}

private theorem isComment_append (notEmpty : line ≠ []) (rest : Bytes) :
    isComment (line ++ rest) = isComment line := by
  have isHash : bytesOf "#" = [35] := by decide +kernel
  have isSemicolon : bytesOf ";" = [59] := by decide +kernel
  unfold isComment
  rw [isHash, isSemicolon]
  cases line with
  | nil => exact absurd rfl notEmpty
  | cons => simp [List.isPrefixOf]

/-- A keyword that may begin a line. -/
structure IsKey (key : String) : Prop where
  isWord : IsWord (bytesOf key)
  notComment : isComment (bytesOf key) = false

theorem isKey_nameserver : IsKey "nameserver" :=
  ⟨⟨by decide +kernel, by unfold TextFields.Plain; decide +kernel⟩, by decide +kernel⟩

theorem isKey_search : IsKey "search" :=
  ⟨⟨by decide +kernel, by unfold TextFields.Plain; decide +kernel⟩, by decide +kernel⟩

theorem isKey_options : IsKey "options" :=
  ⟨⟨by decide +kernel, by unfold TextFields.Plain; decide +kernel⟩, by decide +kernel⟩

variable {key : String} {values : List Bytes} {conf : Parsed}

theorem words_directive (isKey : IsKey key) (areWords : ∀ value ∈ values, IsWord value) :
    ∀ word ∈ bytesOf key :: values, IsWord word := by
  intro word member
  rcases List.mem_cons.mp member with rfl | isValue
  · exact isKey.isWord
  · exact areWords word isValue

theorem addLine_directive (conf : Parsed) (isKey : IsKey key)
    (areWords : ∀ value ∈ values, IsWord value) :
    addLine conf (directive key values) = addFields conf (bytesOf key :: values) := by
  have allWords := words_directive isKey areWords
  have notComment : isComment (directive key values) = false := by
    cases values with
    | nil => exact (congrArg isComment (TextFields.unwords_singleton _)).trans isKey.notComment
    | cons =>
      rw [directive_cons, isComment_append isKey.isWord.notEmpty]
      exact isKey.notComment
  unfold addLine
  dsimp only
  unfold directive at notComment ⊢
  rw [TextFields.trimSpace_unwords allWords, notComment, TextFields.fields_unwords allWords]
  rfl

private theorem addLine_header (conf : Parsed) : addLine conf header = conf := by
  have isHeader : isComment (trimSpace header) = true := by decide +kernel
  unfold addLine
  rw [if_pos isHeader]

/-- Words, and nameservers whose lines fit the buffer. -/
structure Writable (conf : Parsed) : Prop where
  nameserverWords : ∀ ns ∈ conf.nameservers, IsWord ns
  nameserversFit : ∀ ns ∈ conf.nameservers,
    (directive "nameserver" [ns]).length < maxScanTokenSize
  searchWords : ∀ domain ∈ conf.searchDomains, IsWord domain
  optionWords : ∀ option ∈ conf.options, IsWord option

/-- The joined lines fit the buffer. -/
structure JoinedFit (conf : Parsed) : Prop where
  searchFits : (directive "search" conf.searchDomains).length < maxScanTokenSize
  optionsFit : (directive "options" conf.options).length < maxScanTokenSize

private theorem foldl_nameservers (conf : Parsed) (areWords : ∀ ns ∈ nameservers, IsWord ns) :
    (nameservers.map fun ns => directive "nameserver" [ns]).foldl addLine conf =
      { conf with nameservers := conf.nameservers ++ nameservers } := by
  induction nameservers generalizing conf with
  | nil => simp
  | cons ns _ ih =>
    have isLine := addLine_directive conf isKey_nameserver
      (List.forall_mem_singleton.mpr (areWords ns List.mem_cons_self))
    rw [List.map_cons, List.foldl_cons, isLine,
      ih _ fun other member => areWords other (List.mem_cons_of_mem _ member)]
    simp [addFields]

private theorem foldl_search (conf : Parsed) {searchDomains : List Bytes}
    (areWords : ∀ domain ∈ searchDomains, IsWord domain) :
    (if searchDomains ≠ [] then [directive "search" searchDomains] else []).foldl addLine conf =
      { conf with searchDomains := conf.searchDomains ++ searchDomains } := by
  have notNameserver : bytesOf "search" ≠ bytesOf "nameserver" := by decide +kernel
  cases searchDomains with
  | nil => simp
  | cons domain domains =>
    rw [if_pos (List.cons_ne_nil domain domains), List.foldl_cons, List.foldl_nil,
      addLine_directive conf isKey_search areWords, addFields, if_neg notNameserver, if_pos rfl]

private theorem foldl_options (conf : Parsed) {options : List Bytes}
    (areWords : ∀ option ∈ options, IsWord option) :
    (if options ≠ [] then [directive "options" options] else []).foldl addLine conf =
      { conf with options := conf.options ++ options } := by
  have notNameserver : bytesOf "options" ≠ bytesOf "nameserver" := by decide +kernel
  have notSearch : bytesOf "options" ≠ bytesOf "search" := by decide +kernel
  cases options with
  | nil => simp
  | cons option others =>
    rw [if_pos (List.cons_ne_nil option others), List.foldl_cons, List.foldl_nil,
      addLine_directive conf isKey_options areWords, addFields, if_neg notNameserver,
      if_neg notSearch, if_pos rfl]

/-- A line of a written file can be scanned as it is. -/
structure Scannable (line : Bytes) : Prop where
  noNewline : 10 ∉ line
  fits : line.length < maxScanTokenSize
  noCarriage : 13 ∉ line

theorem scannable_directive (isKey : IsKey key) (areWords : ∀ value ∈ values, IsWord value)
    (fits : (directive key values).length < maxScanTokenSize) :
    Scannable (directive key values) := by
  have allWords := words_directive isKey areWords
  refine ⟨?_, fits, ?_⟩
  · exact TextFields.notMem_unwords allWords (by decide) (by decide)
  · exact TextFields.notMem_unwords allWords (by decide) (by decide)

private theorem scannable_writtenLines (writable : Writable conf) (joined : JoinedFit conf) :
    ∀ line ∈ writtenLines conf.nameservers conf.searchDomains conf.options, Scannable line := by
  have isHeader : Scannable header := ⟨by decide +kernel, by decide +kernel, by decide +kernel⟩
  intro line member
  unfold writtenLines at member
  rw [List.cons_append, List.cons_append, List.mem_cons, List.mem_append, List.mem_append] at member
  rcases member with rfl | (isSearch | isNameserver) | isOptions
  · exact isHeader
  · split at isSearch
    · cases List.mem_singleton.mp isSearch
      exact scannable_directive isKey_search writable.searchWords joined.searchFits
    · exact absurd isSearch List.not_mem_nil
  · obtain ⟨ns, isNs, rfl⟩ := List.mem_map.mp isNameserver
    exact scannable_directive isKey_nameserver
      (List.forall_mem_singleton.mpr (writable.nameserverWords ns isNs))
      (writable.nameserversFit ns isNs)
  · split at isOptions
    · cases List.mem_singleton.mp isOptions
      exact scannable_directive isKey_options writable.optionWords joined.optionsFit
    · exact absurd isOptions List.not_mem_nil

theorem parseResolvConf_writeResolvConf (writable : Writable conf) (joined : JoinedFit conf) :
    parseResolvConf (writeResolvConf conf.nameservers conf.searchDomains conf.options) = conf := by
  have scannable := scannable_writtenLines writable joined
  unfold parseResolvConf
  rw [writeResolvConf_eq, LineSplit.scan_flatten
    (fun line member => (scannable line member).noNewline)
    (fun line member => (scannable line member).fits)
    (fun line member => (scannable line member).noCarriage)]
  unfold writtenLines
  rw [List.cons_append, List.cons_append, List.foldl_cons, addLine_header, List.foldl_append,
    List.foldl_append, foldl_search _ writable.searchWords,
    foldl_nameservers _ writable.nameserverWords, foldl_options _ writable.optionWords]
  simp

theorem addLine_writable (writable : Writable conf) (fits : line.length < maxScanTokenSize) :
    Writable (addLine conf line) := by
  unfold addLine
  dsimp only
  split
  · exact writable
  · have areWords : ∀ field ∈ fields (trimSpace line), IsWord field := fun field member =>
      TextFields.isWord_of_mem_fields member
    cases isFields : fields (trimSpace line) with
    | nil => exact writable
    | cons key values =>
      cases values with
      | nil => exact writable
      | cons value values =>
        rw [isFields] at areWords
        have valueWord := areWords value (by simp)
        have valueWords : ∀ word ∈ value :: values, IsWord word := fun word member =>
          areWords word (List.mem_cons_of_mem _ member)
        have lineFits : (unwords [key, value]).length < maxScanTokenSize :=
          calc _ ≤ (trimSpace line).length := TextFields.length_two_fields_le isFields
            _ ≤ line.length := TextFields.length_trimSpace_le line
            _ < maxScanTokenSize := fits
        rw [addFields]
        split
        · next isKey =>
          rw [isKey] at lineFits
          refine ⟨?_, ?_, writable.searchWords, writable.optionWords⟩
          · exact List.forall_mem_append.mpr
              ⟨writable.nameserverWords, List.forall_mem_singleton.mpr valueWord⟩
          · exact List.forall_mem_append.mpr
              ⟨writable.nameserversFit, List.forall_mem_singleton.mpr lineFits⟩
        · split
          · exact ⟨writable.nameserverWords, writable.nameserversFit,
              List.forall_mem_append.mpr ⟨writable.searchWords, valueWords⟩,
              writable.optionWords⟩
          · split
            · exact ⟨writable.nameserverWords, writable.nameserversFit, writable.searchWords,
                List.forall_mem_append.mpr ⟨writable.optionWords, valueWords⟩⟩
            · exact writable

theorem writable_parseResolvConf (content : Bytes) : Writable (parseResolvConf content) := by
  have start : Writable {} := ⟨by simp, by simp, by simp, by simp⟩
  refine List.foldlRecOn _ addLine start ?_
  intro conf writable line member
  exact addLine_writable writable (LineSplit.length_lt_of_mem_scan member)

def parsedHost (host : Host) : Parsed :=
  ((hostResolvConf host false).read.map parseResolvConf).getD {}

def isolated (conf : Parsed) : Parsed :=
  { conf with nameservers := usableNameservers conf.nameservers false }

theorem buildResolvConf_isolated (host : Host) :
    buildResolvConf host false =
      writeResolvConf (isolated (parsedHost host)).nameservers
        (isolated (parsedHost host)).searchDomains (isolated (parsedHost host)).options := by
  unfold buildResolvConf parsedHost
  cases (hostResolvConf host false).read with
  | none | some content => rfl

private theorem fallback_not_localhost : ∀ ns ∈ fallbackNameservers, isLocalhost ns = false := by
  decide +kernel

theorem usableNameservers_ne_nil (nameservers : List Bytes) :
    usableNameservers nameservers false ≠ [] := by
  unfold usableNameservers
  rw [if_neg Bool.false_ne_true]
  dsimp only
  split
  · decide +kernel
  · next notEmpty => exact notEmpty

theorem not_localhost_of_usable {ns : Bytes} (member : ns ∈ usableNameservers nameservers false) :
    isLocalhost ns = false := by
  unfold usableNameservers at member
  rw [if_neg Bool.false_ne_true] at member
  dsimp only at member
  split at member
  · exact fallback_not_localhost ns member
  · have kept := (List.mem_filter.mp member).2
    rwa [Bool.not_eq_true'] at kept

private theorem usableNameservers_idem (nameservers : List Bytes) :
    usableNameservers (usableNameservers nameservers false) false =
      usableNameservers nameservers false := by
  have allKept : (usableNameservers nameservers false).filter (fun ns => !isLocalhost ns) =
      usableNameservers nameservers false := by
    refine List.filter_eq_self.mpr ?_
    intro ns member
    rw [not_localhost_of_usable member]
    rfl
  rw [usableNameservers, if_neg Bool.false_ne_true]
  rw [allKept, if_neg (usableNameservers_ne_nil nameservers)]

private theorem isolated_writable (writable : Writable conf) : Writable (isolated conf) := by
  have fallbackWords : ∀ ns ∈ fallbackNameservers, IsWord ns := by
    intro ns member
    refine ⟨?_, ?_⟩
    · revert ns
      decide +kernel
    · revert ns
      unfold TextFields.Plain
      decide +kernel
  have fallbackFits : ∀ ns ∈ fallbackNameservers,
      (directive "nameserver" [ns]).length < maxScanTokenSize := by
    decide +kernel
  have either : ∀ ns ∈ usableNameservers conf.nameservers false,
      ns ∈ fallbackNameservers ∨ ns ∈ conf.nameservers := by
    intro ns member
    unfold usableNameservers at member
    rw [if_neg Bool.false_ne_true] at member
    dsimp only at member
    split at member
    · exact Or.inl member
    · exact Or.inr (List.mem_filter.mp member).1
  refine ⟨?_, ?_, writable.searchWords, writable.optionWords⟩
  · intro ns member
    exact (either ns member).elim (fallbackWords ns) (writable.nameserverWords ns)
  · intro ns member
    exact (either ns member).elim (fallbackFits ns) (writable.nameserversFit ns)

private theorem writable_parsedHost (host : Host) : Writable (parsedHost host) := by
  unfold parsedHost
  cases (hostResolvConf host false).read with
  | none => exact ⟨by simp, by simp, by simp, by simp⟩
  | some content => exact writable_parseResolvConf content

theorem parse_buildResolvConf (joined : JoinedFit (parsedHost host)) :
    parseResolvConf (buildResolvConf host false) = isolated (parsedHost host) := by
  rw [buildResolvConf_isolated]
  exact parseResolvConf_writeResolvConf (isolated_writable (writable_parsedHost host))
    ⟨joined.searchFits, joined.optionsFit⟩

theorem parsedHost_written (joined : JoinedFit (parsedHost host)) (systemdResolved : HostFile) :
    parsedHost ⟨.content (buildResolvConf host false), systemdResolved⟩ =
      isolated (parsedHost host) := by
  have noStub : bytesOf "127.0.0.53" ∉ parseNameservers (buildResolvConf host false) := by
    intro member
    rw [parseNameservers, parse_buildResolvConf joined] at member
    have notLocalhost := not_localhost_of_usable member
    cases notLocalhost
  have isRead : hostResolvConf ⟨.content (buildResolvConf host false), systemdResolved⟩ false =
      .content (buildResolvConf host false) := by
    unfold hostResolvConf
    rw [if_neg Bool.false_ne_true]
    exact if_neg fun both => noStub both.1
  unfold parsedHost
  rw [isRead]
  exact parse_buildResolvConf joined

structure UsableFrom (read : Parsed) (file : Bytes) : Prop where
  someNameserver : (parseResolvConf file).nameservers ≠ []
  noLoopback : ∀ ns ∈ (parseResolvConf file).nameservers, isLocalhost ns = false
  nameservers : (read.nameservers.filter fun ns => !isLocalhost ns) ≠ [] →
    (parseResolvConf file).nameservers = read.nameservers.filter fun ns => !isLocalhost ns
  searchDomains : (parseResolvConf file).searchDomains = read.searchDomains
  options : (parseResolvConf file).options = read.options

/-- An isolated container gets a usable resolver file, and building from that file writes it
again, whatever systemd-resolved has. -/
theorem isolated_resolver_is_usable {host : Host} (joined : JoinedFit (parsedHost host)) :
    UsableFrom (parsedHost host) (buildResolvConf host false) ∧
      ∀ systemdResolved,
        buildResolvConf ⟨.content (buildResolvConf host false), systemdResolved⟩ false =
          buildResolvConf host false := by
  have isParsed := parse_buildResolvConf joined
  constructor
  · refine ⟨?_, ?_, ?_, ?_, ?_⟩
    · rw [isParsed]
      exact usableNameservers_ne_nil _
    · rw [isParsed]
      intro ns member
      exact not_localhost_of_usable member
    · intro someLeft
      rw [isParsed]
      exact if_neg someLeft
    · rw [isParsed]
      rfl
    · rw [isParsed]
      rfl
  · intro systemdResolved
    rw [buildResolvConf_isolated, parsedHost_written joined, buildResolvConf_isolated host]
    unfold isolated
    rw [usableNameservers_idem]

/-- A host with a stub resolver, whose upstream file names a loopback address first. -/
theorem isolated_resolver_is_usable_stub :
    let host : Host :=
      ⟨.content (bytesOf "nameserver 127.0.0.53\n"),
        .content (bytesOf "nameserver ::1\nnameserver 9.9.9.9\nsearch a b\n")⟩
    parseResolvConf (buildResolvConf host false) =
        ⟨[bytesOf "9.9.9.9"], [bytesOf "a", bytesOf "b"], []⟩ ∧
      UsableFrom (parsedHost host) (buildResolvConf host false) := by
  intro host
  have joined : JoinedFit (parsedHost host) := ⟨by decide +kernel, by decide +kernel⟩
  refine ⟨by decide +kernel, ?_⟩
  exact (isolated_resolver_is_usable joined).1

end Tinkerbell.Agent.ResolvConf
