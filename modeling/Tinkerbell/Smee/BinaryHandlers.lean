import Tinkerbell.Library.GreedyMatch
import Tinkerbell.Library.UrlPath

/-!
Owns: which of the iPXE binaries the HTTP handler and the TFTP handler serve
for the name that a client asks for, a traceparent at its end taken off.

Names are bytes, as they come from the client. The regular expression of the
source is the pattern `traceparentAt` behind a greedy front without line
breaks. The identifiers are read by the tracing library, of which only that it
reads valid ones is used.
-/

namespace Tinkerbell.Smee.Binary

open ByteText UrlPath

def dash : UInt8 := 45
def newline : UInt8 := 10

def isXDigit (byte : UInt8) : Bool := (unhex byte).isSome

def traceparentAt : Bytes → Option (List Bytes) :=
  GreedyMatch.fields dash isXDigit [2, 32, 16, 2]

def findSubmatch : Bytes → Option (Bytes × List Bytes) :=
  GreedyMatch.splitLast (· == newline) traceparentAt

/-- Lower-case hexadecimal digits that are not all zero. -/
structure IsHexID (length : Nat) (text : Bytes) : Prop where
  isLength : text.length = length
  lowerCase : ∀ byte ∈ text, (48 ≤ byte ∧ byte ≤ 57) ∨ (97 ≤ byte ∧ byte ≤ 102)
  notZero : ∃ byte ∈ text, byte ≠ 48

instance (length : Nat) (text : Bytes) : Decidable (IsHexID length text) :=
  decidable_of_iff (text.length = length ∧
      (text.all fun byte => (48 ≤ byte && byte ≤ 57) || (97 ≤ byte && byte ≤ 102)) = true ∧
      (text.any fun byte => byte != 48) = true) <| by
    simp only [List.all_eq_true, List.any_eq_true, Bool.or_eq_true, Bool.and_eq_true,
      decide_eq_true_eq, bne_iff_ne]
    exact ⟨fun ⟨isLength, lowerCase, notZero⟩ => ⟨isLength, lowerCase, notZero⟩,
      fun isID => ⟨isID.isLength, isID.lowerCase, isID.notZero⟩⟩

/-- The tracing library. -/
structure Tracing (TraceID SpanID : Type) where
  traceIDFromHex : Bytes → Except String TraceID
  spanIDFromHex : Bytes → Except String SpanID
  traceIDFromHex_valid : ∀ text, IsHexID 32 text → ∃ id, traceIDFromHex text = .ok id
  spanIDFromHex_valid : ∀ text, IsHexID 16 text → ∃ id, spanIDFromHex text = .ok id

section Handlers

variable {TraceID SpanID : Type} (tracing : Tracing TraceID SpanID)

structure Extracted (TraceID SpanID : Type) where
  span : Option (TraceID × SpanID) := none
  filename : Bytes
  error : Option String := none

def extractTraceparentFromFilename (filename : Bytes) : Extracted TraceID SpanID :=
  match findSubmatch filename with
  | some (name, [_, traceText, spanText, _]) =>
    match tracing.traceIDFromHex traceText with
    | .error err =>
      { filename
        error := some ("parsing OpenTelemetry trace id \"" ++ asciiText traceText ++
          "\" failed: " ++ err) }
    | .ok traceID =>
      match tracing.spanIDFromHex spanText with
      | .error err =>
        { filename
          error := some ("parsing OpenTelemetry span id \"" ++ asciiText spanText ++
            "\" failed: " ++ err) }
      | .ok spanID => { span := some (traceID, spanID), filename := name }
  | _ => { filename }

inductive HttpAnswer where
  | status (code : Nat) (text : String)
  | content (name file : Bytes)

def httpFilename (path : Bytes) : Bytes :=
  (extractTraceparentFromFilename tracing (base path)).filename

def serveFile (files : Bytes → Option Bytes) (patch : Bytes → Except Bytes Bytes)
    (filename : Bytes) : HttpAnswer :=
  match files filename with
  | none => .status 404 "404 page not found"
  | some file =>
    match patch file with
    | .error _ => .status 500 ""
    | .ok file => .content filename file

def handle (files : Bytes → Option Bytes) (patch : Bytes → Except Bytes Bytes)
    (method : String) (path : Bytes) : HttpAnswer :=
  if method ≠ "GET" ∧ method ≠ "HEAD" then .status 405 "Method not allowed"
  else serveFile files patch (httpFilename tracing path)

structure Request where
  (filename base : Bytes)

abbrev Route := Request → Option (Except Bytes Bytes)

def embeddedIPXERoute (files : Bytes → Option Bytes) (patch : Bytes → Except Bytes Bytes) :
    Route := fun request => (files request.base).map patch

def routerHandle : List Route → Request → Except Bytes Bytes
  | [], request =>
    .error (bytesOf "file [" ++ request.base ++ bytesOf "] unknown: file does not exist")
  | route :: routes, request =>
    match route request with
    | some answer => answer
    | none => routerHandle routes request

def tftpRequest (filename : Bytes) : Request :=
  let shortfull := (extractTraceparentFromFilename tracing filename).filename
  { filename := shortfull, base := base shortfull }

def handleRead (routes : List Route) (filename : Bytes) : Except Bytes Bytes :=
  routerHandle routes (tftpRequest tracing filename)

variable {name : Bytes}

theorem handleRead_embedded {files : Bytes → Option Bytes} {patch : Bytes → Except Bytes Bytes}
    {filename file : Bytes} (isName : (tftpRequest tracing filename).base = name)
    (isFile : files name = some file) (routes : List Route) :
    handleRead tracing (embeddedIPXERoute files patch :: routes) filename = patch file := by
  unfold handleRead routerHandle embeddedIPXERoute
  rw [isName, isFile]
  rfl

/-- The parts of a traceparent, as both handlers recognise it. -/
structure Parts where
  (version traceText spanText flags : Bytes)
  isVersion : version.length = 2 ∧ version.all isXDigit = true
  isTraceID : IsHexID 32 traceText
  isSpanID : IsHexID 16 spanText
  isFlags : flags.length = 2 ∧ flags.all isXDigit = true

def Parts.values (parts : Parts) : List Bytes :=
  [parts.version, parts.traceText, parts.spanText, parts.flags]

def Parts.suffix (parts : Parts) : Bytes := parts.values.flatMap (dash :: ·)

variable {byte : UInt8} {path : Bytes}

theorem isXDigit_of_lowerCase (lowerCase : (48 ≤ byte ∧ byte ≤ 57) ∨ (97 ≤ byte ∧ byte ≤ 102)) :
    isXDigit byte = true := by
  unfold isXDigit unhex
  rcases lowerCase with digit | letter
  · rw [if_pos digit]
    rfl
  · split
    · rfl
    · rfl

theorem all_isXDigit {text : Bytes}
    (lowerCase : ∀ byte ∈ text, (48 ≤ byte ∧ byte ≤ 57) ∨ (97 ≤ byte ∧ byte ≤ 102)) :
    text.all isXDigit = true := by
  rw [List.all_eq_true]
  intro byte member
  exact isXDigit_of_lowerCase (lowerCase byte member)

variable (parts : Parts)

theorem Parts.widths : parts.values.map List.length = [2, 32, 16, 2] := by
  simp only [Parts.values, List.map_cons, List.map_nil, parts.isVersion.1,
    parts.isTraceID.isLength, parts.isSpanID.isLength, parts.isFlags.1]

theorem Parts.accepted : ∀ value ∈ parts.values, value.all isXDigit = true := by
  simp only [Parts.values, List.forall_mem_cons, List.not_mem_nil, false_implies, implies_true,
    and_true]
  exact ⟨parts.isVersion.2, all_isXDigit parts.isTraceID.lowerCase,
    all_isXDigit parts.isSpanID.lowerCase, parts.isFlags.2⟩

theorem Parts.length_suffix : parts.suffix.length = GreedyMatch.room [2, 32, 16, 2] := by
  rw [← parts.widths]
  exact GreedyMatch.length_separated dash parts.values

theorem Parts.notMem_suffix (notDash : byte ≠ dash) (notDigit : isXDigit byte = false) :
    byte ∉ parts.suffix := by
  intro member
  obtain ⟨value, inValues, inValue⟩ := List.mem_flatMap.mp member
  rcases List.mem_cons.mp inValue with same | inValue
  · exact notDash same
  · have accepted := List.all_eq_true.mp (parts.accepted value inValues) byte inValue
    exact absurd accepted (by simp [notDigit])

theorem findSubmatch_suffix (noBreak : newline ∉ name) (parts : Parts) :
    findSubmatch (name ++ parts.suffix) = some (name, parts.values) := by
  have found : traceparentAt parts.suffix = some parts.values := by
    have separated := @GreedyMatch.fields_separated _ _ dash _ _ parts.accepted
    rwa [parts.widths] at separated
  have passes : ∀ byte ∈ name, (byte == newline) = false := by
    intro byte member
    exact beq_eq_false_iff_ne.mpr fun same => noBreak (same ▸ member)
  exact GreedyMatch.splitLast_of_endsIn (fun text => GreedyMatch.fields_eq_none) passes found
    parts.length_suffix

theorem filename_extract (noBreak : newline ∉ name) (parts : Parts) :
    (extractTraceparentFromFilename tracing (name ++ parts.suffix)).filename = name := by
  obtain ⟨_, isTraceID⟩ := tracing.traceIDFromHex_valid _ parts.isTraceID
  obtain ⟨_, isSpanID⟩ := tracing.spanIDFromHex_valid _ parts.isSpanID
  unfold extractTraceparentFromFilename
  rw [findSubmatch_suffix noBreak parts]
  simp only [Parts.values, isTraceID, isSpanID]

theorem isElement_append (isElement : IsElement name) (parts : Parts) :
    IsElement (name ++ parts.suffix) where
  noSlash := by
    rw [List.mem_append, not_or]
    exact ⟨isElement.noSlash, parts.notMem_suffix (by decide) (by decide)⟩
  notEmpty := List.append_ne_nil_of_left_ne_nil isElement.notEmpty _

theorem httpFilename_of_endsIn {parts : Parts} (isElement : IsElement name)
    (noBreak : newline ∉ name) (last : EndsIn path (name ++ parts.suffix)) :
    httpFilename tracing path = name := by
  unfold httpFilename
  rw [base_of_endsIn (isElement_append isElement parts) last]
  exact filename_extract tracing noBreak parts

theorem tftpRequest_of_endsIn {parts : Parts} (isElement : IsElement name)
    (noBreak : newline ∉ path) (last : EndsIn path (name ++ parts.suffix)) :
    (tftpRequest tracing path).base = name := by
  obtain ⟨front, rfl, ends⟩ : ∃ front, path = front ++ parts.suffix ∧ EndsIn front name := by
    rcases last with rfl | ⟨directory, rfl⟩
    · exact ⟨name, rfl, Or.inl rfl⟩
    · exact ⟨directory ++ slash :: name, by simp, Or.inr ⟨directory, rfl⟩⟩
  rw [List.mem_append, not_or] at noBreak
  unfold tftpRequest
  rw [filename_extract tracing noBreak.1 parts]
  exact base_of_endsIn isElement ends

end Handlers

end Tinkerbell.Smee.Binary
