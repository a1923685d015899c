import Tinkerbell.Library.SliceHeap
import Tinkerbell.Smee.Iso
import Tinkerbell.Smee.BinaryHandlers

/-!
Owns: the patch of an iPXE binary, and that no answer to a client changes the
binary that the next one gets.

The binaries are arrays that live as long as the program. `patch` runs on the
slices of these arrays, as the source does; `patchBytes` says what the bytes of
its result are.
-/

namespace Tinkerbell.Smee.Binary

open ByteText PatternSearch SliceHeap UrlPath

@[irreducible]
def magicString : Bytes :=
  bytesOf ("#a8b7e61f1075c37a793f2f92cee89f7bba00c4a8d7842ce3d40b5889032d8881\n" ++
    "#ddd16a4fc4926ecefdfb6941e33c44ed3647133638f5e84021ea44d3152e7f97")

def magicStringPadding : Bytes :=
  List.replicate magicString.length 32

def errPatchTooLong : Bytes :=
  bytesOf "patch string is too long"

def patch (heap : Heap UInt8) (content patch : Slice) : Heap UInt8 × Except Bytes Slice :=
  if patch.length = 0 then (heap, .ok content)
  else
    match index magicString (read heap content) with
    | none => (heap, .ok content)
    | some start =>
      if magicString.length < patch.length then (heap, .error errPatchTooLong)
      else
        let (heap, dup) := make heap 0 content.length
        let heap := copy heap dup (read heap content)
        let heap := copy heap (dup.behind start) magicStringPadding
        let heap := copy heap (dup.behind start) (read heap patch)
        (heap, .ok dup)

def padded (patch : Bytes) : Bytes :=
  patch ++ List.replicate (magicString.length - patch.length) 32

def patchBytes (patch content : Bytes) : Except Bytes Bytes :=
  if patch = [] ∨ index magicString content = none then .ok content
  else if magicString.length < patch.length then .error errPatchTooLong
  else .ok (replaceFirst magicString (padded patch) content)

theorem length_magicString : magicString.length = 131 := by
  decide +kernel

theorem magicString_ne_nil : magicString ≠ [] := by
  apply List.ne_nil_of_length_pos
  rw [length_magicString]
  omega

theorem length_padded {patch : Bytes} (fits : patch.length ≤ magicString.length) :
    (padded patch).length = magicString.length := by
  unfold padded
  rw [List.length_append, List.length_replicate]
  omega

theorem replacement_eq (patch : Bytes) : Iso.replacement ⟨magicString⟩ patch = padded patch := by
  unfold Iso.replacement Iso.Patch.magicStrPadding padded
  rw [List.drop_replicate]

theorem patch_unpatched {heap : Heap UInt8} {content patch : Slice}
    (unpatched : patch.length = 0 ∨ index magicString (read heap content) = none) :
    Binary.patch heap content patch = (heap, .ok content) := by
  unfold Binary.patch
  by_cases isEmpty : patch.length = 0
  · rw [if_pos isEmpty]
  · rw [if_neg isEmpty, unpatched.resolve_left isEmpty]

theorem patch_tooLong {heap : Heap UInt8} {content patch : Slice} {start : Nat}
    (found : index magicString (read heap content) = some start)
    (long : magicString.length < patch.length) :
    Binary.patch heap content patch = (heap, .error errPatchTooLong) := by
  unfold Binary.patch
  rw [if_neg (by omega), found]
  dsimp only
  rw [if_pos long]

theorem patch_found {heap : Heap UInt8} {content patch : Slice} (validContent : content.Valid heap)
    (validPatch : patch.Valid heap) (nonempty : patch.length ≠ 0) {start : Nat}
    (found : index magicString (read heap content) = some start)
    (fits : patch.length ≤ magicString.length) :
    Binary.patch heap content patch =
      (heap ++ [replaceFirst magicString (padded (read heap patch)) (read heap content)],
        .ok ⟨heap.length, 0, content.length⟩) := by
  have isLength := length_read validContent
  have isShort : (read heap patch).length ≤ magicString.length := by
    rwa [length_read validPatch]
  have patched : Iso.patchRead ⟨magicString⟩ (read heap patch) (read heap content) =
      replaceFirst magicString (padded (read heap patch)) (read heap content) := by
    rw [← replacement_eq]
    exact Iso.patchRead_eq isShort magicString_ne_nil _
  have inside := length_le_of_found magicString_ne_nil found
  unfold Binary.patch
  rw [if_neg nonempty, found]
  dsimp only
  rw [if_neg (Nat.not_lt.mpr fits)]
  unfold make
  rw [read_append validContent, copy_last, ← isLength, List.take_length, splice_replicate]
  unfold Slice.behind
  rw [copy_last, read_append validPatch, copy_last, ← patched]
  unfold Iso.patchRead Iso.copyInto
  rw [found]
  dsimp only
  rw [length_splice, Nat.zero_add]
  · rfl
  · rw [List.length_take]
    omega

/-- What `patch` returns, read in the memory it leaves, is `patchBytes`; the arrays it
found are as they were. -/
theorem patch_refines {heap : Heap UInt8} {content patch : Slice}
    (validContent : content.Valid heap) (validPatch : patch.Valid heap) :
    (Binary.patch heap content patch).2.map (read (Binary.patch heap content patch).1) =
        patchBytes (read heap patch) (read heap content) ∧
      heap <+: (Binary.patch heap content patch).1 := by
  have isLength := length_read validPatch
  have isEmpty : read heap patch = [] ↔ patch.length = 0 := by
    rw [← List.length_eq_zero_iff, isLength]
  unfold patchBytes
  rw [isLength]
  split
  · next unpatched =>
    rw [patch_unpatched (unpatched.imp_left isEmpty.mp)]
    exact ⟨rfl, List.prefix_refl heap⟩
  · next notUnpatched =>
    obtain ⟨someBytes, present⟩ := not_or.mp notUnpatched
    have nonempty : patch.length ≠ 0 := fun isZero => someBytes (isEmpty.mpr isZero)
    obtain ⟨_, found⟩ := Option.ne_none_iff_exists'.mp present
    split
    · next long =>
      rw [patch_tooLong found long]
      exact ⟨rfl, List.prefix_refl heap⟩
    · next notLong =>
      have fits : patch.length ≤ magicString.length := Nat.not_lt.mp notLong
      have sameLength := length_replaceFirst magicString_ne_nil
        (length_padded (by omega : (read heap patch).length ≤ _)) (read heap content)
      rw [length_read validContent] at sameLength
      rw [patch_found validContent validPatch nonempty found fits, ← sameLength]
      exact ⟨congrArg Except.ok (read_last heap _), List.prefix_append heap _⟩

section Handlers

variable {TraceID SpanID : Type} (tracing : Tracing TraceID SpanID)
  (files : Bytes → Option Slice) (patch : Slice)

def serveFileFrom (heap : Heap UInt8) (filename : Bytes) : Heap UInt8 × HttpAnswer :=
  match files filename with
  | none => (heap, .status 404 "404 page not found")
  | some file =>
    match Binary.patch heap file patch with
    | (heap, .error _) => (heap, .status 500 "")
    | (heap, .ok file) => (heap, .content filename (read heap file))

def handleFrom (heap : Heap UInt8) (method : String) (path : Bytes) :
    Heap UInt8 × HttpAnswer :=
  if method ≠ "GET" ∧ method ≠ "HEAD" then (heap, .status 405 "Method not allowed")
  else serveFileFrom files patch heap (httpFilename tracing path)

def tryServe (heap : Heap UInt8) (request : Request) :
    Heap UInt8 × Option (Except Bytes Bytes) :=
  match files request.base with
  | none => (heap, none)
  | some content =>
    match Binary.patch heap content patch with
    | (heap, .error err) => (heap, some (.error err))
    | (heap, .ok patched) => (heap, some (.ok (read heap patched)))

def filesIn (heap : Heap UInt8) (name : Bytes) : Option Bytes :=
  (files name).map (read heap)

/-- The patch and every embedded file lie in the memory. -/
structure Loaded (heap : Heap UInt8) : Prop where
  validPatch : patch.Valid heap
  validFile : ∀ name file, files name = some file → file.Valid heap

variable {files patch} {heap : Heap UInt8}

section

variable (loaded : Loaded files patch heap)
include loaded

theorem Loaded.patched {name : Bytes} {file : Slice}
    (isFile : files name = some file) :
    ∃ after result, Binary.patch heap file patch = (after, result) ∧
      patchBytes (read heap patch) (read heap file) = result.map (read after) ∧ heap <+: after := by
  obtain ⟨refines, kept⟩ := patch_refines (loaded.validFile name file isFile) loaded.validPatch
  exact ⟨_, _, rfl, refines.symm, kept⟩

private theorem serveFileFrom_refines (filename : Bytes) :
    (serveFileFrom files patch heap filename).2 =
        serveFile (filesIn files heap) (patchBytes (read heap patch)) filename ∧
      heap <+: (serveFileFrom files patch heap filename).1 := by
  unfold serveFileFrom serveFile filesIn
  cases isFile : files filename with
  | none => exact ⟨rfl, List.prefix_refl heap⟩
  | some =>
    obtain ⟨_, result, isPatch, refines, kept⟩ := loaded.patched isFile
    simp only [Option.map_some, isPatch, refines]
    cases result with
    | error err | ok served => exact ⟨rfl, kept⟩

private theorem handleFrom_refines (method : String)
    (path : Bytes) :
    (handleFrom tracing files patch heap method path).2 =
        handle tracing (filesIn files heap) (patchBytes (read heap patch)) method path ∧
      heap <+: (handleFrom tracing files patch heap method path).1 := by
  unfold handleFrom handle
  split
  · exact ⟨rfl, List.prefix_refl heap⟩
  · exact serveFileFrom_refines loaded _

theorem tryServe_refines (request : Request) :
    (tryServe files patch heap request).2 =
        embeddedIPXERoute (filesIn files heap) (patchBytes (read heap patch)) request ∧
      heap <+: (tryServe files patch heap request).1 := by
  unfold tryServe embeddedIPXERoute filesIn
  cases isFile : files request.base with
  | none => exact ⟨rfl, List.prefix_refl heap⟩
  | some =>
    obtain ⟨_, result, isPatch, refines, kept⟩ := loaded.patched isFile
    simp only [Option.map_some, isPatch, refines]
    cases result with
    | error err | ok served => exact ⟨rfl, kept⟩

theorem Loaded.append (added : Heap UInt8) :
    Loaded files patch (heap ++ added) where
  validPatch := loaded.validPatch.append added
  validFile := fun name file isFile => (loaded.validFile name file isFile).append added

private theorem filesIn_append (added : Heap UInt8) :
    filesIn files (heap ++ added) = filesIn files heap := by
  funext name
  unfold filesIn
  cases isFile : files name with
  | none => rfl
  | some file => exact congrArg some (read_append (loaded.validFile name file isFile) added)

end

inductive Call where
  | http (method : String) (path : Bytes)
  | tftp (request : Request)

inductive Reply where
  | http (answer : HttpAnswer)
  | tftp (answer : Option (Except Bytes Bytes))

variable (files patch)

def serve (heap : Heap UInt8) : Call → Heap UInt8 × Reply
  | .http method path =>
    let (heap, answer) := handleFrom tracing files patch heap method path
    (heap, .http answer)
  | .tftp request =>
    let (heap, answer) := tryServe files patch heap request
    (heap, .tftp answer)

def replies : Heap UInt8 → List Call → List Reply
  | _, [] => []
  | heap, call :: calls =>
    let (heap, reply) := serve tracing files patch heap call
    reply :: replies heap calls

def replyOf (heap : Heap UInt8) : Call → Reply
  | .http method path =>
    .http (handle tracing (filesIn files heap) (patchBytes (read heap patch)) method path)
  | .tftp request =>
    .tftp (embeddedIPXERoute (filesIn files heap) (patchBytes (read heap patch)) request)

variable {files patch}

private theorem serve_refines (loaded : Loaded files patch heap) (call : Call) :
    (serve tracing files patch heap call).2 = replyOf tracing files patch heap call ∧
      heap <+: (serve tracing files patch heap call).1 := by
  cases call with
  | http method path =>
    obtain ⟨same, kept⟩ := handleFrom_refines tracing loaded method path
    exact ⟨congrArg Reply.http same, kept⟩
  | tftp request =>
    obtain ⟨same, kept⟩ := tryServe_refines loaded request
    exact ⟨congrArg Reply.tftp same, kept⟩

private theorem replyOf_append (loaded : Loaded files patch heap) (added : Heap UInt8) :
    replyOf tracing files patch (heap ++ added) = replyOf tracing files patch heap := by
  funext call
  cases call with
  | http method path | tftp request =>
    unfold replyOf
    rw [filesIn_append loaded added, read_append loaded.validPatch added]

/-- Every request is answered from the files as the program was started with. -/
theorem replies_from_loaded_files (loaded : Loaded files patch heap) (calls : List Call) :
    replies tracing files patch heap calls = calls.map (replyOf tracing files patch heap) := by
  induction calls generalizing heap with
  | nil => rfl
  | cons call _ ih =>
    obtain ⟨same, added, isAfter⟩ := serve_refines tracing loaded call
    rw [replies]
    dsimp only
    rw [← isAfter, ih (loaded.append added), replyOf_append tracing loaded added, same]
    rfl

end Handlers

def noTracing : Tracing Unit Unit :=
  ⟨fun _ => .ok (), fun _ => .ok (), fun _ _ => ⟨(), rfl⟩, fun _ _ => ⟨(), rfl⟩⟩

/-- A binary with the magic string in it, and an iPXE script to put there. -/
def sampleMemory : Heap UInt8 :=
  [1 :: magicString ++ [2], bytesOf "#!ipxe"]

def sampleFiles (name : Bytes) : Option Slice :=
  if name = bytesOf "ipxe.efi" then some ⟨0, 0, 133⟩ else none

theorem sampleMemory_valid : (⟨0, 0, 133⟩ : Slice).Valid sampleMemory where
  allocated := Nat.zero_lt_succ 1
  inside := by
    show 0 + 133 ≤ (1 :: magicString ++ [2]).length
    rw [List.length_append, List.length_cons, length_magicString]
    exact Nat.le_refl 133

theorem sampleMemory_loaded : Loaded sampleFiles ⟨1, 0, 6⟩ sampleMemory where
  validPatch := by decide +kernel
  validFile := by
    intro name file isFile
    unfold sampleFiles at isFile
    split at isFile
    · cases isFile
      exact sampleMemory_valid
    · cases isFile

def sampleServed : Bytes :=
  1 :: padded (bytesOf "#!ipxe") ++ [2]

theorem patchBytes_sample :
    patchBytes (read sampleMemory ⟨1, 0, 6⟩) (read sampleMemory ⟨0, 0, 133⟩) =
      .ok sampleServed := by
  have isFound : ¬(read sampleMemory ⟨1, 0, 6⟩ = [] ∨
      index magicString (read sampleMemory ⟨0, 0, 133⟩) = none) := by
    decide +kernel
  have fits : ¬magicString.length < (read sampleMemory ⟨1, 0, 6⟩).length := by decide +kernel
  have isServed : replaceFirst magicString (padded (read sampleMemory ⟨1, 0, 6⟩))
      (read sampleMemory ⟨0, 0, 133⟩) = sampleServed := by
    decide +kernel
  rw [patchBytes, if_neg isFound, if_neg fits, isServed]

/-- The second and the third client get the patched binary that the first one got. -/
theorem replies_from_loaded_files_sample :
    let calls : List Call := [.tftp ⟨bytesOf "ipxe.efi", bytesOf "ipxe.efi"⟩,
      .http "GET" (bytesOf "/ipxe.efi"), .http "PUT" (bytesOf "/ipxe.efi"),
      .tftp ⟨bytesOf "ipxe.efi", bytesOf "ipxe.efi"⟩]
    sampleServed ≠ read sampleMemory ⟨0, 0, 133⟩ ∧
      replies noTracing sampleFiles ⟨1, 0, 6⟩ sampleMemory calls =
        [.tftp (some (.ok sampleServed)), .http (.content (bytesOf "ipxe.efi") sampleServed),
          .http (.status 405 "Method not allowed"), .tftp (some (.ok sampleServed))] := by
  intro calls
  refine ⟨by decide +kernel, ?_⟩
  have isName : httpFilename noTracing (bytesOf "/ipxe.efi") = bytesOf "ipxe.efi" := by
    decide +kernel
  have isFile : filesIn sampleFiles sampleMemory (bytesOf "ipxe.efi") =
      some (read sampleMemory ⟨0, 0, 133⟩) := rfl
  rw [replies_from_loaded_files noTracing sampleMemory_loaded]
  simp [calls, replyOf, embeddedIPXERoute, handle, serveFile, isName, isFile, patchBytes_sample]

structure PatchedExactly (heap : Heap UInt8) (content patch : Slice)
    (after : Heap UInt8) (outcome : Except Bytes Slice) : Prop where
  fails_iff : (∃ err, outcome = .error err) ↔
    magicString.length < patch.length ∧ magicString <:+: read heap content
  returnsContent : patch.length = 0 ∨ ¬magicString <:+: read heap content →
    outcome = .ok content
  replaces : ∀ served position, outcome = .ok served → patch.length ≠ 0 →
    FirstAt magicString (read heap content) position →
      (read after served).length = (read heap content).length ∧
      (∀ place, place < position ∨ position + magicString.length ≤ place →
        (read after served)[place]? = (read heap content)[place]?) ∧
      ((read after served).drop position).take magicString.length =
        read heap patch ++ List.replicate (magicString.length - patch.length) 32
  keepsArrays : ∀ array, array < heap.length → after[array]? = heap[array]?

section Exact

variable {heap : Heap UInt8} {content patch : Slice}

theorem absent_iff (text : Bytes) : ¬magicString <:+: text ↔ index magicString text = none := by
  rw [infix_iff_found magicString_ne_nil, ← Option.isSome_iff_exists, Option.not_isSome_iff_eq_none]

variable (validContent : content.Valid heap) (validPatch : patch.Valid heap)

include validContent validPatch

private theorem patch_fails_iff :
    (∃ err, (Binary.patch heap content patch).2 = .error err) ↔
      magicString.length < patch.length ∧ magicString <:+: read heap content := by
  constructor
  · rintro ⟨err, fails⟩
    by_cases unpatched : patch.length = 0 ∨ index magicString (read heap content) = none
    · rw [patch_unpatched unpatched] at fails
      cases fails
    · obtain ⟨nonempty, present⟩ := not_or.mp unpatched
      obtain ⟨start, found⟩ := Option.ne_none_iff_exists'.mp present
      by_cases long : magicString.length < patch.length
      · exact ⟨long, (infix_iff_found magicString_ne_nil _).mpr ⟨start, found⟩⟩
      · rw [patch_found validContent validPatch nonempty found (Nat.not_lt.mp long)] at fails
        cases fails
  · rintro ⟨long, occurs⟩
    obtain ⟨_, found⟩ := (infix_iff_found magicString_ne_nil _).mp occurs
    rw [patch_tooLong found long]
    exact ⟨errPatchTooLong, rfl⟩

private theorem read_patched {served : Slice} {position : Nat}
    (returned : (Binary.patch heap content patch).2 = .ok served)
    (nonempty : patch.length ≠ 0) (found : index magicString (read heap content) = some position) :
    (read heap patch).length ≤ magicString.length ∧
      read (Binary.patch heap content patch).1 served =
        replaceFirst magicString (padded (read heap patch)) (read heap content) := by
  have isLength := length_read validPatch
  by_cases long : magicString.length < patch.length
  · rw [patch_tooLong found long] at returned
    cases returned
  · have fits : (read heap patch).length ≤ magicString.length := by omega
    have sameLength := length_replaceFirst magicString_ne_nil (length_padded fits)
      (read heap content)
    refine ⟨fits, ?_⟩
    rw [patch_found validContent validPatch nonempty found (by omega)] at returned ⊢
    rw [length_read validContent] at sameLength
    cases returned
    rw [← sameLength]
    exact read_last heap _

private theorem patchedExactly :
    PatchedExactly heap content patch (Binary.patch heap content patch).1
      (Binary.patch heap content patch).2 := by
  obtain ⟨_, _, isAfter⟩ := patch_refines validContent validPatch
  constructor
  · exact patch_fails_iff validContent validPatch
  · intro unpatched
    rw [absent_iff] at unpatched
    rw [patch_unpatched unpatched]
  · intro served position returned nonempty first
    have found := (index_eq_some_iff magicString_ne_nil).mpr first
    obtain ⟨fits, isRead⟩ := read_patched validContent validPatch returned nonempty found
    have isLong := length_padded fits
    rw [isRead]
    refine ⟨length_replaceFirst magicString_ne_nil isLong _, ?_, ?_⟩
    · intro place outside
      exact getElem?_replaceFirst magicString_ne_nil isLong found outside
    · rw [take_drop_replaceFirst magicString_ne_nil isLong found]
      unfold padded
      rw [length_read validPatch]
  · intro array allocated
    rw [← isAfter, List.getElem?_append_left allocated]

end Exact

/-- A patch does exactly what it should, and the HTTP handler and the TFTP route
serve the same bytes of the same file. -/
theorem patch_exact {heap : Heap UInt8} {content patch : Slice}
    (validContent : content.Valid heap) (validPatch : patch.Valid heap) :
    PatchedExactly heap content patch (Binary.patch heap content patch).1
      (Binary.patch heap content patch).2 ∧
    ∀ (TraceID SpanID : Type) (tracing : Tracing TraceID SpanID)
      (files : Bytes → Option Slice) (path : Bytes) (request : Request) (bytes : Bytes),
      files request.base = some content → httpFilename tracing path = request.base →
        ((∃ name, (handleFrom tracing files patch heap "GET" path).2 = .content name bytes) ↔
          (tryServe files patch heap request).2 = some (.ok bytes)) := by
  refine ⟨patchedExactly validContent validPatch, ?_⟩
  intro TraceID SpanID tracing files path request bytes isFile sameName
  have isGet : ¬("GET" ≠ "GET" ∧ "GET" ≠ "HEAD") := by simp
  unfold handleFrom serveFileFrom tryServe
  rw [if_neg isGet, sameName, isFile]
  dsimp only
  generalize Binary.patch heap content patch = outcome
  obtain ⟨_, result⟩ := outcome
  cases result with
  | error err | ok served => simp

theorem patch_exact_of_sample :
    PatchedExactly sampleMemory ⟨0, 0, 133⟩ ⟨1, 0, 6⟩
      (patch sampleMemory ⟨0, 0, 133⟩ ⟨1, 0, 6⟩).1
      (patch sampleMemory ⟨0, 0, 133⟩ ⟨1, 0, 6⟩).2 ∧
    ∃ name, (handleFrom noTracing sampleFiles ⟨1, 0, 6⟩ sampleMemory "GET"
      (bytesOf "/ipxe.efi")).2 = .content name sampleServed := by
  have exactly := patch_exact sampleMemory_valid sampleMemory_loaded.validPatch
  refine ⟨exactly.1, (exactly.2 Unit Unit noTracing sampleFiles (bytesOf "/ipxe.efi")
    ⟨bytesOf "ipxe.efi", bytesOf "ipxe.efi"⟩ sampleServed rfl (by decide +kernel)).mpr ?_⟩
  have isServed := (tryServe_refines sampleMemory_loaded
    ⟨bytesOf "ipxe.efi", bytesOf "ipxe.efi"⟩).1
  rw [isServed]
  exact congrArg some patchBytes_sample

end Tinkerbell.Smee.Binary
