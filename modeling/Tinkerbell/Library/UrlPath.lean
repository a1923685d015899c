import Mathlib.Data.List.DropRight
import Tinkerbell.Library.HostPort

/-!
Owns: slash-separated paths and the URLs that carry them, as sequences of
bytes: cleaning, joining and the last element of a path, percent-encoding, and
joining elements to the path of a URL.

The last element that is joined, if it is a plain name, is the last element of
the path of the URL (`endsIn_joinPath`), whatever was there before.
-/

variable {elements : List Bytes}

namespace UrlPath

open ByteText

def slash : UInt8 := 47
def percent : UInt8 := 37
def dot : UInt8 := 46

def bytesOf (text : String) : Bytes := text.toList.flatMap String.utf8EncodeChar

theorem bytesOf_append (left right : String) :
    bytesOf (left ++ right) = bytesOf left ++ bytesOf right := by
  simp [bytesOf]

variable {text : String} {path other : Bytes} {url : Url} {rooted : Bool} {kept : List Bytes}

theorem bytesOf_ne_nil (notEmpty : text ≠ "") : bytesOf text ≠ [] := by
  obtain ⟨c, rest, isText⟩ : ∃ c rest, text.toList = c :: rest :=
    List.exists_cons_of_ne_nil (by simpa using notEmpty)
  have positive := c.utf8Size_pos
  rw [← String.length_utf8EncodeChar] at positive
  rw [bytesOf, isText, List.flatMap_cons]
  exact List.append_ne_nil_of_left_ne_nil (List.ne_nil_of_length_pos positive) _

variable {byte : UInt8} {name : Bytes}

theorem notMem_bytesOf {alphabet : List Char} {others : Bytes}
    (inAlphabet : ∀ c ∈ text.toList, c ∈ alphabet)
    (apart : (alphabet.all fun c =>
      (String.utf8EncodeChar c).all fun byte => !others.contains byte) = true)
    (isOther : byte ∈ others) : byte ∉ bytesOf text := by
  intro member
  obtain ⟨c, inText, inChar⟩ := List.mem_flatMap.mp member
  have ofChar := List.all_eq_true.mp (List.all_eq_true.mp apart c (inAlphabet c inText)) byte inChar
  exact absurd isOther (by simpa using ofChar)

def segments : Bytes → List Bytes
  | [] => [[]]
  | byte :: rest =>
    if byte = slash then [] :: segments rest
    else
      match segments rest with
      | [] => [[byte]]
      | first :: later => (byte :: first) :: later

def joinSegments : List Bytes → Bytes
  | [] => []
  | [segment] => segment
  | segment :: next :: rest => segment ++ slash :: joinSegments (next :: rest)

def cleanSegment (rooted : Bool) (kept : List Bytes) (segment : Bytes) : List Bytes :=
  if segment = [] ∨ segment = [dot] then kept
  else if segment = [dot, dot] then
    match kept with
    | [] => if rooted then [] else [segment]
    | top :: rest => if top = [dot, dot] then segment :: kept else rest
  else segment :: kept

def clean (path : Bytes) : Bytes :=
  let rooted := path.head? = some slash
  let kept := ((segments path).foldl (cleanSegment rooted) []).reverse
  if rooted then slash :: joinSegments kept
  else if kept = [] then [dot]
  else joinSegments kept

def join (elements : List Bytes) : Bytes :=
  if elements.all (· = []) then [] else clean (joinSegments (elements.dropWhile (· = [])))

def base (path : Bytes) : Bytes :=
  if path = [] then [dot]
  else
    let last := ((path.rdropWhile (· = slash)).reverse.takeWhile (· ≠ slash)).reverse
    if last = [] then [slash] else last

def dir (path : Bytes) : Bytes := clean (path.reverse.dropWhile (· ≠ slash)).reverse

def isAlphanumeric (byte : UInt8) : Bool :=
  (97 ≤ byte && byte ≤ 122) || (65 ≤ byte && byte ≤ 90) || (48 ≤ byte && byte ≤ 57)

def shouldEscape (byte : UInt8) : Bool :=
  !(isAlphanumeric byte || (bytesOf "-_.~$&+,/:;=@").contains byte)

def shouldEscapeHost (byte : UInt8) : Bool :=
  !(isAlphanumeric byte || (bytesOf "-_.~!$&'()*+,;=:[]<>\"").contains byte)

def upperHex (value : Nat) : UInt8 := (bytesOf "0123456789ABCDEF").getD value 0

def escapeByte (needed : UInt8 → Bool) (byte : UInt8) : Bytes :=
  if needed byte then [percent, upperHex (byte.toNat / 16), upperHex (byte.toNat % 16)]
  else [byte]

def escape (needed : UInt8 → Bool) (text : Bytes) : Bytes := text.flatMap (escapeByte needed)

def unescape : Bytes → Option Bytes
  | [] => some []
  | byte :: rest =>
    if byte = percent then
      match rest with
      | high :: low :: rest => do
          let high ← unhex high
          let low ← unhex low
          let rest ← unescape rest
          some (UInt8.ofNat (16 * high + low) :: rest)
      | _ => none
    else (unescape rest).map (byte :: ·)

structure Url where
  (scheme host : String := "")
  (path rawPath : Bytes := [])

def validEncoded (text : Bytes) : Bool :=
  text.all fun byte => (bytesOf "!$&'()*+,;=:@[]%").contains byte || !shouldEscape byte

def escapedPath (url : Url) : Bytes :=
  if url.rawPath ≠ [] ∧ validEncoded url.rawPath ∧ unescape url.rawPath = some url.path then
    url.rawPath
  else if url.path = bytesOf "*" then url.path
  else escape shouldEscape url.path

def setPath (url : Url) (encoded : Bytes) : Url :=
  match unescape encoded with
  | none => url
  | some path =>
    { url with path, rawPath := if encoded = escape shouldEscape path then [] else encoded }

def joinPath (url : Url) (elements : List Bytes) : Url :=
  let first := escapedPath url
  let joined :=
    if first.head? = some slash then join (first :: elements)
    -- A relative path stays one, but cannot leave its root.
    else (join ((slash :: first) :: elements)).drop 1
  let last := (first :: elements).getLast?.getD []
  setPath url (if last.getLast? = some slash ∧ joined.getLast? ≠ some slash
    then joined ++ [slash] else joined)

def asciiText (text : Bytes) : String :=
  String.ofList (text.map fun byte => Char.ofNat byte.toNat)

theorem asciiText_bytesOf (isAscii : ∀ c ∈ text.toList, c.toNat < 128) :
    asciiText (bytesOf text) = text := by
  have encoded : ∀ c ∈ text.toList,
      (String.utf8EncodeChar c).map (fun byte => Char.ofNat byte.toNat) = [c] := by
    intro c member
    have isSmall : c.val ≤ 127 := UInt32.le_iff_toNat_le.mpr (Nat.le_of_lt_succ (isAscii c member))
    have isByte : c.val.toUInt8.toNat = c.toNat := by
      exact Nat.mod_eq_of_lt (Nat.lt_trans (isAscii c member) (by decide))
    rw [String.utf8EncodeChar_eq_singleton (Char.utf8Size_eq_one_iff.mpr isSmall),
      List.map_singleton, isByte, Char.ofNat_toNat]
  rw [asciiText, bytesOf, List.map_flatMap, List.flatMap_congr encoded, List.flatMap_singleton',
    String.ofList_toList]

def urlText (url : Url) : String :=
  let path := escapedPath url
  let start :=
    (if url.scheme ≠ "" then url.scheme ++ ":" else "") ++
    (if (url.scheme ≠ "" ∧ url.path ≠ []) ∨ url.host ≠ "" then "//" else "") ++
    asciiText (escape shouldEscapeHost (bytesOf url.host))
  let between :=
    if path ≠ [] ∧ path.head? ≠ some slash ∧ url.host ≠ "" then "/"
    else if start = "" ∧ ((segments path).headD []).contains 58 then "./"
    else ""
  start ++ between ++ asciiText path

def requestPath (url : Url) : Bytes :=
  if url.path ≠ [] ∧ url.path.head? ≠ some slash ∧ url.host ≠ "" then slash :: url.path
  else url.path

def hostname (url : Url) : String :=
  let text := url.host.toList
  let host :=
    match cutLast ':' text with
    | some (before, port) => if port.all Char.isDigit then before else text
    | none => text
  String.ofList
    (if host.head? = some '[' ∧ host.getLast? = some ']' then (host.drop 1).dropLast else host)

theorem joinPath_server (url : Url) (elements : List Bytes) :
    (joinPath url elements).scheme = url.scheme ∧ (joinPath url elements).host = url.host := by
  unfold joinPath setPath
  dsimp only
  split
  · exact ⟨rfl, rfl⟩
  · exact ⟨rfl, rfl⟩

theorem segments_ne_nil (path : Bytes) : segments path ≠ [] := by
  cases path with
  | nil => simp [segments]
  | cons =>
    unfold segments
    split
    · simp
    · split <;> simp

theorem segments_append (left right : Bytes) :
    segments (left ++ slash :: right) = segments left ++ segments right := by
  induction left with
  | nil => simp [segments]
  | cons _ rest ih =>
    rw [List.cons_append, segments, segments, ih]
    split
    · rfl
    · cases isRest : segments rest with
      | nil => exact absurd isRest (segments_ne_nil rest)
      | cons => rfl

theorem segments_plain (plain : slash ∉ name) : segments name = [name] := by
  induction name with
  | nil => rfl
  | cons _ _ ih =>
    rw [List.mem_cons, not_or] at plain
    rw [segments, if_neg (Ne.symm plain.1), ih plain.2]

theorem joinSegments_concat {directory : List Bytes} (some : directory ≠ []) (name : Bytes) :
    joinSegments (directory ++ [name]) = joinSegments directory ++ slash :: name := by
  induction directory with
  | nil => exact absurd rfl some
  | cons _ rest ih =>
    cases rest with
    | nil => rfl
    | cons next later =>
      have shorter := ih (List.cons_ne_nil next later)
      simp only [List.cons_append, joinSegments] at shorter ⊢
      rw [shorter]
      simp

/-- A name that can be the last element of a path as it stands. -/
structure IsElement (name : Bytes) : Prop where
  noSlash : slash ∉ name
  notEmpty : name ≠ []

def EndsIn (path name : Bytes) : Prop :=
  path = name ∨ ∃ directory, path = directory ++ slash :: name

theorem EndsIn.slash_cons (last : EndsIn path name) : EndsIn (slash :: path) name := by
  rcases last with rfl | ⟨directory, rfl⟩
  · exact Or.inr ⟨[], rfl⟩
  · exact Or.inr ⟨slash :: directory, rfl⟩

theorem EndsIn.requestPath (last : EndsIn url.path name) : EndsIn (requestPath url) name := by
  unfold UrlPath.requestPath
  split
  · exact last.slash_cons
  · exact last

theorem mem_requestPath (member : byte ∈ requestPath url) : byte ∈ url.path ∨ byte = slash := by
  unfold requestPath at member
  split at member
  · exact (List.mem_cons.mp member).symm
  · exact Or.inl member

theorem base_of_endsIn (isElement : IsElement name) (last : EndsIn path name) :
    base path = name := by
  obtain ⟨front, final, isName⟩ : ∃ front final, name = front ++ [final] :=
    ⟨name.dropLast, name.getLast isElement.notEmpty,
      (List.dropLast_append_getLast isElement.notEmpty).symm⟩
  have notSlash : ¬decide (final = slash) = true := by
    intro isSlash
    apply isElement.noSlash
    rw [isName, ← of_decide_eq_true isSlash]
    simp
  have passes := passes_of_notMem
    (fun member => isElement.noSlash (List.mem_reverse.mp member))
  have ends : ∃ before, path = before ++ name ∧
      (before = [] ∨ ∃ directory, before = directory ++ [slash]) := by
    rcases last with rfl | ⟨directory, rfl⟩
    · exact ⟨[], rfl, Or.inl rfl⟩
    · exact ⟨directory ++ [slash], by simp, Or.inr ⟨directory, rfl⟩⟩
  obtain ⟨before, rfl, isBefore⟩ := ends
  have kept : (before ++ name).rdropWhile (fun byte => decide (byte = slash)) = before ++ name := by
    rw [isName, ← List.append_assoc]
    exact List.rdropWhile_concat_neg _ _ _ notSlash
  unfold base
  rw [if_neg (by simp [isElement.notEmpty])]
  rw [kept, List.reverse_append, List.takeWhile_append_of_pos passes]
  have stops : (before.reverse.takeWhile fun byte => decide (byte ≠ slash)) = [] := by
    rcases isBefore with rfl | ⟨directory, rfl⟩
    · rfl
    · simp
  rw [stops, List.append_nil, List.reverse_reverse, if_neg isElement.notEmpty]

theorem unescape_cons (plain : byte ≠ percent) (rest : Bytes) :
    unescape (byte :: rest) = (unescape rest).map (byte :: ·) := by
  rw [unescape.eq_def]
  exact if_neg plain

theorem unescape_plain {text : Bytes} (plain : percent ∉ text) : unescape text = some text := by
  induction text with
  | nil => rfl
  | cons _ _ ih =>
    rw [List.mem_cons, not_or] at plain
    rw [unescape_cons (Ne.symm plain.1), ih plain.2]
    rfl

theorem unescape_percent (high low : UInt8) (rest : Bytes) :
    unescape (percent :: high :: low :: rest) =
      (unhex high).bind fun first => (unhex low).bind fun second =>
        (unescape rest).map (UInt8.ofNat (16 * first + second) :: ·) := by
  rw [unescape.eq_def]
  dsimp only
  cases unhex high with
  | none => rfl
  | some =>
    cases unhex low with
    | none => rfl
    | some => cases unescape rest <;> rfl

theorem unescape_append (left right : Bytes) :
    unescape (left ++ slash :: right) =
      (unescape left).bind fun first => (unescape right).map fun second =>
        first ++ slash :: second := by
  induction isLength : left.length using Nat.strong_induction_on generalizing left with
  | _ _ ih =>
    match left with
    | [] =>
      rw [List.nil_append, unescape_cons (by decide)]
      cases unescape right <;> rfl
    | byte :: rest =>
      by_cases isEscape : byte = percent
      · subst isEscape
        match rest with
        | [] =>
          cases right with
          | nil => rfl
          | cons next later => exact unescape_percent slash next later
        | [high] =>
          refine (unescape_percent high slash right).trans ?_
          cases unhex high <;> rfl
        | high :: low :: rest =>
          have shorter := ih rest.length
            (by rw [← isLength]; simp only [List.length_cons]; omega) rest rfl
          rw [List.cons_append, List.cons_append, List.cons_append, unescape_percent,
            unescape_percent, shorter]
          cases unhex high with
          | none => rfl
          | some =>
            cases unhex low with
            | none => rfl
            | some =>
              cases unescape rest with
              | none => rfl
              | some => cases unescape right <;> rfl
      · have shorter := ih rest.length
          (by rw [← isLength]; simp) rest rfl
        rw [List.cons_append, unescape_cons isEscape, unescape_cons isEscape, shorter]
        cases unescape rest with
        | none => rfl
        | some => cases unescape right <;> rfl

/-- The text can be decoded, to a path of allowed bytes. -/
def Decodes (allowed : UInt8 → Prop) (text : Bytes) : Prop :=
  ∃ path, unescape text = some path ∧ ∀ byte ∈ path, allowed byte

section Decodes

variable {allowed : UInt8 → Prop} (slashAllowed : allowed slash)

include slashAllowed in
theorem decodes_append {left right : Bytes} :
    Decodes allowed (left ++ slash :: right) ↔ Decodes allowed left ∧ Decodes allowed right := by
  unfold Decodes
  rw [unescape_append]
  cases unescape left with
  | none => simp
  | some =>
    cases unescape right with
    | none => simp
    | some =>
      simp only [Option.bind_some, Option.map_some, Option.some.injEq, exists_eq_left',
        List.mem_append, List.mem_cons]
      constructor
      · intro all
        exact ⟨fun byte member => all byte (Or.inl member),
          fun byte member => all byte (Or.inr (Or.inr member))⟩
      · rintro ⟨allFirst, allSecond⟩ byte (inFirst | rfl | inSecond)
        · exact allFirst byte inFirst
        · exact slashAllowed
        · exact allSecond byte inSecond

theorem decodes_nil : Decodes allowed [] := ⟨[], rfl, by simp⟩

include slashAllowed in
theorem decodes_slash (decodes : Decodes allowed path) :
    Decodes allowed (slash :: path) :=
  (@decodes_append allowed slashAllowed [] path).mpr ⟨decodes_nil, decodes⟩

theorem decodes_plain {text : Bytes} (plain : percent ∉ text)
    (all : ∀ byte ∈ text, allowed byte) : Decodes allowed text :=
  ⟨text, unescape_plain plain, all⟩

include slashAllowed in
theorem decodes_segments (decodes : Decodes allowed path) :
    ∀ segment ∈ segments path, Decodes allowed segment := by
  induction isLength : path.length using Nat.strong_induction_on generalizing path with
  | _ _ ih =>
    by_cases divided : slash ∈ path
    · obtain ⟨left, right, rfl⟩ := List.append_of_mem divided
      obtain ⟨decodesLeft, decodesRight⟩ := (decodes_append slashAllowed).mp decodes
      rw [List.length_append, List.length_cons] at isLength
      rw [segments_append]
      intro segment member
      rcases List.mem_append.mp member with inLeft | inRight
      · exact ih left.length (by omega) decodesLeft rfl segment inLeft
      · exact ih right.length (by omega) decodesRight rfl segment inRight
    · rw [segments_plain divided]
      intro segment member
      rw [List.mem_singleton.mp member]
      exact decodes

include slashAllowed in
theorem decodes_joinSegments (decode : ∀ segment ∈ kept, Decodes allowed segment) :
    Decodes allowed (joinSegments kept) := by
  induction kept with
  | nil => exact decodes_nil
  | cons segment rest ih =>
    cases rest with
    | nil => exact decode segment (by simp)
    | cons =>
      rw [joinSegments, decodes_append slashAllowed]
      exact ⟨decode segment (by simp), ih fun other member => decode other (by simp [member])⟩

end Decodes

theorem unhex_upperHex : ∀ value : Fin 16, unhex (upperHex value.val) = some value.val := by
  decide

theorem unescape_escape (needed : UInt8 → Bool) (escapes : needed percent = true) (text : Bytes) :
    unescape (escape needed text) = some text := by
  induction text with
  | nil => rfl
  | cons byte rest ih =>
    have isRest : escape needed (byte :: rest) = escapeByte needed byte ++ escape needed rest := rfl
    rw [isRest]
    unfold escapeByte
    split
    · have small := byte.toNat_lt
      have high := unhex_upperHex ⟨byte.toNat / 16, by omega⟩
      have low := unhex_upperHex ⟨byte.toNat % 16, by omega⟩
      have whole : 16 * (byte.toNat / 16) + byte.toNat % 16 = byte.toNat := by omega
      rw [List.cons_append, List.cons_append, List.cons_append, List.nil_append,
        unescape_percent, high, low, ih]
      show some (UInt8.ofNat (16 * (byte.toNat / 16) + byte.toNat % 16) :: rest) = _
      rw [whole, UInt8.ofNat_toNat]
    · next unneeded =>
      have plain : byte ≠ percent := fun same => unneeded (same ▸ escapes)
      rw [List.cons_append, List.nil_append, unescape_cons plain, ih]
      rfl

theorem unescape_escapedPath (url : Url) : unescape (escapedPath url) = some url.path := by
  unfold escapedPath
  split
  · next raw => exact raw.2.2
  · split
    · next isStar =>
      rw [isStar]
      rfl
    · exact unescape_escape shouldEscape (by decide) url.path

theorem mem_cleanSegment {segment : Bytes} (member : other ∈ cleanSegment rooted kept segment) :
    other ∈ kept ∨ other = segment := by
  unfold cleanSegment at member
  split at member
  · exact Or.inl member
  · split at member
    · split at member
      · split at member
        · cases member
        · exact Or.inr (List.mem_singleton.mp member)
      · split at member
        · exact (List.mem_cons.mp member).symm
        · exact Or.inl (List.mem_cons_of_mem _ member)
    · exact (List.mem_cons.mp member).symm

theorem mem_cleaned {path : List Bytes} (member : other ∈ path.foldl (cleanSegment rooted) kept) :
    other ∈ kept ∨ other ∈ path := by
  induction path generalizing kept with
  | nil => exact Or.inl member
  | cons _ _ ih =>
    rcases ih member with inKept | inRest
    · rcases mem_cleanSegment inKept with inKept | rfl
      · exact Or.inl inKept
      · exact Or.inr (by simp)
    · exact Or.inr (List.mem_cons_of_mem _ inRest)

/-- A name that is not a way to refer to a directory. -/
structure IsName (name : Bytes) : Prop extends IsElement name where
  notDot : name ≠ [dot]
  notDotDot : name ≠ [dot, dot]

theorem base_dir (isName : IsName name) {last : Bytes} (plain : slash ∉ last) :
    base (dir (slash :: name ++ slash :: last)) = name := by
  have passes := passes_of_notMem (fun member => plain (List.mem_reverse.mp member))
  have isDir : ((slash :: name ++ slash :: last).reverse.dropWhile (· ≠ slash)).reverse =
      slash :: (name ++ slash :: []) := by
    rw [List.reverse_append, List.reverse_cons, List.append_assoc,
      List.dropWhile_append_of_pos passes]
    simp
  have isSegments : segments (slash :: (name ++ slash :: [])) = [[], name, []] := by
    rw [segments, if_pos rfl, segments_append, segments_plain isName.noSlash]
    rfl
  have isClean : dir (slash :: name ++ slash :: last) = slash :: name := by
    rw [dir, isDir, clean, isSegments]
    simp [cleanSegment, joinSegments, isName.notEmpty, isName.notDot, isName.notDotDot]
  rw [isClean]
  exact base_of_endsIn isName.toIsElement (Or.inr ⟨[], rfl⟩)

section Joining

variable {allowed : UInt8 → Prop} (slashAllowed : allowed slash)

def rootedSegments (path : Bytes) : List Bytes :=
  ((segments path).foldl (cleanSegment true) []).reverse

include slashAllowed in
theorem decodes_rootedSegments (decodes : Decodes allowed path) :
    Decodes allowed (joinSegments (rootedSegments path)) := by
  apply decodes_joinSegments slashAllowed
  intro segment member
  have inPath := (mem_cleaned (List.mem_reverse.mp member)).resolve_left (by simp)
  exact decodes_segments slashAllowed decodes segment inPath

variable {name : Bytes}

theorem clean_concat {directory : Bytes} (isName : IsName name)
    (rooted : directory.head? = some slash) :
    clean (directory ++ slash :: name) =
      slash :: joinSegments (rootedSegments directory ++ [name]) := by
  have isRooted : (directory ++ slash :: name).head? = some slash := by
    rw [List.head?_append, rooted]
    rfl
  have pushed : ∀ kept, cleanSegment true kept name = name :: kept := by
    simp [cleanSegment, isName.notEmpty, isName.notDot, isName.notDotDot]
  unfold clean rootedSegments
  simp only [isRooted, decide_true, if_true, segments_append, segments_plain isName.noSlash,
    List.foldl_append, List.foldl_cons, List.foldl_nil, pushed, List.reverse_cons]

include slashAllowed in
theorem endsIn_setPath (url : Url) {encoded : Bytes} (plain : percent ∉ name)
    (allName : ∀ byte ∈ name, allowed byte)
    (isEncoded : encoded = name ∨
      ∃ directory, Decodes allowed directory ∧ encoded = directory ++ slash :: name) :
    EndsIn (setPath url encoded).path name ∧
      ∀ byte ∈ (setPath url encoded).path, allowed byte := by
  unfold setPath
  rcases isEncoded with rfl | ⟨directory, ⟨decoded, isDecoded, allDecoded⟩, rfl⟩
  · rw [unescape_plain plain]
    exact ⟨Or.inl rfl, allName⟩
  · rw [unescape_append, isDecoded, unescape_plain plain]
    refine ⟨Or.inr ⟨decoded, rfl⟩, ?_⟩
    intro byte member
    rcases List.mem_append.mp member with inDecoded | inRest
    · exact allDecoded byte inDecoded
    · rcases List.mem_cons.mp inRest with rfl | inName
      · exact slashAllowed
      · exact allName byte inName

variable {root : Bytes}

theorem join_concat (elements : List Bytes) (rooted : root.head? = some slash)
    (isName : IsName name) :
    join (root :: (elements ++ [name])) =
      slash :: joinSegments (rootedSegments (joinSegments (root :: elements)) ++ [name]) := by
  have notEmpty : root ≠ [] := by
    intro isEmpty
    rw [isEmpty] at rooted
    cases rooted
  have isRooted : (joinSegments (root :: elements)).head? = some slash := by
    cases elements with
    | nil => exact rooted
    | cons =>
      rw [joinSegments, List.head?_append, rooted]
      rfl
  rw [← clean_concat isName isRooted, ← joinSegments_concat (List.cons_ne_nil root elements)]
  unfold join
  rw [if_neg (by simp [notEmpty]), List.dropWhile_cons_of_neg (by simp [notEmpty])]
  rfl

theorem joinPath_concat (url : Url) (elements : List Bytes) (isName : IsName name) :
    joinPath url (elements ++ [name]) = setPath url
      (if (escapedPath url).head? = some slash then
        slash :: joinSegments
          (rootedSegments (joinSegments (escapedPath url :: elements)) ++ [name])
      else
        joinSegments (rootedSegments (joinSegments ((slash :: escapedPath url) :: elements)) ++
          [name])) := by
  have isLast : (escapedPath url :: (elements ++ [name])).getLast?.getD [] = name := by
    rw [← List.cons_append, List.getLast?_append]
    rfl
  have noSlash : name.getLast? ≠ some slash := by
    intro endsInSlash
    exact isName.noSlash (List.mem_of_getLast? endsInSlash)
  unfold joinPath
  simp only [isLast, noSlash, false_and, if_false]
  split
  · next rooted => rw [join_concat elements rooted isName]
  · rw [join_concat elements rfl isName]
    rfl

include slashAllowed in
theorem decodes_elements (decodesRoot : Decodes allowed root)
    (decode : ∀ element ∈ elements, Decodes allowed element) :
    Decodes allowed (joinSegments (rootedSegments (joinSegments (root :: elements)))) := by
  apply decodes_rootedSegments slashAllowed
  apply decodes_joinSegments slashAllowed
  intro segment member
  rcases List.mem_cons.mp member with rfl | inElements
  · exact decodesRoot
  · exact decode segment inElements

include slashAllowed in
theorem endsIn_joinPath (url : Url)
    (allPath : ∀ byte ∈ url.path, allowed byte)
    (decode : ∀ element ∈ elements, Decodes allowed element) (isName : IsName name)
    (plain : percent ∉ name) (allName : ∀ byte ∈ name, allowed byte) :
    EndsIn (joinPath url (elements ++ [name])).path name ∧
      ∀ byte ∈ (joinPath url (elements ++ [name])).path, allowed byte := by
  have decodesPath : Decodes allowed (escapedPath url) :=
    ⟨url.path, unescape_escapedPath url, allPath⟩
  rw [joinPath_concat url elements isName]
  apply endsIn_setPath slashAllowed url plain allName
  split
  · have decodes := decodes_elements slashAllowed decodesPath decode
    generalize rootedSegments (joinSegments (escapedPath url :: elements)) = kept at decodes
    right
    by_cases nothing : kept = []
    · subst nothing
      exact ⟨[], decodes_nil, rfl⟩
    · refine ⟨slash :: joinSegments kept, decodes_slash slashAllowed decodes, ?_⟩
      rw [joinSegments_concat nothing]
      rfl
  · have decodes := decodes_elements slashAllowed (decodes_slash slashAllowed decodesPath) decode
    generalize rootedSegments (joinSegments ((slash :: escapedPath url) :: elements)) = kept
      at decodes
    by_cases nothing : kept = []
    · subst nothing
      exact Or.inl rfl
    · exact Or.inr ⟨joinSegments kept, decodes, joinSegments_concat nothing name⟩

end Joining

end UrlPath
