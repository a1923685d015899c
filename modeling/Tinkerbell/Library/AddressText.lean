import Mathlib.Algebra.GroupWithZero.Nat
import Tinkerbell.Library.NetAddress

/-!
Owns: the texts that addresses are printed as, and splitting a text at the
separators it was joined with.

An internet address of the short form is printed as four decimal octets and
reads back. One of the long form is printed with colons, a run of zero groups
left out, unless it is printed as the short address that it holds.
-/

namespace NetAddress

def join (separator : Char) (pieces : List (List Char)) : List Char :=
  [separator].intercalate pieces

section Join

variable {separator : Char}

theorem join_cons_cons (piece next : List Char) (pieces : List (List Char)) :
    join separator (piece :: next :: pieces) =
      piece ++ separator :: join separator (next :: pieces) := by
  simp [join, List.intercalate_cons_cons]

theorem join_singleton (piece : List Char) : join separator [piece] = piece :=
  List.intercalate_singleton

variable {piece : List Char} {pieces : List (List Char)}

variable {c : Char}

theorem mem_join_of_mem (inPieces : piece ∈ pieces) (inPiece : c ∈ piece) :
    c ∈ join separator pieces := by
  induction pieces with
  | nil => cases inPieces
  | cons _ later ih =>
    cases later with
    | nil =>
      rw [join_singleton]
      rwa [List.mem_singleton.mp inPieces] at inPiece
    | cons =>
      rcases List.mem_cons.mp inPieces with rfl | inLater
      · exact List.mem_append_left _ inPiece
      · exact List.mem_append_right _ (List.mem_cons_of_mem _ (ih inLater))

theorem notMem_join (differs : c ≠ separator) (absent : ∀ piece ∈ pieces, c ∉ piece) :
    c ∉ join separator pieces := by
  induction pieces with
  | nil => exact List.not_mem_nil
  | cons _ later ih =>
    obtain ⟨notFirst, notLater⟩ := List.forall_mem_cons.mp absent
    cases later with
    | nil =>
      rw [join_singleton]
      exact notFirst
    | cons =>
      rw [join_cons_cons, List.mem_append, List.mem_cons, not_or, not_or]
      exact ⟨notFirst, differs, ih notLater⟩

theorem splitAtChar_of_notMem (absent : separator ∉ piece) :
    splitAtChar separator piece = [piece] := by
  induction piece with
  | nil => rfl
  | cons _ _ ih =>
    obtain ⟨differs, later⟩ := not_or.mp (mt List.mem_cons.mpr absent)
    rw [splitAtChar, if_neg (Ne.symm differs), ih later]

theorem splitAtChar_append (absent : separator ∉ piece) (rest : List Char) :
    splitAtChar separator (piece ++ separator :: rest) = piece :: splitAtChar separator rest := by
  induction piece with
  | nil => rw [List.nil_append, splitAtChar, if_pos rfl]
  | cons _ _ ih =>
    obtain ⟨differs, later⟩ := not_or.mp (mt List.mem_cons.mpr absent)
    rw [List.cons_append, splitAtChar, if_neg (Ne.symm differs), ih later]

theorem splitAtChar_join (absent : ∀ part ∈ piece :: pieces, separator ∉ part) :
    splitAtChar separator (join separator (piece :: pieces)) = piece :: pieces := by
  induction pieces generalizing piece with
  | nil =>
    rw [join_singleton]
    exact splitAtChar_of_notMem (absent piece List.mem_cons_self)
  | cons _ _ ih =>
    obtain ⟨first, others⟩ := List.forall_mem_cons.mp absent
    rw [join_cons_cons, splitAtChar_append first, ih others]

theorem length_splitAtChar (text : List Char) :
    (splitAtChar separator text).length = text.count separator + 1 := by
  induction text with
  | nil => rfl
  | cons head _ ih =>
    rw [splitAtChar]
    by_cases isSeparator : head = separator
    · rw [if_pos isSeparator, isSeparator, List.count_cons_self, List.length_cons, ih]
    · rw [if_neg isSeparator, List.count_cons_of_ne isSeparator, ← ih]
      split
      · next isEmpty =>
        rw [isEmpty, List.length_nil] at ih
        omega
      · next _ _ isSplit =>
        rw [isSplit, List.length_cons, List.length_cons]

theorem count_join :
    (join separator (piece :: pieces)).count separator =
      ((piece :: pieces).map (List.count separator)).sum + pieces.length := by
  induction pieces generalizing piece with
  | nil => simp [join_singleton]
  | cons _ _ ih =>
    rw [join_cons_cons, List.count_append, List.count_cons_self, ih,
      List.map_cons, List.map_cons, List.sum_cons, List.length_cons]
    simp only [List.map_cons, List.sum_cons]
    omega

theorem length_splitAtChar_join :
    (splitAtChar separator (join separator (piece :: pieces))).length =
        (piece :: pieces).length ↔
      ∀ part ∈ piece :: pieces, separator ∉ part := by
  constructor
  · intro sameLength
    rw [length_splitAtChar, count_join, List.length_cons] at sameLength
    have none : ((piece :: pieces).map (List.count separator)).sum = 0 := by omega
    rw [List.sum_eq_zero_iff_forall_eq_nat] at none
    intro part inPieces
    exact List.count_eq_zero.mp (none _ (List.mem_map_of_mem inPieces))
  · intro absent
    rw [splitAtChar_join absent]

end Join

def decimalText (octet : UInt8) : List Char :=
  Nat.toDigits 10 octet.toNat

def ipv4Text (first second third fourth : UInt8) : List Char :=
  join '.' [decimalText first, decimalText second, decimalText third, decimalText fourth]

variable (octet : UInt8) (octets : List UInt8) (first second third fourth : UInt8)

theorem decimalText_reads :
    decimalOctet (decimalText octet) = some octet ∧
      (decimalText octet).all (fun c => c.isDigit) = true := by
  have all : ∀ value : Fin 256,
      decimalOctet (decimalText (UInt8.ofNat value.val)) = some (UInt8.ofNat value.val) ∧
        (decimalText (UInt8.ofNat value.val)).all (fun c => c.isDigit) = true := by
    decide +kernel
  have read := all ⟨octet.toNat, octet.toNat_lt⟩
  rwa [UInt8.ofNat_toNat] at read

variable {c : Char} {addr : Addr}

theorem notMem_decimalText (notDigit : c.isDigit = false) (octet : UInt8) :
    c ∉ decimalText octet := by
  intro member
  have isDigit := List.all_eq_true.mp (decimalText_reads octet).2 c member
  rw [notDigit] at isDigit
  cases isDigit

theorem parseIPv4_ipv4Text :
    parseIPv4 (ipv4Text first second third fourth) = some (first, second, third, fourth) := by
  have dots : ∀ part ∈ [decimalText first, decimalText second, decimalText third,
      decimalText fourth], '.' ∉ part := by
    simp only [List.forall_mem_cons, List.not_mem_nil, false_implies, implies_true, and_true]
    exact ⟨notMem_decimalText rfl _, notMem_decimalText rfl _, notMem_decimalText rfl _,
      notMem_decimalText rfl _⟩
  unfold parseIPv4 ipv4Text
  rw [splitAtChar_join dots]
  dsimp only
  rw [(decimalText_reads first).1, (decimalText_reads second).1, (decimalText_reads third).1,
    (decimalText_reads fourth).1]
  rfl

theorem notMem_ipv4Text (notDigit : c.isDigit = false) (notDot : c ≠ '.')
    (first second third fourth : UInt8) : c ∉ ipv4Text first second third fourth := by
  unfold ipv4Text
  simp only [join_cons_cons, join_singleton, List.mem_append, List.mem_cons, not_or]
  exact ⟨notMem_decimalText notDigit _, notDot, notMem_decimalText notDigit _, notDot,
    notMem_decimalText notDigit _, notDot, notMem_decimalText notDigit _⟩

theorem ipv4Text_ne_nil : ipv4Text first second third fourth ≠ [] := by
  exact List.append_ne_nil_of_right_ne_nil _ (List.cons_ne_nil _ _)

theorem parseAddr_ipv4Text :
    parseAddr (String.ofList (ipv4Text first second third fourth)) =
      some (.v4 first second third fourth) := by
  have isDot : (ipv4Text first second third fourth).find?
      (fun c => c = '.' || c = ':' || c = '%') = some '.' := by
    unfold ipv4Text
    rw [join_cons_cons, List.find?_append, List.find?_eq_none.mpr]
    · rfl
    · intro c member marks
      have isDigit := List.all_eq_true.mp (decimalText_reads first).2 c member
      simp only [Bool.or_eq_true, decide_eq_true_eq] at marks
      rcases marks with (rfl | rfl) | rfl
      all_goals cases isDigit
  unfold parseAddr
  rw [String.toList_ofList]
  dsimp only
  rw [isDot, parseIPv4_ipv4Text]
  rfl

def groupsOf : List UInt8 → List Nat
  | high :: low :: rest => (256 * high.toNat + low.toNat) :: groupsOf rest
  | _ => []

def zerosFrom (groups : List Nat) (position : Nat) : Nat :=
  ((groups.drop position).takeWhile (· == 0)).length

/-- The first of the longest runs of at least two zero groups, as its start and end. -/
def zeroRun (groups : List Nat) : Nat × Nat :=
  (List.range 8).foldl (fun (start, stop) position =>
    let length := zerosFrom groups position
    if 2 ≤ length ∧ stop - start < length then (position, position + length)
    else (start, stop)) (255, 255)

def groupsText (groups : List Nat) (start stop : Nat) : Nat → Nat → List Char
  | 0, _ => []
  | remaining + 1, position =>
    if 8 ≤ position then []
    else if position = start then
      ':' :: ':' :: (if 8 ≤ stop then []
        else Nat.toDigits 16 (groups.getD stop 0) ++
          groupsText groups start stop remaining (stop + 1))
    else
      (if 0 < position then [':'] else []) ++ Nat.toDigits 16 (groups.getD position 0) ++
        groupsText groups start stop remaining (position + 1)

def zoneText (zone : String) : List Char :=
  if zone = "" then [] else '%' :: zone.toList

def addrText : Addr → List Char
  | .v4 first second third fourth => ipv4Text first second third fourth
  | .v6 octets zone =>
    match to4 (.v6 octets zone) with
    | some [first, second, third, fourth] =>
      "::ffff:".toList ++ ipv4Text first second third fourth ++ zoneText zone
    | _ =>
      let groups := groupsOf octets.val
      let (start, stop) := zeroRun groups
      groupsText groups start stop 8 0 ++ zoneText zone

def ipText (addr : Addr) : List Char :=
  match to4 addr with
  | some [first, second, third, fourth] => ipv4Text first second third fourth
  | _ => addrText addr

theorem colon_mem_groupsText (groups : List Nat) (start stop : Nat) :
    ':' ∈ groupsText groups start stop 8 0 := by
  have second : ':' ∈ groupsText groups start stop 7 1 := by
    rw [groupsText, if_neg (by omega)]
    split
    · exact List.mem_cons_self
    · simp
  rw [groupsText, if_neg (by omega)]
  split
  · exact List.mem_cons_self
  · exact List.mem_append_right _ second

theorem colon_mem_addrText (octets : Octets16) (zone : String) :
    ':' ∈ addrText (.v6 octets zone) := by
  rw [addrText]
  split
  · rw [List.append_assoc]
    exact List.mem_append_left _ (by decide)
  · exact List.mem_append_left _ (colon_mem_groupsText _ _ _)

theorem to4_length {octets : List UInt8} (isShort : to4 addr = some octets) :
    ∃ first second third fourth, octets = [first, second, third, fourth] := by
  have isLength : octets.length = 4 := by
    cases addr with
    | v4 =>
      cases isShort
      rfl
    | v6 long =>
      rw [to4] at isShort
      split at isShort
      · cases isShort
        rw [List.length_drop, long.2]
      · cases isShort
  match octets, isLength with
  | [first, second, third, fourth], _ => exact ⟨first, second, third, fourth, rfl⟩

theorem ipText_of_to4 {first second third fourth : UInt8}
    (isShort : to4 addr = some [first, second, third, fourth]) :
    ipText addr = ipv4Text first second third fourth := by
  unfold ipText
  rw [isShort]

theorem colon_mem_ipText_iff (addr : Addr) : ':' ∈ ipText addr ↔ to4 addr = none := by
  cases isShort : to4 addr with
  | some =>
    obtain ⟨_, _, _, _, rfl⟩ := to4_length isShort
    rw [ipText_of_to4 isShort]
    simp [notMem_ipv4Text]
  | none =>
    unfold ipText
    rw [isShort]
    cases addr with
    | v4 => cases isShort
    | v6 octets zone => simp [colon_mem_addrText octets zone]

def bytesText (octets : List UInt8) : List Char :=
  if isLong : octets.length = 16 then ipText (.v6 ⟨octets, isLong⟩ "")
  else
    match octets with
    | [] => "<nil>".toList
    | [first, second, third, fourth] => ipv4Text first second third fourth
    | _ => '?' :: octets.flatMap octetText

theorem ipText_ne_nil (addr : Addr) : ipText addr ≠ [] := by
  cases isShort : to4 addr with
  | some =>
    obtain ⟨first, second, third, fourth, rfl⟩ := to4_length isShort
    rw [ipText_of_to4 isShort]
    exact ipv4Text_ne_nil first second third fourth
  | none => exact List.ne_nil_of_mem ((colon_mem_ipText_iff addr).mpr isShort)

theorem bytesText_ne_nil : bytesText octets ≠ [] := by
  unfold bytesText
  split
  · exact ipText_ne_nil _
  · split
    · decide
    · exact ipv4Text_ne_nil _ _ _ _
    · exact List.cons_ne_nil _ _

def hyphenText (octets : List UInt8) : List Char :=
  (macText octets).map fun c => if c = ':' then '-' else c

theorem map_octetText :
    (octetText octet).map (fun c => if c = ':' then '-' else c) = octetText octet := by
  have all : ∀ value : Fin 16, Nat.digitChar value.val ≠ ':' := by decide
  have small := octet.toNat_lt
  have high := all ⟨octet.toNat / 16, by omega⟩
  have low := all ⟨octet.toNat % 16, by omega⟩
  unfold octetText
  rw [List.map_cons, List.map_cons, if_neg high, if_neg low, List.map_nil]

theorem hyphenText_cons_cons (next : UInt8) (rest : List UInt8) :
    hyphenText (octet :: next :: rest) = octetText octet ++ '-' :: hyphenText (next :: rest) := by
  unfold hyphenText
  rw [macText, List.map_append, map_octetText, List.map_cons, if_pos rfl]
  exact List.cons_ne_nil _ _

theorem hyphenText_singleton : hyphenText [octet] = octetText octet :=
  map_octetText octet

theorem hexOctet_hyphenText (rest : List UInt8) :
    hexOctet '-' (hyphenText (octet :: rest)) = some octet := by
  cases rest with
  | nil =>
    rw [hyphenText_singleton]
    exact hexOctet_octetText octet rfl
  | cons =>
    rw [hyphenText_cons_cons]
    exact hexOctet_octetText octet rfl

theorem octetPairs_hyphenText : octetPairs '-' (hyphenText octets) octets.length = some octets := by
  induction octets with
  | nil => rfl
  | cons octet rest ih =>
    have isRest : (hyphenText (octet :: rest)).drop 3 = hyphenText rest := by
      unfold hyphenText
      rw [← List.map_drop, drop_macText]
    rw [List.length_cons, octetPairs_succ, hexOctet_hyphenText, isRest, ih]
    rfl

theorem colon_notMem_hyphenText : ':' ∉ hyphenText octets := by
  intro member
  obtain ⟨_, _, isColon⟩ := List.mem_map.mp member
  split at isColon
  · cases isColon
  · next differs => exact differs isColon

theorem parseMAC_hyphenText {octets : List UInt8}
    (isAddress : isAddressLength octets.length = true) :
    parseMAC (String.ofList (hyphenText octets)) = some octets := by
  have isLong : 6 ≤ octets.length := by
    simp only [isAddressLength, Bool.or_eq_true, decide_eq_true_eq] at isAddress
    omega
  obtain ⟨first, second, later, rfl⟩ :
      ∃ first second later, octets = first :: second :: later := by
    rcases octets with _ | ⟨first, _ | ⟨second, later⟩⟩
    · rw [List.length_nil] at isLong
      omega
    · rw [List.length_singleton] at isLong
      omega
    · exact ⟨first, second, later, rfl⟩
  have isLength : (hyphenText (first :: second :: later)).length + 1 =
      3 * ((second :: later).length + 1) := by
    unfold hyphenText
    rw [List.length_map]
    exact length_macText first (second :: later)
  rw [List.length_cons] at isLong isAddress
  have isHyphen : (hyphenText (first :: second :: later))[2]? = some '-' := by
    rfl
  unfold parseMAC
  rw [String.toList_ofList]
  rw [if_neg (by omega), if_pos (Or.inr isHyphen), isLength, isHyphen]
  rw [if_pos ⟨by omega, by rwa [Nat.mul_div_cancel_left _ (by omega)]⟩,
    Nat.mul_div_cancel_left _ (by omega)]
  exact octetPairs_hyphenText (first :: second :: later)

end NetAddress
