import Mathlib.Data.List.TakeWhile

/-!
Owns: the textual form of hardware and internet addresses, and networks of
internet addresses.

The readers accept what the usual network libraries accept. A hardware address
is 6, 8 or 20 octets of two hexadecimal digits with colons or hyphens between
them, or groups of four digits with dots between them. An internet address is
four decimal octets without leading zeros, or groups of up to four hexadecimal
digits where one run of zero groups may be left out and the last two groups may
be written as four decimal octets.

A hardware address that is printed reads back (`parseMAC_macString`).
-/

namespace NetAddress

def hexDigit (c : Char) : Option Nat :=
  if '0' ≤ c ∧ c ≤ '9' then some (c.toNat - '0'.toNat)
  else if 'a' ≤ c ∧ c ≤ 'f' then some (c.toNat - 'a'.toNat + 10)
  else if 'A' ≤ c ∧ c ≤ 'F' then some (c.toNat - 'A'.toNat + 10)
  else none

def hexOctet (separator : Char) : List Char → Option UInt8
  | high :: low :: rest =>
    if rest.head?.all (· = separator) then do
      let high ← hexDigit high
      let low ← hexDigit low
      some (UInt8.ofNat (16 * high + low))
    else none
  | _ => none

def octetPairs (separator : Char) (text : List Char) (count : Nat) :
    Option (List UInt8) :=
  (List.range count).mapM fun index => hexOctet separator (text.drop (3 * index))

def octetQuads (text : List Char) (count : Nat) : Option (List UInt8) := do
  let groups ← (List.range count).mapM fun index => do
    let group := text.drop (5 * index)
    let first ← hexOctet '.' (group.take 2)
    let second ← hexOctet '.' (group.drop 2)
    some [first, second]
  some groups.flatten

def isAddressLength (octets : Nat) : Bool :=
  octets = 6 || octets = 8 || octets = 20

def parseMAC (address : String) : Option (List UInt8) :=
  let text := address.toList
  if text.length < 14 then none
  else if text[2]? = some ':' ∨ text[2]? = some '-' then
    let octets := (text.length + 1) / 3
    if (text.length + 1) % 3 = 0 ∧ isAddressLength octets then
      octetPairs (text[2]?.getD ':') text octets
    else none
  else if text[4]? = some '.' then
    let octets := 2 * (text.length + 1) / 5
    if (text.length + 1) % 5 = 0 ∧ isAddressLength octets then
      octetQuads text (octets / 2)
    else none
  else none

variable {α β : Type} {text : List Char} {octets : List UInt8}

variable {read : α → Option β} {values : List β} {elements : List α} {address : String} {c : Char}
  {addr : Addr}

private theorem mapM_cons_eq_some {element : α} {rest : List α}
    (isRead : (element :: rest).mapM read = some values) :
    ∃ first later, read element = some first ∧ rest.mapM read = some later ∧
      values = first :: later := by
  rw [List.mapM_cons] at isRead
  obtain ⟨first, isFirst, isRead⟩ := Option.bind_eq_some_iff.mp isRead
  obtain ⟨later, isLater, isRead⟩ := Option.bind_eq_some_iff.mp isRead
  exact ⟨first, later, isFirst, isLater, (Option.some.inj isRead).symm⟩

theorem length_flatten_mapM {read : α → Option (List β)} {size : Nat}
    (sized : ∀ {element octets}, read element = some octets → octets.length = size)
    {groups : List (List β)} (isRead : elements.mapM read = some groups) :
    groups.flatten.length = size * elements.length := by
  induction elements generalizing groups with
  | nil =>
    cases isRead
    rfl
  | cons _ _ ih =>
    obtain ⟨_, _, isFirst, isLater, rfl⟩ := mapM_cons_eq_some isRead
    rw [List.flatten_cons, List.length_append, sized isFirst, ih isLater,
      List.length_cons, Nat.mul_succ, Nat.add_comm]

theorem length_mapM (isRead : elements.mapM read = some values) :
    values.length = elements.length := by
  induction elements generalizing values with
  | nil =>
    cases isRead
    rfl
  | cons _ _ ih =>
    obtain ⟨_, _, _, isLater, rfl⟩ := mapM_cons_eq_some isRead
    rw [List.length_cons, List.length_cons, ih isLater]

theorem length_octetQuads {count : Nat} (isRead : octetQuads text count = some octets) :
    octets.length = 2 * count := by
  obtain ⟨_, isGroups, isRead⟩ := Option.bind_eq_some_iff.mp isRead
  cases isRead
  rw [length_flatten_mapM _ isGroups, List.length_range]
  intro index group isGroup
  obtain ⟨_, _, isGroup⟩ := Option.bind_eq_some_iff.mp isGroup
  obtain ⟨_, _, isGroup⟩ := Option.bind_eq_some_iff.mp isGroup
  cases isGroup
  rfl

theorem isAddressLength_of_parseMAC (isRead : parseMAC address = some octets) :
    isAddressLength octets.length = true := by
  unfold parseMAC at isRead
  dsimp only at isRead
  split at isRead
  · cases isRead
  · split at isRead
    · split at isRead
      · next isAddress =>
        have isLength := length_mapM isRead
        rw [List.length_range] at isLength
        rw [isLength]
        exact isAddress.2
      · cases isRead
    · split at isRead
      · split at isRead
        · next isAddress =>
          have even := isAddress.2
          rw [length_octetQuads isRead]
          simp only [isAddressLength, Bool.or_eq_true, decide_eq_true_eq] at even ⊢
          omega
        · cases isRead
      · cases isRead

def octetText (octet : UInt8) : List Char :=
  [Nat.digitChar (octet.toNat / 16), Nat.digitChar (octet.toNat % 16)]

def macText : List UInt8 → List Char
  | [] => []
  | [octet] => octetText octet
  | octet :: rest => octetText octet ++ ':' :: macText rest

def macString (octets : List UInt8) : String :=
  String.ofList (macText octets)

/-- The characters of a hardware address, with any of the separators. -/
def macChars : List Char := "0123456789abcdef:.-".toList

theorem macChars_octetText (octet : UInt8) : ∀ c ∈ octetText octet, c ∈ macChars := by
  have digit : ∀ value : Fin 16, Nat.digitChar value.val ∈ macChars := by decide
  have small := octet.toNat_lt
  simp only [octetText, List.forall_mem_cons, List.not_mem_nil, false_implies, implies_true,
    and_true]
  exact ⟨digit ⟨octet.toNat / 16, by omega⟩, digit ⟨octet.toNat % 16, by omega⟩⟩

theorem macChars_macText (mac : List UInt8) : ∀ c ∈ macText mac, c ∈ macChars := by
  fun_induction macText mac with
  | case1 => simp
  | case2 octet => exact macChars_octetText octet
  | case3 octet rest _ ih =>
    rw [List.forall_mem_append, List.forall_mem_cons]
    exact ⟨macChars_octetText octet, by decide, ih⟩

theorem hexDigit_digitChar :
    ∀ value : Fin 16, hexDigit (Nat.digitChar value.val) = some value.val := by
  decide

variable (octet : UInt8) (rest : List UInt8)

theorem hexOctet_octetText {separator : Char} {tail : List Char}
    (ends : tail.head?.all (· = separator) = true) :
    hexOctet separator (octetText octet ++ tail) = some octet := by
  have small := octet.toNat_lt
  have high := hexDigit_digitChar ⟨octet.toNat / 16, by omega⟩
  have low := hexDigit_digitChar ⟨octet.toNat % 16, by omega⟩
  have whole : 16 * (octet.toNat / 16) + octet.toNat % 16 = octet.toNat := by omega
  show (if tail.head?.all (· = separator) then _ else _) = _
  rw [if_pos ends, high, low]
  show some (UInt8.ofNat (16 * (octet.toNat / 16) + octet.toNat % 16)) = some octet
  rw [whole, UInt8.ofNat_toNat]

theorem hexOctet_macText : hexOctet ':' (macText (octet :: rest)) = some octet := by
  cases rest with
  | nil | cons next later => exact hexOctet_octetText octet rfl

theorem drop_macText : (macText (octet :: rest)).drop 3 = macText rest := by
  cases rest with
  | nil | cons next later => rfl

theorem length_macText : (macText (octet :: rest)).length + 1 = 3 * (rest.length + 1) := by
  induction rest generalizing octet with
  | nil => rfl
  | cons next _ ih =>
    have shorter := ih next
    simp only [macText, octetText, List.length_append, List.length_cons, List.length_nil] at *
    omega

theorem octetPairs_succ (separator : Char) (text : List Char) (count : Nat) :
    octetPairs separator text (count + 1) =
      (hexOctet separator text).bind fun first =>
        (octetPairs separator (text.drop 3) count).map (first :: ·) := by
  have later : (fun index => hexOctet separator (text.drop (3 * index))) ∘ Nat.succ =
      fun index => hexOctet separator ((text.drop 3).drop (3 * index)) := by
    funext index
    rw [Function.comp_apply, List.drop_drop, Nat.mul_succ, Nat.add_comm]
  unfold octetPairs
  rw [List.range_succ_eq_map, List.mapM_cons, List.mapM_map, later, Nat.mul_zero, List.drop_zero]
  cases hexOctet separator text with
  | none => rfl
  | some => exact (Option.map_eq_bind ..).symm

theorem octetPairs_macText (octets : List UInt8) :
    octetPairs ':' (macText octets) octets.length = some octets := by
  induction octets with
  | nil => rfl
  | cons _ _ ih =>
    rw [List.length_cons, octetPairs_succ, hexOctet_macText, drop_macText, ih]
    rfl

theorem parseMAC_macString (isAddress : isAddressLength octets.length = true) :
    parseMAC (macString octets) = some octets := by
  have isLong : 6 ≤ octets.length := by
    simp only [isAddressLength, Bool.or_eq_true, decide_eq_true_eq] at isAddress
    omega
  match octets, isLong with
  | first :: second :: later, isLong =>
    have isLength := length_macText first (second :: later)
    rw [List.length_cons] at isLong isAddress
    have isColon : (macText (first :: second :: later))[2]? = some ':' := rfl
    unfold parseMAC macString
    rw [String.toList_ofList]
    rw [if_neg (by omega), if_pos (Or.inl isColon), isLength, isColon]
    rw [if_pos ⟨by omega, by rwa [Nat.mul_div_cancel_left _ (by omega)]⟩,
      Nat.mul_div_cancel_left _ (by omega)]
    exact octetPairs_macText (first :: second :: later)

/-- The octets of an address in the long form. -/
abbrev Octets16 := { octets : List UInt8 // octets.length = 16 }

inductive Addr where
  | v4 (first second third fourth : UInt8)
  | v6 (octets : Octets16) (zone : String)
deriving DecidableEq

def decimalOctet (text : List Char) : Option UInt8 :=
  if text = [] ∨ 3 < text.length ∨ !text.all Char.isDigit ∨
      (text.head? = some '0' ∧ 1 < text.length) then none
  else
    let value := text.foldl (fun value digit => 10 * value + (digit.toNat - '0'.toNat)) 0
    if 255 < value then none else some (UInt8.ofNat value)

def splitAtChar (separator : Char) : List Char → List (List Char)
  | [] => [[]]
  | head :: rest =>
    if head = separator then [] :: splitAtChar separator rest
    else
      match splitAtChar separator rest with
      | [] => [[head]]
      | piece :: later => (head :: piece) :: later

def parseIPv4 (text : List Char) : Option (UInt8 × UInt8 × UInt8 × UInt8) :=
  match splitAtChar '.' text with
  | [first, second, third, fourth] => do
      let first ← decimalOctet first
      let second ← decimalOctet second
      let third ← decimalOctet third
      let fourth ← decimalOctet fourth
      some (first, second, third, fourth)
  | _ => none

def isHexDigit (c : Char) : Bool :=
  (hexDigit c).isSome

def groupValue (digits : List Char) : Nat :=
  digits.foldl (fun value digit => 16 * value + (hexDigit digit).getD 0) 0

def parseGroups : Nat → List Char → List UInt8 → Option Nat →
    Option (List UInt8 × Option Nat × List Char)
  | 0, text, octets, ellipsis => some (octets, ellipsis, text)
  | remaining + 1, text, octets, ellipsis =>
    let digits := text.takeWhile isHexDigit
    let after := text.dropWhile isHexDigit
    if digits.length = 0 ∨ 4 < digits.length then none
    else if after.head? = some '.' then
      if (ellipsis = none ∧ octets.length ≠ 12) ∨ 12 < octets.length then none
      else do
        let (first, second, third, fourth) ← parseIPv4 text
        some (octets ++ [first, second, third, fourth], ellipsis, [])
    else
      let value := groupValue digits
      let octets := octets ++ [UInt8.ofNat (value / 256), UInt8.ofNat (value % 256)]
      match after with
      | [] => some (octets, ellipsis, [])
      | ':' :: ':' :: rest =>
        if ellipsis.isSome then none
        else if rest = [] then some (octets, some octets.length, [])
        else parseGroups remaining rest octets (some octets.length)
      | ':' :: next :: rest => parseGroups remaining (next :: rest) octets ellipsis
      | _ => none

def expandEllipsis (octets : List UInt8) : Option Nat → Option (List UInt8)
  | none => some octets
  | some position =>
    if octets.length < 16 then
      some (octets.take position ++ List.replicate (16 - octets.length) 0 ++
        octets.drop position)
    else none

def parseIPv6 (text : List Char) (zone : String) : Option Addr := do
  let (octets, ellipsis, rest) ←
    match text with
    | [':', ':'] => some ([], some 0, [])
    | ':' :: ':' :: rest => parseGroups 8 rest [] (some 0)
    | _ => parseGroups 8 text [] none
  if rest ≠ [] then none
  else do
    let octets ← expandEllipsis octets ellipsis
    if isLong : octets.length = 16 then some (.v6 ⟨octets, isLong⟩ zone) else none

/-- Read an internet address; the first dot, colon or percent sign decides its form. -/
def parseAddr (address : String) : Option Addr :=
  let text := address.toList
  match text.find? fun c => c = '.' || c = ':' || c = '%' with
  | some '.' => do
      let (first, second, third, fourth) ← parseIPv4 text
      some (.v4 first second third fourth)
  | some ':' =>
    let zone := text.dropWhile (· ≠ '%')
    match zone with
    | [] => parseIPv6 text ""
    | ['%'] => none
    | _ :: zone => parseIPv6 (text.takeWhile (· ≠ '%')) (String.ofList zone)
  | _ => none

def isMapped (octets : Octets16) : Bool :=
  octets.val.take 12 = [0, 0, 0, 0, 0, 0, 0, 0, 0, 0, 255, 255]

def to4 : Addr → Option (List UInt8)
  | .v4 first second third fourth => some [first, second, third, fourth]
  | .v6 octets _ => if isMapped octets then some (octets.val.drop 12) else none

def parseIP (address : String) : Option Addr := do
  let addr ← parseAddr address
  match addr with
  | .v4 _ _ _ _ => some addr
  | .v6 _ zone => if zone = "" then some addr else none

def bitLen : Addr → Nat
  | .v4 _ _ _ _ => 32
  | .v6 _ _ => 128

def prefixBits (text : List Char) : Option Nat :=
  if text = [] ∨ !text.all Char.isDigit then none
  else some (text.foldl (fun value digit => 10 * value + (digit.toNat - '0'.toNat)) 0)

def parseCIDR (network : String) : Option (Addr × Nat) :=
  let text := network.toList
  match text.dropWhile (· ≠ '/') with
  | [] => none
  | _ :: bits => do
      let addr ← parseIP (String.ofList (text.takeWhile (· ≠ '/')))
      let bits ← prefixBits bits
      if bits ≤ bitLen addr then some (addr, bits) else none

def octetsOf : Addr → List UInt8
  | .v4 first second third fourth => [first, second, third, fourth]
  | .v6 octets _ => octets.val

def shorten (octets : List UInt8) : List UInt8 :=
  if octets.length = 16 ∧ octets.take 12 = [0, 0, 0, 0, 0, 0, 0, 0, 0, 0, 255, 255] then
    octets.drop 12
  else octets

def cidrMask (ones octets : Nat) : List UInt8 :=
  (List.range octets).map fun index =>
    [0, 128, 192, 224, 240, 248, 252, 254].getD (ones - 8 * index) 255

structure Network where
  (ip mask : List UInt8)

def networkOf (addr : Addr) (bits : Nat) : Network :=
  let mask := cidrMask bits (bitLen addr / 8)
  ⟨(octetsOf addr).zipWith (· &&& ·) mask, mask⟩

/-- The address is in the network. A network of long addresses that stand for short ones
has the short ones. -/
def Network.contains (network : Network) (addr : Addr) : Bool :=
  let number := shorten network.ip
  let mask :=
    if number.length = 4 ∧ network.mask.length = 16 then network.mask.drop 12 else network.mask
  let ip := shorten (octetsOf addr)
  ip.length = number.length &&
    number.zipWith (· &&& ·) mask = ip.zipWith (· &&& ·) mask

/-- A character that an address without a zone can have. -/
def IsPlain (c : Char) : Prop := isHexDigit c = true ∨ c = '.' ∨ c = ':'

theorem isPlain_of_isDigit (digit : c.isDigit = true) : IsPlain c := by
  left
  simp only [Char.isDigit, Bool.and_eq_true, decide_eq_true_eq] at digit
  have isRange : '0' ≤ c ∧ c ≤ '9' := digit
  unfold isHexDigit hexDigit
  rw [if_pos isRange]
  rfl

theorem mem_splitAtChar (separator : Char) (member : c ∈ text) :
    c = separator ∨ ∃ piece ∈ splitAtChar separator text, c ∈ piece := by
  induction text with
  | nil => cases member
  | cons head _ ih =>
    unfold splitAtChar
    split
    · next isSeparator =>
      rcases List.mem_cons.mp member with rfl | inRest
      · exact Or.inl isSeparator
      · rcases ih inRest with same | ⟨piece, isPiece, inPiece⟩
        · exact Or.inl same
        · exact Or.inr ⟨piece, List.mem_cons_of_mem _ isPiece, inPiece⟩
    · rcases List.mem_cons.mp member with rfl | inRest
      · split
        · exact Or.inr ⟨[c], by simp, by simp⟩
        · next piece _ _ => exact Or.inr ⟨c :: piece, by simp, by simp⟩
      · rcases ih inRest with same | ⟨piece, isPiece, inPiece⟩
        · exact Or.inl same
        · split
          · next noPiece =>
            rw [noPiece] at isPiece
            cases isPiece
          · next _ _ pieces =>
            rw [pieces] at isPiece
            rcases List.mem_cons.mp isPiece with rfl | isLater
            · exact Or.inr ⟨head :: piece, by simp, by simp [inPiece]⟩
            · exact Or.inr ⟨piece, by simp [isLater], inPiece⟩

theorem isPlain_of_decimalOctet {octet : UInt8} (isRead : decimalOctet text = some octet) :
    ∀ c ∈ text, IsPlain c := by
  unfold decimalOctet at isRead
  split at isRead
  · cases isRead
  · next accepted =>
    simp only [not_or, Bool.not_eq_true, Bool.not_eq_false'] at accepted
    intro c member
    exact isPlain_of_isDigit (List.all_eq_true.mp accepted.2.2.1 c member)

theorem isPlain_of_parseIPv4 {octets : UInt8 × UInt8 × UInt8 × UInt8}
    (isRead : parseIPv4 text = some octets) : ∀ c ∈ text, IsPlain c := by
  unfold parseIPv4 at isRead
  split at isRead
  · next _ _ _ _ pieces =>
    obtain ⟨_, isFirst, isRead⟩ := Option.bind_eq_some_iff.mp isRead
    obtain ⟨_, isSecond, isRead⟩ := Option.bind_eq_some_iff.mp isRead
    obtain ⟨_, isThird, isRead⟩ := Option.bind_eq_some_iff.mp isRead
    obtain ⟨_, isFourth, _⟩ := Option.bind_eq_some_iff.mp isRead
    intro c member
    rcases mem_splitAtChar '.' member with isDot | ⟨piece, isPiece, inPiece⟩
    · exact Or.inr (Or.inl isDot)
    · rw [pieces] at isPiece
      simp only [List.mem_cons, List.not_mem_nil, or_false] at isPiece
      rcases isPiece with rfl | rfl | rfl | rfl
      · exact isPlain_of_decimalOctet isFirst c inPiece
      · exact isPlain_of_decimalOctet isSecond c inPiece
      · exact isPlain_of_decimalOctet isThird c inPiece
      · exact isPlain_of_decimalOctet isFourth c inPiece
  · cases isRead

theorem isPlain_of_parseGroups {remaining : Nat} {final : List UInt8} {ellipsis place : Option Nat}
    (isRead : parseGroups remaining text octets ellipsis = some (final, place, [])) :
    ∀ c ∈ text, IsPlain c := by
  induction remaining generalizing text octets ellipsis with
  | zero =>
    cases isRead
    simp
  | succ _ ih =>
    have digits : ∀ c ∈ text.takeWhile isHexDigit, IsPlain c := by
      intro c member
      exact Or.inl (List.mem_takeWhile_imp member)
    unfold parseGroups at isRead
    dsimp only at isRead
    split at isRead
    · cases isRead
    · split at isRead
      · split at isRead
        · cases isRead
        · obtain ⟨_, isShort, _⟩ := Option.bind_eq_some_iff.mp isRead
          exact isPlain_of_parseIPv4 isShort
      · rw [← @List.takeWhile_append_dropWhile _ isHexDigit text]
        intro c member
        rcases List.mem_append.mp member with inDigits | inAfter
        · exact digits c inDigits
        · split at isRead
          · next noMore =>
            rw [noMore] at inAfter
            cases inAfter
          · next _ isAfter =>
            rw [isAfter] at inAfter
            simp only [List.mem_cons] at inAfter
            split at isRead
            · cases isRead
            · split at isRead
              · next atEnd =>
                rcases inAfter with rfl | rfl | inRest
                · exact Or.inr (Or.inr rfl)
                · exact Or.inr (Or.inr rfl)
                · rw [atEnd] at inRest
                  cases inRest
              · rcases inAfter with rfl | rfl | inRest
                · exact Or.inr (Or.inr rfl)
                · exact Or.inr (Or.inr rfl)
                · exact ih isRead c inRest
          · next _ _ _ isAfter =>
            rw [isAfter] at inAfter
            rcases List.mem_cons.mp inAfter with rfl | inRest
            · exact Or.inr (Or.inr rfl)
            · exact ih isRead c inRest
          · cases isRead

theorem parseIPv6_eq_some {zone : String} (isRead : parseIPv6 text zone = some addr) :
    (∀ c ∈ text, IsPlain c) ∧ ∃ octets, addr = .v6 octets zone := by
  have finish : ∀ {octets ellipsis rest}, (if rest ≠ ([] : List Char) then none else do
      let octets ← expandEllipsis octets ellipsis
      if isLong : octets.length = 16 then some (Addr.v6 ⟨octets, isLong⟩ zone) else none) =
        some addr → rest = [] ∧ ∃ octets, addr = .v6 octets zone := by
    intro octets ellipsis rest finished
    split at finished
    · cases finished
    · next atEnd =>
      obtain ⟨_, _, finished⟩ := Option.bind_eq_some_iff.mp finished
      split at finished
      · cases finished
        exact ⟨not_not.mp atEnd, _, rfl⟩
      · cases finished
  have isColon : IsPlain ':' := Or.inr (Or.inr rfl)
  unfold parseIPv6 at isRead
  split at isRead
  · obtain ⟨_, _, isRead⟩ := Option.bind_eq_some_iff.mp isRead
    exact ⟨by simp [isColon], (finish isRead).2⟩
  · obtain ⟨⟨_, _, _⟩, groups, isRead⟩ := Option.bind_eq_some_iff.mp isRead
    obtain ⟨rfl, isAddr⟩ := finish isRead
    simp only [List.forall_mem_cons]
    exact ⟨⟨isColon, isColon, isPlain_of_parseGroups groups⟩, isAddr⟩
  · obtain ⟨⟨_, _, _⟩, groups, isRead⟩ := Option.bind_eq_some_iff.mp isRead
    obtain ⟨rfl, isAddr⟩ := finish isRead
    exact ⟨isPlain_of_parseGroups groups, isAddr⟩

theorem isPlain_of_parseIP (isRead : parseIP address = some addr) :
    ∀ c ∈ address.toList, IsPlain c := by
  obtain ⟨_, isAddr, noZone⟩ := Option.bind_eq_some_iff.mp isRead
  unfold parseAddr at isAddr
  dsimp only at isAddr
  split at isAddr
  · obtain ⟨_, isShort, _⟩ := Option.bind_eq_some_iff.mp isAddr
    exact isPlain_of_parseIPv4 isShort
  · split at isAddr
    · exact (parseIPv6_eq_some isAddr).1
    · cases isAddr
    · next _ zone notAlone isZone =>
      -- A zone that is given is not empty, and then the address is refused.
      exfalso
      obtain ⟨_, rfl⟩ := (parseIPv6_eq_some isAddr).2
      dsimp only at noZone
      split at noZone
      · next isEmpty =>
        have isPercent := List.head?_dropWhile_not (fun c => decide (c ≠ '%')) address.toList
        rw [isZone] at isPercent
        simp at isPercent isEmpty
        exact notAlone isPercent isEmpty
      · cases noZone
  · cases isAddr

end NetAddress
