import Tinkerbell.Smee.SyslogReceiver

/-!
Owns: what the parser makes of the fields of a datagram: the number that the
priority stands for, and the header of a message that follows RFC 5424.

The priority is accumulated in a byte. Of the datagrams that are accepted it is
the number between `<` and `>` exactly when there is one and it fits.
-/

namespace Tinkerbell.Smee.Syslog

open ByteText (isDigit)
open Smee.SyslogTime

/-! ### What a step that returns has kept -/

/-- Every result has the property; a panic has none. -/
def Returns {α : Type} (property : α → Prop) (outcome : Except Panic α) : Prop :=
  ∀ result, outcome = .ok result → property result

section Returns

variable {α β : Type} {property : α → Prop} {after : β → Prop}

theorem returns_ok {result : α} (holds : property result) : Returns property (.ok result) := by
  intro other same
  cases same
  exact holds

variable {outcome : Except Panic α} {next : α → Except Panic β}

theorem returns_bind (returns : Returns property outcome)
    (thenReturns : ∀ result, property result → Returns after (next result)) :
    Returns after (outcome >>= next) := by
  cases outcome with
  | error => exact fun _ same => by cases same
  | ok value => exact thenReturns value (returns value rfl)

theorem returns_read (thenReturns : ∀ result, Returns after (next result)) :
    Returns after (outcome >>= next) := by
  have returns : Returns (fun _ => True) outcome := fun _ _ => trivial
  exact returns_bind returns fun result _ => thenReturns result

end Returns

/-! ### The priority is set once -/

theorem cutPair_priority (first second : Nat × UInt8) (parsed : Parsed) :
    Returns (fun result => result.2.priority = parsed.priority) (cutPair first second parsed) := by
  unfold cutPair
  dsimp only
  split
  · exact returns_ok rfl
  · apply returns_read
    intro byte
    split
    · exact returns_ok rfl
    · apply returns_read
      intro byte
      split
      · exact returns_ok rfl
      · exact returns_read fun _ => returns_ok rfl

section

variable (parsed : Parsed)

private theorem parseTimestamp_priority (bytes : List UInt8) :
    (parseTimestamp parsed bytes).2.priority = parsed.priority := by
  unfold parseTimestamp
  split
  · rfl
  · split
    · rfl
    · split <;> rfl

private theorem parseHeader_priority :
    (parseHeader parsed).2.priority = parsed.priority := by
  unfold parseHeader
  split
  · next timestamp _ _ _ _ _ _ =>
    have kept := parseTimestamp_priority parsed timestamp
    split
    · next _ isRefused => rwa [isRefused] at kept
    · next _ isAccepted => rwa [isAccepted] at kept
  · rfl

private theorem parseLegacyTime_priority :
    Returns (fun result => result.priority = parsed.priority) (parseLegacyTime parsed) := by
  unfold parseLegacyTime
  dsimp only
  split
  · exact returns_ok rfl
  · apply returns_read
    intro separator
    split
    · exact returns_ok rfl
    · apply returns_read
      intro stamp
      split
      · exact returns_ok rfl
      · exact returns_read fun _ => returns_ok rfl

private theorem parseLegacyTag_priority :
    Returns (fun result => result.priority = parsed.priority) (parseLegacyTag parsed) := by
  unfold parseLegacyTag
  dsimp only
  split
  · exact returns_ok rfl
  · apply returns_read
    intro byte
    apply returns_read
    intro app
    apply returns_read
    intro rest
    split
    · exact returns_read fun _ => returns_ok rfl
    · exact returns_ok rfl

private theorem trimCarriageReturns_priority :
    Returns (fun result => result.priority = parsed.priority)
      (trimCarriageReturns parsed) := by
  unfold trimCarriageReturns
  dsimp only
  split
  · exact returns_ok rfl
  · apply returns_read
    intro first
    split
    · exact returns_ok rfl
    · exact returns_read fun _ => returns_ok rfl

private theorem parseLegacyHeader_priority :
    Returns (fun result => result.2.priority = parsed.priority)
      (parseLegacyHeader parsed) := by
  refine returns_bind (parseLegacyTime_priority parsed) ?_
  intro timed sameTimed
  refine returns_bind (parseLegacyTag_priority _) ?_
  intro tagged sameTagged
  refine returns_bind (trimCarriageReturns_priority _) ?_
  intro trimmed sameTrimmed
  exact returns_ok (sameTrimmed.trans (sameTagged.trans sameTimed))

private theorem parseAfterPriority_priority :
    Returns (fun result => result.2.priority = parsed.priority)
      (parseAfterPriority parsed) := by
  refine returns_bind (cutPair_priority (1, 32) (0, 49) parsed) ?_
  rintro ⟨isVersioned, versioned⟩ same
  dsimp only at same ⊢
  rw [← same]
  split
  · exact parseLegacyHeader_priority versioned
  · have header := parseHeader_priority versioned
    split
    · next _ isRefused =>
      rw [isRefused] at header
      exact returns_ok header
    · next accepted isAccepted =>
      rw [isAccepted] at header
      rw [← header]
      exact cutPair_priority (0, 45) (1, 32) accepted

end

/-! ### The number between the brackets -/

def decimal (digits : List UInt8) : Nat :=
  digits.foldl (fun value byte => value * 10 + (byte.toNat - 48)) 0

def wrapped (digits : List UInt8) (pri : UInt8) : UInt8 :=
  digits.foldl (fun value byte => value * 10 + byte - 48) pri

variable {byte : UInt8} {digits rest value : List UInt8} {parsed : Parsed}

private theorem toNat_turn (isDigit : isDigit byte = true) (pri : UInt8) :
    (pri * 10 + byte - 48).toNat = (pri.toNat * 10 + (byte.toNat - 48)) % 256 := by
  simp only [ByteText.isDigit, Bool.and_eq_true, decide_eq_true_eq,
    UInt8.le_iff_toNat_le] at isDigit
  rw [UInt8.toNat_sub, UInt8.toNat_add, UInt8.toNat_mul]
  have isTen : (10 : UInt8).toNat = 10 := rfl
  have isZero : (48 : UInt8).toNat = 48 := rfl
  rw [isTen, isZero]
  omega

theorem toNat_wrapped (areDigits : ∀ byte ∈ digits, isDigit byte = true) :
    (wrapped digits 0).toNat = decimal digits % 256 := by
  -- The loop and the number start from values that agree modulo 256.
  have general : ∀ (digits : List UInt8) (pri : UInt8) (value : Nat),
      (∀ byte ∈ digits, isDigit byte = true) → pri.toNat = value % 256 →
      (wrapped digits pri).toNat =
        digits.foldl (fun value byte => value * 10 + (byte.toNat - 48)) value % 256 := by
    intro digits
    induction digits with
    | nil =>
      intro pri value _ same
      exact same
    | cons _ _ ih =>
      intro pri value areDigits same
      obtain ⟨first, later⟩ := List.forall_mem_cons.mp areDigits
      apply ih _ _ later
      rw [toNat_turn first]
      dsimp only
      omega
  exact general digits 0 0 areDigits rfl

variable {position : Nat} {pri head : UInt8} {later : List UInt8} {message : Message} {fixed : Bool}
  {read : Int}

private theorem scanPriority_found {bytes : List UInt8} {start : Nat} {value : UInt8}
    (found : scanPriority bytes start pri = some (position, value)) :
    ∃ digits rest, bytes = digits ++ 62 :: rest ∧ position = start + digits.length ∧
      (∀ byte ∈ digits, isDigit byte = true) ∧ value = wrapped digits pri := by
  induction bytes generalizing start pri with
  | nil => cases found
  | cons byte rest ih =>
    rw [scanPriority] at found
    split at found
    · next closes =>
      cases found
      exact ⟨[], rest, by rw [closes]; rfl, rfl, by simp, rfl⟩
    · split at found
      · cases found
      · next inRange =>
        obtain ⟨digits, later, isRest, isPosition, areDigits, isValue⟩ :=
          ih found
        refine ⟨byte :: digits, later, by rw [isRest]; rfl, ?_, ?_, isValue⟩
        · rw [isPosition, List.length_cons]
          omega
        · exact List.forall_mem_cons.mpr ⟨isDigit_of_inRange inRange, areDigits⟩

private theorem scanPriority_window {tail : List UInt8}
    (found : scanPriority (tail.take 4) 0 0 = some (position, pri)) :
    ∃ digits later, tail = digits ++ 62 :: later ∧ position = digits.length ∧
      digits.length ≤ 3 ∧ (∀ byte ∈ digits, isDigit byte = true) ∧ pri = wrapped digits 0 := by
  obtain ⟨digits, window, isWindow, _, areDigits, isValue⟩ := scanPriority_found found
  have isTail : tail = digits ++ 62 :: (window ++ tail.drop 4) := by
    calc tail = tail.take 4 ++ tail.drop 4 := (List.take_append_drop 4 tail).symm
      _ = digits ++ 62 :: (window ++ tail.drop 4) := by
        rw [isWindow, List.append_assoc, List.cons_append]
  have fewDigits := congrArg List.length isWindow
  rw [List.length_take, List.length_append, List.length_cons] at fewDigits
  exact ⟨digits, _, isTail, by omega, by omega, areDigits, isValue⟩

private theorem slice_behind {size : Nat}
    (sliced : slice (60 :: digits ++ 62 :: later) (1 + digits.length + 1) size = .ok rest) :
    (60 :: digits ++ 62 :: later).take size = 60 :: digits ++ 62 :: rest := by
  unfold slice at sliced
  split at sliced
  · next inside =>
    obtain ⟨count, isSize⟩ := Nat.exists_eq_add_of_le inside.1
    have isTake : (60 :: digits ++ 62 :: later).take size =
        60 :: digits ++ 62 :: later.take count := by
      have isShift : size = (60 :: digits).length + (count + 1) := by
        rw [isSize, List.length_cons]
        omega
      rw [isShift, List.take_length_add_append, List.take_succ_cons]
    have isDrop : 1 + digits.length + 1 = (60 :: digits).length + 1 := by
      rw [List.length_cons]
      omega
    rw [isTake, isDrop, List.drop_length_add_append] at sliced
    cases sliced
    exact isTake
  · cases sliced

private theorem parsePriority_accepted (accepted : parsePriority message = .ok (true, parsed)) :
    ∃ digits rest, message.buf.take message.size = 60 :: digits ++ 62 :: rest ∧
      digits.length ≤ 3 ∧ (∀ byte ∈ digits, isDigit byte = true) ∧
      parsed = { message.parsed with priority := wrapped digits 0, msg := some rest } := by
  have isLength := message.length_buf
  have isLong : bufferSize = 32768 := rfl
  cases isBuf : message.buf with
  | nil =>
    rw [isBuf, List.length_nil] at isLength
    omega
  | cons first tail =>
    have isWhole : message.buf = first :: tail ++ [] := by
      rw [isBuf, List.append_nil]
    by_cases short : message.size < 3
    · have refused : parsePriority message = .ok (false, message.parsed) := if_pos short
      rw [refused] at accepted
      cases accepted
    · by_cases isOpening : first = 60
      · rw [parsePriority_opened isWhole isOpening (by omega), List.take_nil,
          List.append_nil] at accepted
        split at accepted
        · cases accepted
        · next _ _ found =>
          obtain ⟨digits, later, isTail, isPosition, fewDigits, areDigits, isValue⟩ :=
            scanPriority_window found
          have isBytes : message.buf = 60 :: digits ++ 62 :: later := by
            rw [isBuf, isOpening, isTail, List.cons_append]
          rw [isPosition, isBytes] at accepted
          cases sliced : slice (60 :: digits ++ 62 :: later) (1 + digits.length + 1)
              message.size with
          | error panic =>
            rw [sliced] at accepted
            cases accepted
          | ok rest =>
            rw [sliced] at accepted
            cases accepted
            refine ⟨digits, rest, ?_, fewDigits, areDigits, ?_⟩
            · rw [← isBuf, isBytes]
              exact slice_behind sliced
            · rw [isValue]
      · rw [parsePriority_refused isWhole isOpening] at accepted
        cases accepted

private theorem parse_accepted (accepted : parse message = .ok (true, parsed)) :
    ∃ digits rest, message.buf.take message.size = 60 :: digits ++ 62 :: rest ∧
      digits.length ≤ 3 ∧ (∀ byte ∈ digits, isDigit byte = true) ∧
      parsed.priority = wrapped digits 0 := by
  unfold parse at accepted
  cases isFirst : parsePriority message with
  | error =>
    rw [isFirst] at accepted
    cases accepted
  | ok result =>
    obtain ⟨hasPriority, prioritized⟩ := result
    rw [isFirst] at accepted
    cases hasPriority with
    | false => cases accepted
    | true =>
      obtain ⟨digits, rest, isDatagram, few, areDigits, isParsed⟩ :=
        parsePriority_accepted isFirst
      have kept := parseAfterPriority_priority prioritized _ accepted
      refine ⟨digits, rest, isDatagram, few, areDigits, ?_⟩
      rw [isParsed] at kept
      exact kept

def Parsed.facility (parsed : Parsed) : UInt8 :=
  parsed.priority / 8

private theorem facility_severity (parsed : Parsed) :
    8 * parsed.facility.toNat + parsed.severity.toNat = parsed.priority.toNat := by
  exact Nat.div_add_mod _ _

def ReadsPriority (datagram : List UInt8) (parsed : Parsed) : Prop :=
  ∃ digits rest, datagram = 60 :: digits ++ 62 :: rest ∧
    1 ≤ digits.length ∧ digits.length ≤ 3 ∧ (∀ byte ∈ digits, isDigit byte = true) ∧
    decimal digits ≤ 191 ∧
    8 * parsed.facility.toNat + parsed.severity.toNat = decimal digits

def PlainPriority (datagram : List UInt8) : Prop :=
  datagram[1]? ≠ some 62 ∧
    (((datagram.drop 1).take 3).all isDigit = true → datagram[4]? = some 62 →
      decimal ((datagram.drop 1).take 3) ≤ 191)

instance (datagram : List UInt8) : Decidable (PlainPriority datagram) :=
  inferInstanceAs (Decidable (_ ∧ _))

theorem ne_of_isDigit (digit : isDigit byte = true) : byte ≠ 62 := by
  rintro rfl
  cases digit

theorem digits_unique {others : List UInt8} (areDigits : ∀ byte ∈ digits, isDigit byte = true)
    (areOthers : ∀ byte ∈ others, isDigit byte = true)
    (same : digits ++ 62 :: rest = others ++ 62 :: later) : digits = others := by
  induction digits generalizing others with
  | nil =>
    cases others with
    | nil => rfl
    | cons byte =>
      have isByte : 62 = byte := (List.cons.inj same).1
      exact absurd isByte.symm (ne_of_isDigit (areOthers byte List.mem_cons_self))
  | cons digit _ ih =>
    cases others with
    | nil =>
      have isByte : digit = 62 := (List.cons.inj same).1
      exact absurd isByte (ne_of_isDigit (areDigits digit List.mem_cons_self))
    | cons =>
      obtain ⟨sameByte, sameRest⟩ := List.cons.inj same
      rw [sameByte, ih (List.forall_mem_cons.mp areDigits).2
        (List.forall_mem_cons.mp areOthers).2 sameRest]

theorem digit_le_nine (digit : isDigit byte = true) : byte.toNat - 48 ≤ 9 := by
  simp only [ByteText.isDigit, Bool.and_eq_true, decide_eq_true_eq,
    UInt8.le_iff_toNat_le] at digit
  have high : byte.toNat ≤ 57 := digit.2
  omega

private theorem plainPriority_iff (few : digits.length ≤ 3)
    (areDigits : ∀ byte ∈ digits, isDigit byte = true) :
    PlainPriority (60 :: digits ++ 62 :: rest) ↔ 1 ≤ digits.length ∧ decimal digits ≤ 191 := by
  have closes : isDigit 62 = false := rfl
  unfold PlainPriority
  match digits with
  | [] => simp
  | [first] =>
    have isFirst := areDigits first (by simp)
    have low := digit_le_nine isFirst
    simp [decimal, ne_of_isDigit isFirst, closes]
    omega
  | [first, second] =>
    have isFirst := areDigits first (by simp)
    have low := digit_le_nine isFirst
    have lowSecond := digit_le_nine (areDigits second (by simp))
    simp [decimal, ne_of_isDigit isFirst, closes]
    omega
  | [first, second, third] =>
    have isFirst := areDigits first (by simp)
    have isSecond := areDigits second (by simp)
    have isThird := areDigits third (by simp)
    simp [ne_of_isDigit isFirst, isFirst, isSecond, isThird]
  | _ :: _ :: _ :: _ :: _ =>
    simp only [List.length_cons] at few
    omega

theorem clean_filledMessage (byte : UInt8) : Clean (filledMessage byte) :=
  rfl

/-- The priority of an accepted datagram is the number between its brackets exactly
when there is one and, if it has three digits, it is at most 191. -/
theorem priority_is_number_iff {message : Message} {parsed : Parsed}
    (accepted : parse message = .ok (true, parsed)) :
    ReadsPriority (message.buf.take message.size) parsed ↔
      PlainPriority (message.buf.take message.size) := by
  obtain ⟨digits, rest, isDatagram, few, areDigits, isPriority⟩ := parse_accepted accepted
  rw [isDatagram, plainPriority_iff few areDigits]
  have isNumber : 8 * parsed.facility.toNat + parsed.severity.toNat = decimal digits % 256 := by
    rw [facility_severity, isPriority, toNat_wrapped areDigits]
  constructor
  · rintro ⟨others, later, same, some, _, areOthers, small, _⟩
    have isOthers := digits_unique areDigits areOthers (List.cons.inj same).2
    rw [isOthers]
    exact ⟨some, small⟩
  · rintro ⟨some, small⟩
    refine ⟨digits, rest, rfl, some, few, areDigits, small, ?_⟩
    rw [isNumber]
    exact Nat.mod_eq_of_lt (by omega)

/-- `<34>a`. -/
theorem priority_is_number_of_34 :
    parse (receive (filledMessage 0) [60, 51, 52, 62, 97] ⟨0, 0⟩ []) =
      .ok (true, { cleared ⟨0, 0⟩ with priority := 34, msg := some [97] }) ∧
    ReadsPriority [60, 51, 52, 62, 97]
      { cleared ⟨0, 0⟩ with priority := 34, msg := some [97] } := by
  have accepted : parse (receive (filledMessage 0) [60, 51, 52, 62, 97] ⟨0, 0⟩ []) =
      .ok (true, { cleared ⟨0, 0⟩ with priority := 34, msg := some [97] }) := by
    refine (parse_receive (clean_filledMessage 0) (by decide) _ _).trans ?_
    rfl
  have reads := priority_is_number_iff accepted
  exact ⟨accepted, reads.mpr (by decide)⟩

/-- `<>a` is accepted with the priority 0, and `<999>a` with 231. -/
theorem priority_without_number :
    (parse (receive (filledMessage 0) [60, 62, 97] ⟨0, 0⟩ []) =
        .ok (true, { cleared ⟨0, 0⟩ with priority := 0, msg := some [97] }) ∧
      ¬ReadsPriority [60, 62, 97] { cleared ⟨0, 0⟩ with priority := 0, msg := some [97] }) ∧
    parse (receive (filledMessage 0) [60, 57, 57, 57, 62, 97] ⟨0, 0⟩ []) =
        .ok (true, { cleared ⟨0, 0⟩ with priority := 231, msg := some [97] }) ∧
      ¬ReadsPriority [60, 57, 57, 57, 62, 97]
        { cleared ⟨0, 0⟩ with priority := 231, msg := some [97] } := by
  refine ⟨⟨?_, ?_⟩, ?_, ?_⟩
  · refine (parse_receive (clean_filledMessage 0) (by decide) _ _).trans ?_
    rfl
  · rintro ⟨digits, rest, same, nonempty, _, areDigits, _⟩
    have isEmpty : [] = digits := digits_unique (by simp) areDigits (List.cons.inj same).2
    rw [← isEmpty] at nonempty
    exact absurd nonempty (by decide)
  · refine (parse_receive (clean_filledMessage 0) (by decide) _ _).trans ?_
    rfl
  · rintro ⟨digits, rest, same, _, _, areDigits, small, _⟩
    have areNine : ∀ byte ∈ [(57 : UInt8), 57, 57], isDigit byte = true :=
      List.all_eq_true.mp (by decide)
    have isNine : [57, 57, 57] = digits :=
      digits_unique areNine areDigits (List.cons.inj same).2
    rw [← isNine] at small
    exact absurd small (by decide)

/-! ### A timestamp of the header has no blank -/

/-- Whatever was read, a blank is still to come. -/
def KeepsBlank (value rest : List UInt8) : Prop :=
  32 ∈ value → 32 ∈ rest

theorem KeepsBlank.trans {middle : List UInt8} (first : KeepsBlank value middle)
    (second : KeepsBlank middle rest) : KeepsBlank value rest :=
  fun blank => second (first blank)

theorem keepsBlank_cons (notBlank : head ≠ 32) (rest : List UInt8) :
    KeepsBlank (head :: rest) rest := by
  intro blank
  rcases List.mem_cons.mp blank with isHead | inRest
  · exact absurd isHead.symm notBlank
  · exact inRest

private theorem notBlank_of_isDigit (digit : isDigit byte = true) : byte ≠ 32 := by
  rintro rfl
  cases digit

theorem keepsBlank_digit (digit : isDigit head = true) (rest : List UInt8) :
    KeepsBlank (head :: rest) rest :=
  keepsBlank_cons (notBlank_of_isDigit digit) rest

theorem keepsBlank_getnum (isRead : getnum fixed value = some (read, rest)) :
    KeepsBlank value rest := by
  unfold getnum at isRead
  split at isRead
  · cases isRead
  · next _ =>
    split at isRead
    · next isOnes =>
      cases isRead
      exact keepsBlank_digit (Bool.and_eq_true_iff.mp isOnes).1 []
    · cases isRead
  · next tens _ _ =>
    split at isRead
    · cases isRead
    · next isTens =>
      have tensDigit : isDigit tens = true := by simpa using isTens
      split at isRead
      · next onesDigit =>
        cases isRead
        exact (keepsBlank_digit tensDigit _).trans (keepsBlank_digit onesDigit _)
      · split at isRead
        · cases isRead
        · cases isRead
          exact keepsBlank_digit tensDigit _

theorem keepsBlank_getnumIn {low high : Int}
    (isRead : getnumIn fixed low high value = some (read, rest)) :
    KeepsBlank value rest := by
  simp only [getnumIn, Option.bind_eq_bind, Option.bind_eq_some_iff] at isRead
  obtain ⟨⟨_, _⟩, isGot, inRange⟩ := isRead
  split at inRange
  · cases inRange
    exact keepsBlank_getnum isGot
  · cases inRange

theorem keepsBlank_skipByte {expected : UInt8} (notBlank : expected ≠ 32)
    (isRest : skipByte expected value = some rest) :
    KeepsBlank value rest := by
  cases value with
  | nil => cases isRest
  | cons =>
    rw [skipByte] at isRest
    split at isRest
    · next isHead =>
      cases isRest
      rw [isHead]
      exact keepsBlank_cons notBlank _
    · cases isRest

theorem keepsBlank_dropWhile (value : List UInt8) : KeepsBlank value (value.dropWhile isDigit) := by
  induction value with
  | nil => exact id
  | cons head rest ih =>
    by_cases digit : isDigit head = true
    · rw [List.dropWhile_cons_of_pos digit]
      exact (keepsBlank_digit digit rest).trans ih
    · rw [List.dropWhile_cons_of_neg digit]
      exact id

private theorem keepsBlank_parseFraction (value : List UInt8) :
    KeepsBlank value (parseFraction value).2 := by
  unfold parseFraction
  split
  · next separator _ rest =>
    split
    · next isFraction =>
      obtain ⟨isSeparator, isFirst⟩ := Bool.and_eq_true_iff.mp isFraction
      have notBlank : separator ≠ 32 := by
        rintro rfl
        cases isSeparator
      exact (keepsBlank_cons notBlank _).trans
        ((keepsBlank_digit isFirst _).trans (keepsBlank_dropWhile rest))
    · exact id
  · exact id

private theorem keepsBlank_parseClock {clock nanosecond : Int}
    (isRead : parseClock value = some (clock, nanosecond, rest)) : KeepsBlank value rest := by
  simp only [parseClock, Option.bind_eq_bind, Option.bind_eq_some_iff] at isRead
  obtain ⟨⟨_, _⟩, isHours, _, isColon, ⟨_, _⟩, isMinutes,
    _, isSecond, ⟨_, afterSeconds⟩, isSeconds, isRest⟩ := isRead
  have read : KeepsBlank value afterSeconds :=
    (keepsBlank_getnumIn isHours).trans
      ((keepsBlank_skipByte (by decide) isColon).trans
        ((keepsBlank_getnumIn isMinutes).trans
          ((keepsBlank_skipByte (by decide) isSecond).trans (keepsBlank_getnumIn isSeconds))))
  cases isRest
  exact read.trans (keepsBlank_parseFraction afterSeconds)

private theorem keepsBlank_parseYear {year : Int} (isRead : parseYear value = some (year, rest)) :
    KeepsBlank value rest := by
  unfold parseYear at isRead
  split at isRead
  · next first second third fourth _ =>
    split at isRead
    · next areDigits =>
      cases isRead
      have isYear := List.all_eq_true.mp areDigits
      exact (keepsBlank_digit (isYear first (by simp)) _).trans
        ((keepsBlank_digit (isYear second (by simp)) _).trans
          ((keepsBlank_digit (isYear third (by simp)) _).trans
            (keepsBlank_digit (isYear fourth (by simp)) _)))
    · cases isRead
  · cases isRead

theorem keepsBlank_parseZone {offset : Int} (isRead : parseZone value = some (offset, rest)) :
    KeepsBlank value rest := by
  cases value with
  | nil => cases isRead
  | cons _ others =>
    rw [parseZone] at isRead
    split at isRead
    · next isUtc =>
      cases isRead
      rw [isUtc]
      exact keepsBlank_cons (by decide) _
    · simp only [Option.bind_eq_bind, Option.bind_eq_some_iff] at isRead
      obtain ⟨⟨_, _⟩, isHours, _, isColon, ⟨_, afterMinutes⟩,
        isMinutes, isSign⟩ := isRead
      have read : KeepsBlank others afterMinutes :=
        (keepsBlank_getnumIn isHours).trans
          ((keepsBlank_skipByte (by decide) isColon).trans (keepsBlank_getnumIn isMinutes))
      split at isSign
      · next isPlus =>
        cases isSign
        rw [isPlus]
        exact (keepsBlank_cons (by decide) _).trans read
      · split at isSign
        · next isMinus =>
          cases isSign
          rw [isMinus]
          exact (keepsBlank_cons (by decide) _).trans read
        · cases isSign

private theorem no_blank_in_timestamp {timestamp : List UInt8} {time : Moment}
    (isTime : parseTimestampLayout timestamp = some time) : 32 ∉ timestamp := by
  simp only [parseTimestampLayout, Option.bind_eq_bind, Option.bind_eq_some_iff] at isTime
  obtain ⟨⟨_, _⟩, isYear, _, isDash, ⟨_, _⟩, isMonth,
    _, isSecond, ⟨_, afterDay⟩, isDay, _, isSeparator,
    ⟨_, _, _⟩, isClock, ⟨_, rest⟩, isZone, isEnd⟩ := isTime
  have date : KeepsBlank timestamp afterDay :=
    (keepsBlank_parseYear isYear).trans
      ((keepsBlank_skipByte (by decide) isDash).trans
        ((keepsBlank_getnumIn isMonth).trans
          ((keepsBlank_skipByte (by decide) isSecond).trans (keepsBlank_getnum isDay))))
  have read : KeepsBlank timestamp rest :=
    date.trans ((keepsBlank_skipByte (by decide) isSeparator).trans
      ((keepsBlank_parseClock isClock).trans (keepsBlank_parseZone isZone)))
  dsimp only at isEnd
  split at isEnd
  · next isEmpty =>
    intro blank
    have later := read blank
    rw [isEmpty] at later
    cases later
  · cases isEnd

/-! ### A message of RFC 5424 -/

/-- A header field: some bytes, none of them a blank. -/
structure Token where
  bytes : List UInt8
  nonempty : bytes ≠ []
  noBlank : 32 ∉ bytes

/-- A message without structured data. -/
structure Rfc5424 where
  priority : Fin 192
  timestamp : List UInt8
  (hostname app procid msgid : Token)
  text : List UInt8

def priorityText (priority : Fin 192) : List UInt8 :=
  (Nat.toDigits 10 priority.val).map fun character => character.toNat.toUInt8

/-- `TIMESTAMP HOST APP PROCID MSGID - MSG`. -/
def Rfc5424.header (sent : Rfc5424) : List UInt8 :=
  sent.timestamp ++ 32 :: (sent.hostname.bytes ++ 32 :: (sent.app.bytes ++
    32 :: (sent.procid.bytes ++ 32 :: (sent.msgid.bytes ++ 32 :: 45 :: 32 :: sent.text))))

/-- `<PRI>1 TIMESTAMP HOST APP PROCID MSGID - MSG`. -/
def Rfc5424.datagram (sent : Rfc5424) : List UInt8 :=
  60 :: priorityText sent.priority ++ 62 :: 49 :: 32 :: sent.header

theorem priorityText_digits (priority : Fin 192) :
    (priorityText priority).length ≤ 3 ∧
      (∀ byte ∈ priorityText priority, isDigit byte = true) ∧
      decimal (priorityText priority) = priority.val := by
  have all : ∀ priority : Fin 192, (priorityText priority).length ≤ 3 ∧
      (priorityText priority).all isDigit = true ∧
      decimal (priorityText priority) = priority.val := by
    decide +kernel
  obtain ⟨few, areDigits, isNumber⟩ := all priority
  exact ⟨few, List.all_eq_true.mp areDigits, isNumber⟩

theorem scanPriority_digits (areDigits : ∀ byte ∈ digits, isDigit byte = true) (rest : List UInt8)
    (start : Nat) (pri : UInt8) :
    scanPriority (digits ++ 62 :: rest) start pri =
      some (start + digits.length, wrapped digits pri) := by
  induction digits generalizing start pri with
  | nil => rfl
  | cons _ _ ih =>
    obtain ⟨first, later⟩ := List.forall_mem_cons.mp areDigits
    rw [List.cons_append, scanPriority_digit first, ih later,
      List.length_cons, Nat.add_assoc, Nat.add_comm 1]
    rfl

private theorem priorityOf_digits (few : digits.length ≤ 3)
    (areDigits : ∀ byte ∈ digits, isDigit byte = true) (more : rest ≠ []) (parsed : Parsed) :
    priorityOf (60 :: digits ++ 62 :: rest) parsed =
      (true, { parsed with priority := wrapped digits 0, msg := some rest }) := by
  have isLong : ¬((60 :: digits ++ 62 :: rest).length < 3 ∨
      (60 :: digits ++ 62 :: rest).head? ≠ some 60) := by
    have some := List.length_pos_iff.mpr more
    rw [not_or, List.length_append, List.length_cons, List.length_cons]
    exact ⟨by omega, fun differs => differs rfl⟩
  have isWindow : (digits ++ 62 :: rest).take 4 =
      digits ++ 62 :: rest.take (3 - digits.length) := by
    obtain ⟨count, isCount⟩ := Nat.exists_eq_add_of_le few
    have isFour : 4 = digits.length + (count + 1) := by omega
    rw [isFour, List.take_length_add_append, List.take_succ_cons, isCount, Nat.add_sub_cancel_left]
  have isRest : (60 :: digits ++ 62 :: rest).drop (0 + digits.length + 2) = rest := by
    have isShift : 0 + digits.length + 2 = (60 :: digits).length + 1 := by
      rw [List.length_cons]
      omega
    rw [isShift, List.drop_length_add_append]
    rfl
  unfold priorityOf
  rw [if_neg isLong, List.cons_append, List.tail_cons, isWindow, scanPriority_digits areDigits]
  dsimp only
  rw [← List.cons_append, isRest]

private theorem closed_of_bracket (digits rest : List UInt8) :
    ¬OpenPriority (60 :: digits ++ 62 :: rest) := by
  rintro ⟨_, _, _, areDigits⟩
  have closes := areDigits 62 (by simp)
  cases closes

private theorem parseVersion_one (parsed : Parsed) (rest : List UInt8)
    (isMsg : parsed.msg = some (49 :: 32 :: rest)) :
    parseVersion parsed = .ok (true, { parsed with msg := some rest }) := by
  unfold parseVersion cutPair
  rw [isMsg]
  dsimp only [bytesOf, Option.getD_some]
  rw [if_neg (by simp), sliceFrom_eq (by simp)]
  rfl

private theorem parseStructuredData_nil (parsed : Parsed) (rest : List UInt8)
    (isMsg : parsed.msg = some (45 :: 32 :: rest)) :
    parseStructuredData parsed = .ok (true, { parsed with msg := some rest }) := by
  unfold parseStructuredData cutPair
  rw [isMsg]
  dsimp only [bytesOf, Option.getD_some]
  rw [if_neg (by simp), sliceFrom_eq (by simp)]
  rfl

theorem splitN_token {token : List UInt8} (noBlank : 32 ∉ token) (count : Nat)
    (rest : List UInt8) :
    splitN (count + 2) (token ++ 32 :: rest) = token :: splitN (count + 1) rest := by
  have isPosition : (token ++ 32 :: rest).findIdx? (· == 32) = some token.length := by
    rw [List.findIdx?_append, List.findIdx?_eq_none_iff.mpr]
    · simp [List.findIdx?_cons]
    · intro byte inToken
      simp only [beq_eq_false_iff_ne]
      rintro rfl
      exact noBlank inToken
  rw [splitN, isPosition]
  · dsimp only
    rw [List.take_left, List.drop_length_add_append]
    rfl
  · simp

private theorem splitN_header (sent : Rfc5424) (noBlank : 32 ∉ sent.timestamp) :
    splitN 6 sent.header =
      [sent.timestamp, sent.hostname.bytes, sent.app.bytes, sent.procid.bytes,
        sent.msgid.bytes, 45 :: 32 :: sent.text] := by
  unfold Rfc5424.header
  rw [splitN_token noBlank, splitN_token sent.hostname.noBlank, splitN_token sent.app.noBlank,
    splitN_token sent.procid.noBlank, splitN_token sent.msgid.noBlank]
  rfl

def Token.field (token : Token) : Option (List UInt8) :=
  if token.bytes = [45] then none else some token.bytes

def Rfc5424.fields (sent : Rfc5424) (parsed : Parsed) : Parsed :=
  { parsed with
    hostname := sent.hostname.field
    app := sent.app.field
    procid := sent.procid.field
    msgid := sent.msgid.field
    msg := some sent.text }

variable {sent : Rfc5424} {received : Moment}

private theorem parseAfterPriority_header (noBlank : 32 ∉ sent.timestamp)
    (isMsg : parsed.msg = some (49 :: 32 :: sent.header)) :
    parseAfterPriority parsed =
      .ok (match parseTimestamp { parsed with msg := some sent.header } sent.timestamp with
        | (false, refused) => (false, refused)
        | (true, accepted) => (true, sent.fields accepted)) := by
  unfold parseAfterPriority
  rw [parseVersion_one parsed sent.header isMsg]
  show (match parseHeader { parsed with msg := some sent.header } with
    | (false, parsed) => Except.ok (false, parsed)
    | (true, parsed) => parseStructuredData parsed) = _
  unfold parseHeader
  have isSplit : splitN 6 (bytesOf (some sent.header)) = _ := splitN_header sent noBlank
  rw [isSplit]
  dsimp only
  generalize parseTimestamp { parsed with msg := some sent.header } sent.timestamp = outcome
  obtain ⟨isRead, _⟩ := outcome
  cases isRead with
  | false => rfl
  | true => exact parseStructuredData_nil _ sent.text rfl

def Rfc5424.opened (sent : Rfc5424) (pooled : Message) (time : Moment) : Parsed :=
  { pooled.parsed with
    time
    priority := wrapped (priorityText sent.priority) 0
    msg := some sent.header }

theorem parse_rfc5424 (pooled : Message) (noBlank : 32 ∉ sent.timestamp)
    (fits : sent.datagram.length ≤ bufferSize) (time : Moment) (host : List UInt8) :
    parse (receive pooled sent.datagram time host) =
      .ok (match parseTimestamp (sent.opened pooled time) sent.timestamp with
        | (false, refused) => (false, refused)
        | (true, accepted) => (true, sent.fields accepted)) := by
  obtain ⟨few, areDigits, _⟩ := priorityText_digits sent.priority
  have whole : sent.datagram.take bufferSize = sent.datagram := List.take_of_length_le fits
  have isBuf : (receive pooled sent.datagram time host).buf =
      sent.datagram ++ pooled.buf.drop sent.datagram.length := by
    show sent.datagram.take bufferSize ++
      pooled.buf.drop (sent.datagram.take bufferSize).length = _
    rw [whole]
  have isSize : (receive pooled sent.datagram time host).size = sent.datagram.length := by
    show (sent.datagram.take bufferSize).length = _
    rw [whole]
  have closed : ¬OpenPriority sent.datagram := closed_of_bracket _ _
  have isPriority : priorityOf sent.datagram (receive pooled sent.datagram time host).parsed =
      (true, { sent.opened pooled time with msg := some (49 :: 32 :: sent.header) }) :=
    priorityOf_digits few areDigits (List.cons_ne_nil _ _) _
  unfold parse
  rw [parsePriority_eq isBuf isSize closed, isPriority]
  exact parseAfterPriority_header noBlank rfl

def Rfc5424.time (sent : Rfc5424) (received : Moment) : Option Moment :=
  if sent.timestamp = [45] then some received else parseTimestampLayout sent.timestamp

private theorem parseTimestamp_time {time : Moment} (isTime : sent.time received = some time)
    (short : sent.timestamp.length ≤ timestampLength) (isReceived : parsed.time = received) :
    parseTimestamp parsed sent.timestamp = (true, { parsed with time }) := by
  unfold Rfc5424.time at isTime
  unfold parseTimestamp ignoreNil
  split at isTime
  · next isNil =>
    cases isTime
    rw [if_pos (if_pos isNil), ← isReceived]
  · next notNil =>
    rw [if_neg notNil, if_neg (Option.some_ne_none _), if_neg (Nat.not_lt.mpr short), isTime]

private theorem noBlank_of_time {time : Moment} (isTime : sent.time received = some time) :
    32 ∉ sent.timestamp := by
  unfold Rfc5424.time at isTime
  split at isTime
  · next isNil =>
    rw [isNil]
    decide
  · exact no_blank_in_timestamp isTime

theorem opened_priority (sent : Rfc5424) (pooled : Message) (time : Moment) :
    (sent.opened pooled time).priority.toNat = sent.priority.val := by
  obtain ⟨_, areDigits, isNumber⟩ := priorityText_digits sent.priority
  show (wrapped (priorityText sent.priority) 0).toNat = _
  rw [toNat_wrapped areDigits, isNumber]
  omega

/-- A message whose timestamp is `-` or is accepted by the layout, in at most 32 bytes,
is read back field by field, whichever buffer receives it. -/
theorem rfc5424_round_trip (pooled : Message) (sent : Rfc5424)
    (stamped : sent.timestamp = [45] ∨ (parseTimestampLayout sent.timestamp).isSome = true)
    (short : sent.timestamp.length ≤ timestampLength)
    (fits : sent.datagram.length ≤ bufferSize) (received : Moment) (host : List UInt8) :
    ∃ parsed, parse (receive pooled sent.datagram received host) = .ok (true, parsed) ∧
      parsed.facility.toNat = sent.priority.val / 8 ∧
      parsed.severity.toNat = sent.priority.val % 8 ∧
      sent.time received = some parsed.time ∧
      parsed.hostname = sent.hostname.field ∧ parsed.app = sent.app.field ∧
      parsed.procid = sent.procid.field ∧ parsed.msgid = sent.msgid.field ∧
      parsed.msg = some sent.text := by
  have hasTime : ∃ time, sent.time received = some time := by
    unfold Rfc5424.time
    split
    · exact ⟨received, rfl⟩
    · next notNil => exact Option.isSome_iff_exists.mp (stamped.resolve_left notNil)
  obtain ⟨_, isTime⟩ := hasTime
  have isParsed := parse_rfc5424 pooled (noBlank_of_time isTime) fits received host
  rw [parseTimestamp_time isTime short rfl] at isParsed
  refine ⟨_, isParsed, ?_, ?_, isTime, rfl, rfl, rfl, rfl, rfl⟩
  · rw [← opened_priority sent pooled received]
    exact UInt8.toNat_div _ _
  · rw [← opened_priority sent pooled received]
    exact UInt8.toNat_mod _ _

def letter (byte : UInt8) (notBlank : byte ≠ 32) : Token :=
  { bytes := [byte]
    nonempty := List.cons_ne_nil _ _
    noBlank := fun blank => notBlank (List.mem_singleton.mp blank).symm }

def stampedMessage (timestamp : List UInt8) : Rfc5424 :=
  { priority := 34
    timestamp
    hostname := letter 104 (by decide)
    app := letter 45 (by decide)
    procid := letter 45 (by decide)
    msgid := letter 45 (by decide)
    text := [111, 107] }

/-- `2024-01-01T00:00:00.123456+00:00`. -/
def stampOfMicroseconds : List UInt8 :=
  [50, 48, 50, 52, 45, 48, 49, 45, 48, 49, 84, 48, 48, 58, 48, 48, 58, 48, 48, 46,
    49, 50, 51, 52, 53, 54, 43, 48, 48, 58, 48, 48]

/-- `2024-01-01T00:00:00.1234567+00:00`. -/
def stampOfDigits : List UInt8 :=
  [50, 48, 50, 52, 45, 48, 49, 45, 48, 49, 84, 48, 48, 58, 48, 48, 58, 48, 48, 46,
    49, 50, 51, 52, 53, 54, 55, 43, 48, 48, 58, 48, 48]

theorem rfc5424_of_microseconds :
    ∃ parsed, parse (receive (filledMessage 0) (stampedMessage stampOfMicroseconds).datagram
        ⟨0, 0⟩ []) = .ok (true, parsed) ∧
      parsed.facility.toNat = 4 ∧ parsed.severity.toNat = 2 ∧
      parseTimestampLayout stampOfMicroseconds = some parsed.time ∧
      parsed.hostname = some [104] ∧ parsed.app = none ∧ parsed.msg = some [111, 107] := by
  obtain ⟨parsed, accepted, isFacility, isSeverity, isTime, isHostname, isApp, _, _, isMsg⟩ :=
    rfc5424_round_trip (filledMessage 0) (stampedMessage stampOfMicroseconds)
      (Or.inr (by decide +kernel)) (by decide) (by decide) ⟨0, 0⟩ []
  exact ⟨parsed, accepted, isFacility, isSeverity, isTime, isHostname, isApp, isMsg⟩

/-- With seven digits of a second the layout accepts the timestamp and the parser
refuses the message. -/
theorem long_timestamp_refused :
    (parseTimestampLayout stampOfDigits).isSome = true ∧
    stampOfDigits.length = 33 ∧
    (stampedMessage stampOfDigits).datagram.length ≤ bufferSize ∧
    ∃ parsed, parse (receive (filledMessage 0) (stampedMessage stampOfDigits).datagram
        ⟨0, 0⟩ []) = .ok (false, parsed) := by
  refine ⟨by decide +kernel, by decide, by decide, ?_⟩
  rw [parse_rfc5424 (filledMessage 0) (by decide) (by decide)]
  exact ⟨_, rfl⟩

end Tinkerbell.Smee.Syslog
