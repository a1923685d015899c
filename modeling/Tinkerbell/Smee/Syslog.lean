import Tinkerbell.Smee.SyslogTime

/-!
Owns: the syslog message and its parser, with every index and slice of the source
checked: a bound that is violated is a panic.

Only `parsePriority` reads the receive buffer; every other step reads the fields
the steps before it left. What follows `parsePriority` never panics
(`parseAfterPriority_ok`), whatever those fields hold. `parsePriority` looks at
four bytes of the buffer whatever the size of the datagram.
-/

namespace Tinkerbell.Smee.Syslog

open ByteText (isDigit)
open Smee.SyslogTime

def bufferSize : Nat := 32768

/-- The fields the parser writes; `none` is a nil slice. -/
structure Parsed where
  time : Moment
  priority : UInt8
  (hostname app procid msgid msg : Option (List UInt8))

structure Message where
  buf : List UInt8
  size : Nat
  host : List UInt8
  parsed : Parsed
  length_buf : buf.length = bufferSize
  size_le : size ≤ bufferSize

inductive Panic where
  | index (position length : Nat)
  | slice (low high : Nat)

def at? (bytes : List UInt8) (position : Nat) : Except Panic UInt8 :=
  match bytes[position]? with
  | some byte => .ok byte
  | none => .error (.index position bytes.length)

/-- `bytes[low:high]`. Go also allows `high` up to the capacity; the parser never
asks for it. -/
def slice (bytes : List UInt8) (low high : Nat) : Except Panic (List UInt8) :=
  if low ≤ high ∧ high ≤ bytes.length then .ok ((bytes.take high).drop low)
  else .error (.slice low high)

def sliceFrom (bytes : List UInt8) (low : Nat) : Except Panic (List UInt8) :=
  slice bytes low bytes.length

def trimStart (bytes start : List UInt8) : List UInt8 :=
  if start <+: bytes then bytes.drop start.length else bytes

def splitN : Nat → List UInt8 → List (List UInt8)
  | 0, _ => []
  | 1, bytes => [bytes]
  | count + 1, bytes =>
    match bytes.findIdx? (· == 32) with
    | none => [bytes]
    | some position => bytes.take position :: splitN count (bytes.drop (position + 1))

def ignoreNil (bytes : List UInt8) : Option (List UInt8) :=
  if bytes = [45] then none else some bytes

def bytesOf (slice : Option (List UInt8)) : List UInt8 :=
  slice.getD []

/-- The loop over the window: the position of the `>` and the number before it, which
wraps around as a byte. -/
def scanPriority : List UInt8 → Nat → UInt8 → Option (Nat × UInt8)
  | [], _, _ => none
  | byte :: rest, position, pri =>
    if byte = 62 then some (position, pri)
    else if byte < 48 || 57 < byte then none
    else scanPriority rest (position + 1) (pri * 10 + byte - 48)

def parsePriority (message : Message) : Except Panic (Bool × Parsed) :=
  if message.size < 3 then .ok (false, message.parsed)
  else do
    let first ← at? message.buf 0
    if first ≠ 60 then .ok (false, message.parsed)
    else do
      let window ← slice message.buf 1 5
      match scanPriority window 0 0 with
      | none => .ok (false, message.parsed)
      | some (position, pri) => do
          let msg ← slice message.buf (1 + position + 1) message.size
          .ok (true, { message.parsed with priority := pri, msg := some msg })

/-- Two bytes that are looked at one after the other, and cut off if they are as expected. -/
def cutPair (first second : Nat × UInt8) (parsed : Parsed) : Except Panic (Bool × Parsed) :=
  let msg := bytesOf parsed.msg
  if msg.length < 2 then .ok (false, parsed)
  else do
    let byte ← at? msg first.1
    if byte ≠ first.2 then .ok (false, parsed)
    else do
      let byte ← at? msg second.1
      if byte ≠ second.2 then .ok (false, parsed)
      else do
        let rest ← sliceFrom msg 2
        .ok (true, { parsed with msg := some rest })

def parseVersion : Parsed → Except Panic (Bool × Parsed) := cutPair (1, 32) (0, 49)

def parseTimestamp (parsed : Parsed) (bytes : List UInt8) : Bool × Parsed :=
  if ignoreNil bytes = none then (true, parsed)
  else if timestampLength < bytes.length then (false, parsed)
  else
    match parseTimestampLayout bytes with
    | none => (false, parsed)
    | some time => (true, { parsed with time })

def parseHeader (parsed : Parsed) : Bool × Parsed :=
  match splitN 6 (bytesOf parsed.msg) with
  | [timestamp, hostname, app, procid, msgid, msg] =>
    match parseTimestamp parsed timestamp with
    | (false, parsed) => (false, parsed)
    | (true, parsed) =>
      (true,
        { parsed with
          hostname := ignoreNil hostname
          app := ignoreNil app
          procid := ignoreNil procid
          msgid := ignoreNil msgid
          msg := some msg })
  | _ => (false, parsed)

def parseStructuredData : Parsed → Except Panic (Bool × Parsed) := cutPair (0, 45) (1, 32)

def parseLegacyTime (parsed : Parsed) : Except Panic Parsed :=
  let msg := bytesOf parsed.msg
  if msg.length ≤ stampLength then .ok parsed
  else do
    let separator ← at? msg stampLength
    if separator ≠ 32 then .ok parsed
    else do
      let stamp ← slice msg 0 stampLength
      match parseStamp stamp with
      | none => .ok parsed
      | some time => do
          let corrected :=
            if time.isZero then parsed.time else correctLegacyTime parsed.time time
          let rest ← sliceFrom msg (stampLength + 1)
          .ok { parsed with time := corrected, msg := some rest }

def isTagByte (byte : UInt8) : Bool :=
  (48 ≤ byte && byte ≤ 57) || (97 ≤ byte && byte ≤ 122) || (65 ≤ byte && byte ≤ 90) ||
    byte == 45 || byte == 95 || byte == 47 || byte == 46

def parsePid (bytes : List UInt8) : Except Panic (Option (List UInt8) × List UInt8) := do
  let inner ← sliceFrom bytes 1
  match inner.findIdx? (· == 93) with
  | none => .ok (none, bytes)
  | some position => do
      let procid ← slice bytes 1 (1 + position)
      let rest ← sliceFrom bytes (1 + position + 1)
      .ok (some procid, rest)

def parseLegacyTag (parsed : Parsed) : Except Panic Parsed :=
  let bytes := bytesOf parsed.msg
  match bytes.findIdx? (fun byte => !isTagByte byte) with
  | none => .ok { parsed with app := none, procid := none }
  | some position => do
      let byte ← at? bytes position
      let app ← slice bytes 0 position
      let rest ← sliceFrom bytes position
      if byte = 91 then do
        let (procid, rest) ← parsePid rest
        .ok
          { parsed with
            app := some app
            procid
            msg := some (trimStart rest [58, 32]) }
      else
        .ok { parsed with app := some app, msg := some (trimStart rest [58, 32]) }

def severityStart (severity : UInt8) : List UInt8 :=
  let name : List UInt8 :=
    match severity.toNat with
    | 0 => [69, 77, 69, 82, 71]
    | 1 => [65, 76, 69, 82, 84]
    | 2 => [67, 82, 73, 84]
    | 3 => [69, 82, 82]
    | 4 => [87, 65, 82, 78, 73, 78, 71]
    | 5 => [78, 79, 84, 73, 67, 69]
    | 6 => [73, 78, 70, 79]
    | _ => [68, 69, 66, 85, 71]
  name ++ [58, 32]

def Parsed.severity (parsed : Parsed) : UInt8 :=
  parsed.priority % 8

def Parsed.trim (parsed : Parsed) (start : List UInt8) : Parsed :=
  { parsed with msg := parsed.msg.map fun msg => trimStart msg start }

def trimSeverityPrefix (parsed : Parsed) : Parsed :=
  parsed.trim (severityStart parsed.severity)

def trimTimePrefix (parsed : Parsed) : Parsed :=
  parsed.trim parsed.time.formatBlank

def trimCarriageReturns (parsed : Parsed) : Except Panic Parsed :=
  let msg := bytesOf parsed.msg
  if msg.length = 0 then .ok parsed
  else do
    let first ← at? msg 0
    if first ≠ 13 then .ok parsed
    else do
      let rest ← sliceFrom msg 1
      .ok { parsed with msg := some rest }

def parseLegacyHeader (parsed : Parsed) : Except Panic (Bool × Parsed) := do
  let parsed ← parseLegacyTime parsed
  let parsed ← parseLegacyTag { parsed with hostname := none }
  let parsed ← trimCarriageReturns (trimTimePrefix (trimSeverityPrefix parsed))
  .ok (true, parsed)

def parseAfterPriority (parsed : Parsed) : Except Panic (Bool × Parsed) := do
  let (isVersioned, parsed) ← parseVersion parsed
  if !isVersioned then parseLegacyHeader parsed
  else
    match parseHeader parsed with
    | (false, parsed) => .ok (false, parsed)
    | (true, parsed) => parseStructuredData parsed

def parse (message : Message) : Except Panic (Bool × Parsed) := do
  let (hasPriority, parsed) ← parsePriority message
  if !hasPriority then .ok (false, parsed)
  else parseAfterPriority parsed

def cleared (time : Moment) : Parsed :=
  { time
    priority := 0
    hostname := none
    app := none
    procid := none
    msgid := none
    msg := none }

def reset (message : Message) : Message :=
  { message with parsed := cleared message.parsed.time }

def Succeeds {α : Type} (outcome : Except Panic α) : Prop :=
  ∃ result, outcome = .ok result

variable {α : Type} {bytes : List UInt8} {position low : Nat}

theorem succeeds_ok (result : α) : Succeeds (Except.ok result) :=
  ⟨result, rfl⟩

theorem succeeds_bind {β : Type} {outcome : Except Panic α} {next : α → Except Panic β}
    (succeeds : Succeeds outcome) (thenSucceeds : ∀ result, Succeeds (next result)) :
    Succeeds (outcome >>= next) := by
  obtain ⟨result, isResult⟩ := succeeds
  rw [isResult]
  exact thenSucceeds result

theorem at?_ok (inside : position < bytes.length) : Succeeds (at? bytes position) := by
  unfold at?
  rw [List.getElem?_eq_getElem inside]
  exact succeeds_ok _

variable {high : Nat} {byte : UInt8} {front datagram : List UInt8}

theorem slice_eq (ordered : low ≤ high) (inside : high ≤ bytes.length) :
    slice bytes low high = .ok ((bytes.take high).drop low) := by
  unfold slice
  rw [if_pos ⟨ordered, inside⟩]

theorem slice_ok (ordered : low ≤ high) (inside : high ≤ bytes.length) :
    Succeeds (slice bytes low high) :=
  ⟨_, slice_eq ordered inside⟩

theorem sliceFrom_eq (inside : low ≤ bytes.length) :
    sliceFrom bytes low = .ok (bytes.drop low) := by
  unfold sliceFrom
  rw [slice_eq inside (Nat.le_refl _), List.take_length]

theorem sliceFrom_ok (inside : low ≤ bytes.length) : Succeeds (sliceFrom bytes low) :=
  ⟨_, sliceFrom_eq inside⟩

theorem lt_of_findIdx? {found : UInt8 → Bool} (isPosition : bytes.findIdx? found = some position) :
    position < bytes.length := by
  obtain ⟨inside, _⟩ := List.findIdx?_eq_some_iff_getElem.mp isPosition
  exact inside

variable (parsed : Parsed)

theorem cutPair_ok {first second : Nat × UInt8} (inside : first.1 < 2 ∧ second.1 < 2) :
    Succeeds (cutPair first second parsed) := by
  unfold cutPair
  dsimp only
  split
  · exact succeeds_ok _
  · apply succeeds_bind (at?_ok (by omega))
    intro byte
    split
    · exact succeeds_ok _
    · apply succeeds_bind (at?_ok (by omega))
      intro byte
      split
      · exact succeeds_ok _
      · exact succeeds_bind (sliceFrom_ok (by omega)) fun _ => succeeds_ok _

private theorem parseVersion_ok : Succeeds (parseVersion parsed) := cutPair_ok parsed (by decide)

private theorem parseStructuredData_ok : Succeeds (parseStructuredData parsed) :=
  cutPair_ok parsed (by decide)

private theorem parseLegacyTime_ok : Succeeds (parseLegacyTime parsed) := by
  unfold parseLegacyTime
  dsimp only
  split
  · exact succeeds_ok _
  · next _ =>
    apply succeeds_bind (at?_ok (by omega))
    intro separator
    split
    · exact succeeds_ok _
    · apply succeeds_bind (slice_ok (by omega) (by omega))
      intro stamp
      split
      · exact succeeds_ok _
      · exact succeeds_bind (sliceFrom_ok (by omega)) fun _ => succeeds_ok _

private theorem parsePid_ok (nonempty : 1 ≤ bytes.length) : Succeeds (parsePid bytes) := by
  unfold parsePid
  rw [sliceFrom_eq nonempty]
  show Succeeds (match (bytes.drop 1).findIdx? (· == 93) with
    | none => _
    | some position => _)
  split
  · exact succeeds_ok _
  · next _ isPosition =>
    have inside := lt_of_findIdx? isPosition
    rw [List.length_drop] at inside
    apply succeeds_bind (slice_ok (by omega) (by omega))
    intro procid
    exact succeeds_bind (sliceFrom_ok (by omega)) fun _ => succeeds_ok _

private theorem parseLegacyTag_ok : Succeeds (parseLegacyTag parsed) := by
  unfold parseLegacyTag
  dsimp only
  split
  · exact succeeds_ok _
  · next _ isPosition =>
    have inside := lt_of_findIdx? isPosition
    apply succeeds_bind (at?_ok inside)
    intro byte
    apply succeeds_bind (slice_ok (Nat.zero_le _) (by omega))
    intro app
    rw [sliceFrom_eq (by omega)]
    split
    · apply succeeds_bind (parsePid_ok _)
      · exact fun _ => succeeds_ok _
      · rw [List.length_drop]
        omega
    · exact succeeds_ok _

private theorem trimCarriageReturns_ok : Succeeds (trimCarriageReturns parsed) := by
  unfold trimCarriageReturns
  dsimp only
  split
  · exact succeeds_ok _
  · next _ =>
    apply succeeds_bind (at?_ok (by omega))
    intro first
    split
    · exact succeeds_ok _
    · exact succeeds_bind (sliceFrom_ok (by omega)) fun _ => succeeds_ok _

private theorem parseLegacyHeader_ok : Succeeds (parseLegacyHeader parsed) := by
  apply succeeds_bind (parseLegacyTime_ok parsed)
  intro timed
  apply succeeds_bind (parseLegacyTag_ok _)
  intro tagged
  exact succeeds_bind (trimCarriageReturns_ok _) fun _ => succeeds_ok _

theorem parseAfterPriority_ok : Succeeds (parseAfterPriority parsed) := by
  apply succeeds_bind (parseVersion_ok parsed)
  rintro ⟨isVersioned, parsed⟩
  dsimp only
  split
  · exact parseLegacyHeader_ok parsed
  · split
    · exact succeeds_ok _
    · exact parseStructuredData_ok _

/-- A `<` with two or three digits and nothing else: the priority is not closed
within the datagram, and the window reaches behind it. -/
def OpenPriority (datagram : List UInt8) : Prop :=
  3 ≤ datagram.length ∧ datagram.length < 5 ∧ datagram.head? = some 60 ∧
    ∀ byte ∈ datagram.tail, isDigit byte = true

instance (datagram : List UInt8) : Decidable (OpenPriority datagram) :=
  decidable_of_iff (3 ≤ datagram.length ∧ datagram.length < 5 ∧
    datagram.head? = some 60 ∧ datagram.tail.all isDigit = true)
    (by rw [List.all_eq_true]; rfl)

theorem isDigit_of_inRange (inRange : ¬(byte < 48 || 57 < byte) = true) : isDigit byte = true := by
  simp only [Bool.or_eq_true, decide_eq_true_eq, not_or, UInt8.not_lt] at inRange
  simp only [isDigit, Bool.and_eq_true, decide_eq_true_eq]
  exact inRange

theorem scanPriority_digit (digit : isDigit byte = true) (rest : List UInt8) (position : Nat)
    (pri : UInt8) :
    scanPriority (byte :: rest) position pri =
      scanPriority rest (position + 1) (pri * 10 + byte - 48) := by
  simp only [isDigit, Bool.and_eq_true, decide_eq_true_eq] at digit
  have inRange : ¬(byte < 48 || 57 < byte) = true := by
    simp only [Bool.or_eq_true, decide_eq_true_eq, not_or, UInt8.not_lt]
    exact digit
  have notClose : byte ≠ 62 := by
    rintro rfl
    exact absurd digit.2 (by decide)
  rw [scanPriority, if_neg notClose, if_neg inRange]

private theorem scanPriority_append_closed (back : List UInt8)
    (closes : ¬∀ byte ∈ front, isDigit byte = true) (position : Nat) (pri : UInt8) :
    scanPriority (front ++ back) position pri = scanPriority front position pri := by
  induction front generalizing position pri with
  | nil => exact absurd (List.forall_mem_nil _) closes
  | cons _ _ ih =>
    rw [List.cons_append, scanPriority, scanPriority]
    split
    · rfl
    · split
      · rfl
      · next inRange =>
        apply ih
        intro restDigits
        exact closes (List.forall_mem_cons.mpr ⟨isDigit_of_inRange inRange, restDigits⟩)

private theorem scanPriority_append_digits (back : List UInt8)
    (digits : ∀ byte ∈ front, isDigit byte = true) (position : Nat) (pri : UInt8) :
    ∃ value, scanPriority (front ++ back) position pri =
      scanPriority back (position + front.length) value := by
  induction front generalizing position pri with
  | nil => exact ⟨pri, rfl⟩
  | cons byte _ ih =>
    obtain ⟨firstDigit, restDigits⟩ := List.forall_mem_cons.mp digits
    obtain ⟨value, isValue⟩ :=
      ih restDigits (position + 1) (pri * 10 + byte - 48)
    refine ⟨value, ?_⟩
    rw [List.cons_append, scanPriority_digit firstDigit, isValue, List.length_cons,
      Nat.add_assoc, Nat.add_comm 1]

private theorem scanPriority_lt {start : Nat} {pri value : UInt8}
    (found : scanPriority bytes start pri = some (position, value)) :
    position < start + bytes.length := by
  induction bytes generalizing start pri with
  | nil => cases found
  | cons _ _ ih =>
    rw [scanPriority] at found
    rw [List.length_cons]
    split at found
    · cases found
      omega
    · split at found
      · cases found
      · have later := ih found
        omega

def priorityOf (datagram : List UInt8) (parsed : Parsed) : Bool × Parsed :=
  if datagram.length < 3 ∨ datagram.head? ≠ some 60 then (false, parsed)
  else
    match scanPriority (datagram.tail.take 4) 0 0 with
    | none => (false, parsed)
    | some (position, pri) =>
      (true, { parsed with priority := pri, msg := some (datagram.drop (position + 2)) })

section Priority

variable {message : Message} {first : UInt8} {rest leftover : List UInt8}
  (isBuf : message.buf = first :: rest ++ leftover)

include isBuf

theorem first_read : at? message.buf 0 = .ok first := by
  rw [isBuf]
  rfl

private theorem window_read :
    slice message.buf 1 5 = .ok (rest.take 4 ++ leftover.take (4 - rest.length)) := by
  have long := message.length_buf
  have isLong : bufferSize = 32768 := rfl
  rw [slice_eq (by omega) (by omega), isBuf, ← List.take_append]
  rfl

theorem parsePriority_opened (isOpening : first = 60) (long : 3 ≤ message.size) :
    parsePriority message =
      (match scanPriority (rest.take 4 ++ leftover.take (4 - rest.length)) 0 0 with
      | none => .ok (false, message.parsed)
      | some (position, pri) => do
          let msg ← slice message.buf (1 + position + 1) message.size
          .ok (true, { message.parsed with priority := pri, msg := some msg })) := by
  unfold parsePriority
  rw [if_neg (by omega), first_read isBuf, window_read isBuf, isOpening]
  rfl

theorem parsePriority_refused (notOpening : first ≠ 60) :
    parsePriority message = .ok (false, message.parsed) := by
  unfold parsePriority
  split
  · rfl
  · rw [first_read isBuf]
    exact if_pos notOpening

omit isBuf in
private theorem scan_window (closed : ¬OpenPriority (first :: rest)) (isOpening : first = 60)
    (long : 3 ≤ rest.length + 1) :
    scanPriority (rest.take 4 ++ leftover.take (4 - rest.length)) 0 0 =
      scanPriority (rest.take 4) 0 0 := by
  by_cases wide : 4 ≤ rest.length
  · rw [Nat.sub_eq_zero_of_le wide, List.take_zero, List.append_nil]
  · have whole : rest.take 4 = rest := List.take_of_length_le (by omega)
    rw [whole]
    apply scanPriority_append_closed
    intro digits
    apply closed
    refine ⟨long, ?_, ?_, digits⟩
    · rw [List.length_cons]
      omega
    · rw [isOpening]
      rfl

end Priority

theorem parsePriority_eq {message : Message} {leftover : List UInt8}
    (isBuf : message.buf = datagram ++ leftover) (isSize : message.size = datagram.length)
    (closed : ¬OpenPriority datagram) :
    parsePriority message = .ok (priorityOf datagram message.parsed) := by
  unfold priorityOf
  by_cases refused : datagram.length < 3 ∨ datagram.head? ≠ some 60
  · rw [if_pos refused]
    by_cases short : message.size < 3
    · exact if_pos short
    · cases datagram with
      | nil => exact absurd isSize (by rw [List.length_nil]; omega)
      | cons =>
        apply parsePriority_refused isBuf
        rintro rfl
        exact refused.elim (by omega) fun differs => differs rfl
  · rw [if_neg refused]
    obtain ⟨long, opens⟩ := not_or.mp refused
    cases datagram with
    | nil => exact absurd (Nat.zero_lt_succ 2) long
    | cons first rest =>
      have isOpening : first = 60 := Option.some.inj (Decidable.not_not.mp opens)
      rw [List.length_cons] at long isSize
      rw [parsePriority_opened isBuf isOpening (by omega),
        scan_window closed isOpening (by omega), List.tail_cons]
      cases found : scanPriority (rest.take 4) 0 0 with
      | none => rfl
      | some result =>
        obtain ⟨position, _⟩ := result
        have inside := scanPriority_lt found
        have fits := message.size_le
        have isLong := message.length_buf
        rw [List.length_take] at inside
        dsimp only
        rw [slice_eq (by omega) (by omega), isBuf, isSize, Nat.add_comm 1 position]
        rw [← List.length_cons (a := first), List.take_left]
        rfl

/-- With an open priority and a `>` behind the datagram, the slice that should hold
the rest of the datagram ends before it begins. -/
theorem parsePriority_panics {message : Message} {leftover : List UInt8}
    (isBuf : message.buf = datagram ++ 62 :: leftover) (isSize : message.size = datagram.length)
    (isOpen : OpenPriority datagram) :
    parsePriority message = .error (.slice (datagram.length + 1) datagram.length) := by
  obtain ⟨long, short, opens, digits⟩ := isOpen
  cases datagram with
  | nil => cases opens
  | cons _ rest =>
    rw [List.length_cons] at long short isSize
    rw [List.tail_cons] at digits
    have whole : rest.take 4 = rest := List.take_of_length_le (by omega)
    have closes : (62 :: leftover).take (4 - rest.length) =
        62 :: leftover.take (3 - rest.length) := by
      rw [show 4 - rest.length = 3 - rest.length + 1 by omega, List.take_succ_cons]
    obtain ⟨_, scanned⟩ :=
      scanPriority_append_digits (62 :: leftover.take (3 - rest.length)) digits 0 0
    rw [parsePriority_opened isBuf (Option.some.inj opens) (by omega), whole, closes,
      scanned, isSize, List.length_cons]
    show (slice message.buf (1 + (0 + rest.length) + 1) (rest.length + 1) >>= _) = _
    unfold slice
    rw [if_neg (by omega), Nat.zero_add, Nat.add_comm 1 rest.length]
    rfl

end Tinkerbell.Smee.Syslog
