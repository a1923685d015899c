import Tinkerbell.Api.Time
import Tinkerbell.Library.ByteText

/-!
Owns: what the syslog parser uses of Go's `time` package: reading the two layouts
it knows, the date arithmetic of the legacy header, and the one layout it prints.

`parseStamp` and `parseTimestampLayout` follow `time.Parse` on their layouts: a
blank of the layout takes any run of blanks, a number that the layout does not
pad may have one or two digits, month names are compared without case, seconds
may carry a fraction, and the day must exist in the month.
-/

namespace Tinkerbell.Smee.SyslogTime

open Api
open ByteText (isDigit)

structure Moment where
  instant : Time
  offset : Int
deriving DecidableEq

def hour : Duration := 3600 * second

/-- Days from January 1 1970 to a date; a day beyond the end of its month counts on. -/
def daysFromCivil (year month day : Int) : Int :=
  let shifted := if month ≤ 2 then year - 1 else year
  let era := shifted / 400
  let yearOfEra := shifted - era * 400
  let dayOfYear := (153 * ((month + 9) % 12) + 2) / 5 + day - 1
  era * 146097 + yearOfEra * 365 + yearOfEra / 4 - yearOfEra / 100 + dayOfYear - 719468

structure Civil where
  (year month day : Int)

def civilFromDays (days : Int) : Civil :=
  let shifted := days + 719468
  let era := shifted / 146097
  let dayOfEra := shifted - era * 146097
  let yearOfEra := (dayOfEra - dayOfEra / 1460 + dayOfEra / 36524 - dayOfEra / 146096) / 365
  let dayOfYear := dayOfEra - (365 * yearOfEra + yearOfEra / 4 - yearOfEra / 100)
  let marchMonth := (5 * dayOfYear + 2) / 153
  let month := if marchMonth < 10 then marchMonth + 3 else marchMonth - 9
  { year := yearOfEra + era * 400 + (if month ≤ 2 then 1 else 0)
    month
    day := dayOfYear - (153 * marchMonth + 2) / 5 + 1 }

def isLeap (year : Int) : Bool :=
  year % 4 == 0 && (year % 100 != 0 || year % 400 == 0)

def daysIn (month year : Int) : Int :=
  if month = 2 then (if isLeap year then 29 else 28)
  else if month = 4 ∨ month = 6 ∨ month = 9 ∨ month = 11 then 30
  else 31

def Moment.wallSeconds (moment : Moment) : Int :=
  moment.instant / second + moment.offset

def Moment.date (moment : Moment) : Civil :=
  civilFromDays (moment.wallSeconds / 86400)

def Moment.clock (moment : Moment) : Int :=
  moment.wallSeconds % 86400

def timeDate (year month day clock nanosecond offset : Int) : Moment :=
  { instant := (daysFromCivil year month day * 86400 + clock - offset) * second + nanosecond
    offset }

def Moment.addYears (moment : Moment) (years : Int) : Moment :=
  timeDate (moment.date.year + years) moment.date.month moment.date.day moment.clock
    (moment.instant % second) moment.offset

def Moment.isZero (moment : Moment) : Bool :=
  moment.instant == zeroTime

def digit (byte : UInt8) : Int :=
  (byte.toNat : Int) - 48

def getnum (fixed : Bool) : List UInt8 → Option (Int × List UInt8)
  | [] => none
  | [ones] => if isDigit ones && !fixed then some (digit ones, []) else none
  | tens :: ones :: rest =>
    if !isDigit tens then none
    else if isDigit ones then some (digit tens * 10 + digit ones, rest)
    else if fixed then none
    else some (digit tens, ones :: rest)

def number (digits : List UInt8) : Int :=
  digits.foldl (fun value next => value * 10 + digit next) 0

def getnumIn (fixed : Bool) (low high : Int) (value : List UInt8) :
    Option (Int × List UInt8) := do
  let (read, rest) ← getnum fixed value
  if low ≤ read ∧ read ≤ high then some (read, rest) else none

def skipByte (expected : UInt8) : List UInt8 → Option (List UInt8)
  | [] => none
  | head :: rest => if head = expected then some rest else none

def skipBlank : List UInt8 → Option (List UInt8)
  | [] => some []
  | head :: rest => if head = 32 then some (rest.dropWhile (· == 32)) else none

def commaOrPeriod (byte : UInt8) : Bool :=
  byte == 46 || byte == 44

/-- Nanoseconds of a fraction: its digits filled up to nine with zeros; further
digits are read and ignored. -/
def parseNanoseconds (digits : List UInt8) : Int :=
  number (digits.take 9 ++ List.replicate (9 - digits.length) 48)

def parseFraction : List UInt8 → Int × List UInt8
  | separator :: first :: rest =>
    if commaOrPeriod separator && isDigit first then
      let digits := first :: rest.takeWhile isDigit
      (parseNanoseconds digits, rest.dropWhile isDigit)
    else (0, separator :: first :: rest)
  | value => (0, value)

def parseClock (value : List UInt8) : Option (Int × Int × List UInt8) := do
  let (hours, value) ← getnumIn false 0 23 value
  let value ← skipByte 58 value
  let (minutes, value) ← getnumIn true 0 59 value
  let value ← skipByte 58 value
  let (seconds, value) ← getnumIn true 0 59 value
  let (nanoseconds, value) := parseFraction value
  some (hours * 3600 + minutes * 60 + seconds, nanoseconds, value)

def validDate (year month day clock nanosecond offset : Int) : Option Moment :=
  if 1 ≤ day ∧ day ≤ daysIn month year then
    some (timeDate year month day clock nanosecond offset)
  else none

def shortMonthNames : List (List UInt8) :=
  [[74, 97, 110], [70, 101, 98], [77, 97, 114], [65, 112, 114], [77, 97, 121],
    [74, 117, 110], [74, 117, 108], [65, 117, 103], [83, 101, 112], [79, 99, 116],
    [78, 111, 118], [68, 101, 99]]

def matchByte (left right : UInt8) : Bool :=
  left == right ||
    ((left ||| 32) == (right ||| 32) && 97 ≤ (left ||| 32) && (left ||| 32) ≤ 122)

def lookupMonth (value : List UInt8) : Option (Int × List UInt8) :=
  let found := shortMonthNames.findIdx? fun name =>
    3 ≤ value.length && (name.zip value).all fun (letter, byte) => matchByte byte letter
  found.map fun position => ((position : Int) + 1, value.drop 3)

def stampLength : Nat := 15

def parseStamp (value : List UInt8) : Option Moment := do
  let (month, value) ← lookupMonth value
  let value ← skipBlank value
  let (day, value) ← getnum false value
  let value ← skipBlank value
  let (clock, nanosecond, value) ← parseClock value
  if value = [] then validDate 0 month day clock nanosecond 0 else none

def timestampLength : Nat := 32

def parseYear : List UInt8 → Option (Int × List UInt8)
  | first :: second :: third :: fourth :: rest =>
    if [first, second, third, fourth].all isDigit then
      some (number [first, second, third, fourth], rest)
    else none
  | _ => none

/-- `Z`, or a sign with hours and minutes; offsets of 24 hours and of 60 minutes pass. -/
def parseZone : List UInt8 → Option (Int × List UInt8)
  | [] => none
  | sign :: rest =>
    if sign = 90 then some (0, rest)
    else do
      let (hours, value) ← getnumIn true 0 24 rest
      let value ← skipByte 58 value
      let (minutes, value) ← getnumIn true 0 60 value
      if sign = 43 then some ((hours * 60 + minutes) * 60, value)
      else if sign = 45 then some (-((hours * 60 + minutes) * 60), value)
      else none

def parseTimestampLayout (value : List UInt8) : Option Moment := do
  let (year, value) ← parseYear value
  let value ← skipByte 45 value
  let (month, value) ← getnumIn true 1 12 value
  let value ← skipByte 45 value
  let (day, value) ← getnum true value
  let value ← skipByte 84 value
  let (clock, nanosecond, value) ← parseClock value
  let (offset, value) ← parseZone value
  if value = [] then validDate year month day clock nanosecond offset else none

def appendInt (value : Int) (width : Nat) : List UInt8 :=
  let digits := (Nat.toDigits 10 value.natAbs).map fun character => character.toNat.toUInt8
  (if value < 0 then [45] else []) ++ List.replicate (width - digits.length) 48 ++ digits

def Moment.formatBlank (moment : Moment) : List UInt8 :=
  appendInt moment.date.year 4 ++ [45] ++ appendInt moment.date.month 2 ++ [45] ++
    appendInt moment.date.day 2 ++ [32] ++ appendInt (moment.clock / 3600) 2 ++ [58] ++
    appendInt (moment.clock / 60 % 60) 2 ++ [58] ++ appendInt (moment.clock % 60) 2 ++ [32]

/-- `correctLegacyTime`: the stamp in the year it was received. The hours by which it
is off are added as a count of nanoseconds. -/
def correctLegacyTime (received stamp : Moment) : Moment :=
  let stamp := stamp.addYears received.date.year
  let offset := timeSub received.instant stamp.instant
  let offset := if offset < 0 then wrapInt64 (-offset) else offset
  let hoursOff := (offset - offset.tmod hour).tdiv hour
  if 1 < hoursOff then { stamp with instant := stamp.instant + hoursOff } else stamp

def placed (received stamp : Moment) : Moment :=
  stamp.addYears received.date.year

/-- Less than two hours apart. -/
def Near (received time : Time) : Prop :=
  received - time < 2 * hour ∧ time - received < 2 * hour

def hoursOff (difference : Int) : Int :=
  let offset := timeSub difference 0
  let offset := if offset < 0 then wrapInt64 (-offset) else offset
  (offset - offset.tmod hour).tdiv hour

def leftOver (difference : Int) : Int :=
  if 1 < hoursOff difference then difference - hoursOff difference else difference

private theorem sub_correctLegacyTime (received stamp : Moment) :
    received.instant - (correctLegacyTime received stamp).instant =
      leftOver (received.instant - (placed received stamp).instant) := by
  have sameOffset : timeSub received.instant (placed received stamp).instant =
      timeSub (received.instant - (placed received stamp).instant) 0 := by
    unfold timeSub
    rw [Int.sub_zero]
  have isCorrected : correctLegacyTime received stamp =
      if 1 < hoursOff (received.instant - (placed received stamp).instant) then
        { placed received stamp with
          instant := (placed received stamp).instant +
            hoursOff (received.instant - (placed received stamp).instant) }
      else placed received stamp := by
    unfold correctLegacyTime hoursOff
    rw [← sameOffset]
    rfl
  rw [isCorrected]
  unfold leftOver
  split
  · exact (Int.sub_sub _ _ _).symm
  · rfl

variable {difference : Int}

theorem timeSub_of_fits (low : minInt64 ≤ difference) (high : difference ≤ maxInt64) :
    timeSub difference 0 = difference := by
  unfold timeSub
  rw [Int.sub_zero, if_neg (Int.not_lt.mpr low), if_neg (Int.not_lt.mpr high)]

theorem wholeHours_eq {offset : Int} (notNegative : 0 ≤ offset) :
    (offset - offset.tmod hour).tdiv hour = offset / 3600000000000 := by
  have isHour : (hour : Int) = 3600000000000 := rfl
  rw [isHour, Int.tmod_eq_emod_of_nonneg notNegative, Int.tdiv_eq_ediv_of_nonneg]
  · omega
  · omega

private theorem hoursOff_of_nonneg (notNegative : 0 ≤ difference) (fits : difference ≤ maxInt64) :
    hoursOff difference = difference / 3600000000000 := by
  have low : minInt64 ≤ difference := Int.le_trans (by decide) notNegative
  unfold hoursOff
  rw [timeSub_of_fits low fits]
  dsimp only
  rw [if_neg (Int.not_lt.mpr notNegative), wholeHours_eq notNegative]

private theorem hoursOff_of_neg (negative : difference < 0) (fits : minInt64 < difference) :
    hoursOff difference = -difference / 3600000000000 := by
  have isMin : minInt64 = -9223372036854775808 := rfl
  have isMax : maxInt64 = 9223372036854775807 := rfl
  unfold hoursOff
  rw [timeSub_of_fits (by omega) (by omega)]
  dsimp only
  rw [if_pos negative, wrapInt64_of_fits (by omega) (by omega), wholeHours_eq (by omega)]

private theorem hoursOff_of_far (far : difference ≤ minInt64) : hoursOff difference < 0 := by
  have isOffset : timeSub difference 0 = minInt64 := by
    unfold timeSub
    rw [Int.sub_zero]
    split
    · rfl
    · next notBelow =>
      have same : difference = minInt64 := Int.le_antisymm far (Int.not_lt.mp notBelow)
      rw [same]
      decide
  unfold hoursOff
  rw [isOffset]
  decide

theorem hoursOff_of_farAhead (far : maxInt64 < difference) : hoursOff difference = 2562047 := by
  have isOffset : timeSub difference 0 = maxInt64 := by
    unfold timeSub
    rw [Int.sub_zero, if_neg (Int.not_lt.mpr (Int.le_of_lt (Int.lt_trans (by decide) far))),
      if_pos far]
  unfold hoursOff
  rw [isOffset]
  decide

private theorem leftOver_near_iff (difference : Int) :
    (leftOver difference < 7200000000000 ∧ -leftOver difference < 7200000000000) ↔
      -difference < 7200000000000 ∧ difference < 7200000000002 := by
  have isMin : minInt64 = -9223372036854775808 := rfl
  have isMax : maxInt64 = 9223372036854775807 := rfl
  unfold leftOver
  by_cases farBehind : difference ≤ minInt64
  · have none := hoursOff_of_far farBehind
    omega
  by_cases farAhead : maxInt64 < difference
  · rw [hoursOff_of_farAhead farAhead, if_pos (by decide)]
    omega
  by_cases negative : difference < 0
  · rw [hoursOff_of_neg negative (by omega)]
    split <;> omega
  · rw [hoursOff_of_nonneg (by omega) (by omega)]
    split <;> omega

/-- The corrected time is near the receive time exactly when the stamp was so already,
two nanoseconds apart: of the hours by which it is off, the time gets as many
nanoseconds, and always forward. -/
theorem corrected_time_near_iff (received stamp : Moment) :
    Near received.instant (correctLegacyTime received stamp).instant ↔
      (placed received stamp).instant - received.instant < 2 * hour ∧
        received.instant - (placed received stamp).instant < 2 * hour + 2 := by
  have left := sub_correctLegacyTime received stamp
  have near := leftOver_near_iff (received.instant - (placed received stamp).instant)
  rw [← left, Int.neg_sub, Int.neg_sub] at near
  exact near

/-- Received at noon on June 1 2024 with the stamp `Jun  1 09:00:00`. -/
theorem three_hours_stay_off :
    parseStamp [74, 117, 110, 32, 32, 49, 32, 48, 57, 58, 48, 48, 58, 48, 48] =
        some (timeDate 0 6 1 32400 0 0) ∧
      ¬Near (timeDate 2024 6 1 43200 0 0).instant
        (correctLegacyTime (timeDate 2024 6 1 43200 0 0)
          (timeDate 0 6 1 32400 0 0)).instant := by
  unfold Near
  decide

end Tinkerbell.Smee.SyslogTime
