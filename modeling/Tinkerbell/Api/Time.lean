import Mathlib.Data.Int.Notation

/-!
Owns: points in time and durations as the API objects carry them.

Times and durations are integers counting nanoseconds. `storedTime` is what a
later read of the object returns for a `metav1.Time`: the zero time is
marshalled as `null`, every other time with second precision. Durations are
64-bit in the source; products wrap and differences saturate.
-/

namespace Tinkerbell.Api

/-- Nanoseconds since the Unix epoch. -/
abbrev Time := Int

/-- Nanoseconds. -/
abbrev Duration := Int

def second : Duration := 1000000000

def zeroTime : Time := -62135596800 * second

def truncateSecond (time : Time) : Time := time / second * second

def storedTime (time : Time) : Option Time :=
  if time = zeroTime then none else some (truncateSecond time)

def minInt64 : Int := -9223372036854775808

def maxInt64 : Int := 9223372036854775807

def wrapInt64 (value : Int) : Int :=
  (value - minInt64) % 18446744073709551616 + minInt64

theorem wrapInt64_of_fits {value : Int} (low : minInt64 ≤ value)
    (high : value ≤ maxInt64) : wrapInt64 value = value := by
  unfold wrapInt64
  unfold minInt64 at *
  unfold maxInt64 at high
  omega

theorem wrapInt64_le (value : Int) : wrapInt64 value ≤ maxInt64 := by
  unfold wrapInt64 minInt64 maxInt64
  omega

def seconds (count : Int) : Duration := wrapInt64 (count * second)

/-- `later.Sub(earlier)`, which saturates at the ends of the 64-bit range. -/
def timeSub (later earlier : Time) : Duration :=
  if later - earlier < minInt64 then minInt64
  else if maxInt64 < later - earlier then maxInt64
  else later - earlier

end Tinkerbell.Api
