/-
  Python/DateTime.lean --- `datetime.datetime` values.

  A civil date-time of the proleptic Gregorian calendar is represented by its
  position on the civil clock, in microseconds from 1970-01-01T00:00:00; the two
  bounds are `datetime.min` and `datetime.max`.
-/
import ResponseEngine.Foundation.Double

set_option autoImplicit false

namespace ResponseEngine.Python

open ResponseEngine.Foundation

/-- The result of `utcoffset()`: strictly between minus and plus 24 hours, in
microseconds. -/
structure UtcOffset where
  micros : Int
  lower : -86400000000 < micros
  upper : micros < 86400000000
  deriving DecidableEq

/-- A time zone attached to a date-time. -/
structure TzInfo where
  utcoffset : Option UtcOffset
  deriving DecidableEq

/-- A `datetime.datetime`. -/
structure DateTime where
  /-- the civil clock, in microseconds since 1970-01-01T00:00:00 -/
  wall : Int
  tzinfo : Option TzInfo
  lower : -62135596800000000 ≤ wall
  upper : wall ≤ 253402300799999999
  deriving DecidableEq

namespace DateTime

/-- `self.utcoffset()`. -/
def utcoffset (self : DateTime) : Option UtcOffset := self.tzinfo.bind TzInfo.utcoffset

/-- `self.replace(microsecond=0)`. -/
def replaceMicrosecondZero (self : DateTime) : DateTime where
  wall := self.wall - self.wall % 1000000
  tzinfo := self.tzinfo
  lower := by have := self.lower; omega
  upper := by have := self.upper; omega

/-- The instant in microseconds since the epoch of a date-time at a known offset. -/
def instant (self : DateTime) (offset : UtcOffset) : Int := self.wall - offset.micros

/-- `self.timestamp()` of an aware date-time: the seconds since the epoch, as the
double that the true division by a million gives. -/
def timestamp (self : DateTime) (offset : UtcOffset) : ℚ :=
  Double.nearest ((self.instant offset : ℚ) / 1000000)

/-- `self == other`: aware values by instant, naive ones by the civil clock, and
one of each never. -/
def pyEq (self other : DateTime) : Bool :=
  match self.utcoffset, other.utcoffset with
  | some a, some b => self.instant a == other.instant b
  | none, none => self.wall == other.wall
  | _, _ => false

/-- `datetime.fromtimestamp(seconds, timezone.utc)`. -/
def ofTimestampUtc (seconds : Int) (lower : -62135596800 ≤ seconds)
    (upper : seconds ≤ 253402300799) : DateTime where
  wall := seconds * 1000000
  tzinfo := some { utcoffset := some ⟨0, by decide, by decide⟩ }
  lower := by omega
  upper := by omega

end DateTime

end ResponseEngine.Python
