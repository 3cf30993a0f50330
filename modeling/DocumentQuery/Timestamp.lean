import DocumentQuery.Integer

/-!
# Timestamps

A point in time with nanosecond precision, as whole seconds since the start of 1970 and the nanoseconds into
that second. A timestamp is `Valid` when it lies in the years 1 to 9999; every constructor here answers only
with valid ones (`valid_of_ofParts?`, `valid_of_ofEpochNanos?`). The conversions to coarser units round down,
also before 1970.
-/

namespace DocumentQuery

/-- Whole seconds since 1970 and the nanoseconds into that second. -/
structure Timestamp where
  seconds : Int
  nanos : Int
deriving DecidableEq, Repr

namespace Timestamp

/-- The first second of year 1. -/
def minSeconds : Int := -62135596800

/-- The last second of year 9999. -/
def maxSeconds : Int := 253402300799

def nanosPerSecond : Int := 1000000000

/-- In the years 1 to 9999, with less than a second of nanoseconds. -/
def Valid (t : Timestamp) : Prop :=
  minSeconds ≤ t.seconds ∧ t.seconds ≤ maxSeconds ∧ 0 ≤ t.nanos ∧ t.nanos < nanosPerSecond

instance (t : Timestamp) : Decidable t.Valid := inferInstanceAs (Decidable (_ ∧ _))

/-- The timestamp of seconds and nanoseconds, if it is valid. -/
def ofParts? (seconds nanos : Int) : Option Timestamp :=
  if Valid ⟨seconds, nanos⟩ then some ⟨seconds, nanos⟩ else none

/-- Nanoseconds since 1970. -/
def epochNanos (t : Timestamp) : Int := t.seconds * nanosPerSecond + t.nanos

/-- The timestamp at a number of nanoseconds since 1970, if it is valid. -/
def ofEpochNanos? (n : Int) : Option Timestamp :=
  ofParts? (n / nanosPerSecond) (n % nanosPerSecond)

def ofUnixMicros? (micros : Int64) : Option Timestamp := ofEpochNanos? (micros.toInt * 1000)

def ofUnixMillis? (millis : Int64) : Option Timestamp := ofEpochNanos? (millis.toInt * 1000000)

def ofUnixSeconds? (seconds : Int64) : Option Timestamp := ofParts? seconds.toInt 0

/-- Microseconds since 1970, rounded down. -/
def toUnixMicros (t : Timestamp) : Int64 := Int64.ofInt (t.epochNanos / 1000)

/-- Milliseconds since 1970, rounded down. -/
def toUnixMillis (t : Timestamp) : Int64 := Int64.ofInt (t.epochNanos / 1000000)

/-- Seconds since 1970, rounded down. -/
def toUnixSeconds (t : Timestamp) : Int64 := Int64.ofInt t.seconds

/-- Earlier first. -/
instance : Ord Timestamp where
  compare a b := (compare a.seconds b.seconds).then (compare a.nanos b.nanos)

theorem ofParts?_eq_some_iff {seconds nanos : Int} {t : Timestamp} :
    ofParts? seconds nanos = some t ↔ t = ⟨seconds, nanos⟩ ∧ t.Valid := by
  unfold ofParts?
  split <;> simp_all [eq_comm]

theorem valid_of_ofParts? {seconds nanos : Int} {t : Timestamp} (h : ofParts? seconds nanos = some t) :
    t.Valid :=
  (ofParts?_eq_some_iff.1 h).2

theorem valid_of_ofEpochNanos? {n : Int} {t : Timestamp} (h : ofEpochNanos? n = some t) : t.Valid :=
  valid_of_ofParts? h

/-- A day of the calendar. -/
structure Date where
  year : Int
  month : Int
  day : Int
deriving DecidableEq, Repr

/-- The date that lies a number of days after the start of 1970. Years are counted from March, so that a leap
day ends its year and months of the shifted year start on day `(153 * m + 2) / 5`. -/
def Date.ofDays (days : Int) : Date :=
  let shifted := days + 719468
  let era := shifted / 146097
  let dayOfEra := shifted % 146097
  let yearOfEra := (dayOfEra - dayOfEra / 1460 + dayOfEra / 36524 - dayOfEra / 146096) / 365
  let dayOfYear := dayOfEra - (365 * yearOfEra + yearOfEra / 4 - yearOfEra / 100)
  let marchMonth := (5 * dayOfYear + 2) / 153
  let month := if marchMonth < 10 then marchMonth + 3 else marchMonth - 9
  { year := yearOfEra + era * 400 + if month ≤ 2 then 1 else 0
    month
    day := dayOfYear - (153 * marchMonth + 2) / 5 + 1 }

/-- Decimal text of a natural number, with zeros in front up to a width. -/
def padded (width : Nat) (n : Int) : String :=
  let digits := Nat.toDigits 10 n.toNat
  String.ofList (List.replicate (width - digits.length) '0' ++ digits)

/-- The fraction of a second: none, or as many groups of three digits as it needs. -/
def fractionText (nanos : Int) : String :=
  if nanos = 0 then ""
  else if nanos % 1000000 = 0 then "." ++ padded 3 (nanos / 1000000)
  else if nanos % 1000 = 0 then "." ++ padded 6 (nanos / 1000)
  else "." ++ padded 9 nanos

/-- Date and time of day in universal time, as in `1970-01-01T00:00:01.500Z`. -/
def text (t : Timestamp) : String :=
  let date := Date.ofDays (t.seconds / 86400)
  let second := t.seconds % 86400
  padded 4 date.year ++ "-" ++ padded 2 date.month ++ "-" ++ padded 2 date.day ++ "T" ++
    padded 2 (second / 3600) ++ ":" ++ padded 2 (second / 60 % 60) ++ ":" ++ padded 2 (second % 60) ++
    fractionText t.nanos ++ "Z"

end Timestamp

end DocumentQuery
