import DocumentQuery.Function.Operand

/-!
# Timestamp functions

Conversion between timestamps and counts since 1970, and shifting by an amount of some unit of time. Shifting
runs on exact nanoseconds, so only the range of the result can fail.
-/

namespace DocumentQuery.TimestampFunction

/-- A unit of time. -/
inductive TimeUnit where
  | microsecond | millisecond | second | minute | hour | day
deriving DecidableEq, Repr

namespace TimeUnit

def ofName? : String → Option TimeUnit
  | "microsecond" => some microsecond
  | "millisecond" => some millisecond
  | "second" => some second
  | "minute" => some minute
  | "hour" => some hour
  | "day" => some day
  | _ => none

def nanos : TimeUnit → Int
  | microsecond => 1000
  | millisecond => 1000000
  | second => 1000000000
  | minute => 60 * 1000000000
  | hour => 3600 * 1000000000
  | day => 86400 * 1000000000

end TimeUnit

/-- A timestamp in range. -/
def inRange (t : Option Timestamp) : Except Cause Outcome :=
  match t with
  | some t => .ok (.value (.timestamp t))
  | none => .error .timestampOutOfRange

def unitOf (v : Value) : Except Cause TimeUnit := do
  let name ← v.toText
  match TimeUnit.ofName? name with
  | some unit => return unit
  | none => .error (.invalidArgument (.unknownUnit name))

/-- The timestamp that lies an amount of some unit after another one; `sign` tells after from before. -/
def shifted (sign : Int) (time unit amount : Value) : Except Cause Outcome := do
  let t ← time.toTimestamp
  let u ← unitOf unit
  let n ← amount.toInteger
  inRange (Timestamp.ofEpochNanos? (t.epochNanos + sign * n.toInt * u.nanos))

def integer (i : Int64) : Outcome := .value (.integer i)

def apply : TimestampFunction → List Value → Except Cause Outcome
  | ofUnixMicros, [a] => do inRange (Timestamp.ofUnixMicros? (← a.toInteger))
  | ofUnixMillis, [a] => do inRange (Timestamp.ofUnixMillis? (← a.toInteger))
  | ofUnixSeconds, [a] => do inRange (Timestamp.ofUnixSeconds? (← a.toInteger))
  | toUnixMicros, [a] => a.toTimestamp.map fun t => integer t.toUnixMicros
  | toUnixMillis, [a] => a.toTimestamp.map fun t => integer t.toUnixMillis
  | toUnixSeconds, [a] => a.toTimestamp.map fun t => integer t.toUnixSeconds
  | add, [a, b, c] => shifted 1 a b c
  | sub, [a, b, c] => shifted (-1) a b c
  | _, args => wrongCount args

end DocumentQuery.TimestampFunction
