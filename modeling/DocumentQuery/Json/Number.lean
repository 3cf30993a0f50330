import DocumentQuery.Json.Basic

/-!
# Reading numbers

A number is read into a significand of 64 bits and a power of ten. Digits past those that the significand holds
only move the power. A number without fraction and exponent that fits stays an integer; any other one is the
significand as a double, multiplied or divided once by a power of ten, which may differ from the nearest double
in the last place. A number beyond the largest double is refused.
-/

namespace DocumentQuery.JsonNumber

/-- The nearest double to a power of ten. -/
def pow10 (n : Nat) : Double := .ofFloat (Float.ofScientific 1 false n)

/-- The largest power of ten that a double holds. -/
def maxPow10 : Nat := 308

/-- A number times a power of ten. -/
def scaled (d : Double) (exponent : Int) : Option Double :=
  if exponent.natAbs ≤ maxPow10 then
    if 0 ≤ exponent then
      let product := d * pow10 exponent.toNat
      if product.isFinite then some product else none
    else some (d / pow10 exponent.natAbs)
  else if d.isZero then some d
  else if 0 ≤ exponent then none
  else scaled (d / pow10 maxPow10) (exponent + maxPow10)
termination_by exponent.natAbs
decreasing_by
  simp only [maxPow10] at *
  omega

/-- What has been read of a number: its sign, its significand, and the power of ten to multiply it by. -/
structure Reading where
  minus : Bool
  significand : Nat
  exponent : Int

namespace Reading

/-- Appends a digit, if the significand has room for it. -/
def append? (r : Reading) (c : Char) : Option Reading :=
  let s := r.significand * 10 + (c.toNat - '0'.toNat)
  if s < UInt64.size then some { r with significand := s } else none

def signed (r : Reading) (d : Double) : Double := if r.minus then d.negated else d

/-- The number as a double. -/
def toDouble? (r : Reading) : Option JsonNumber :=
  (scaled (.ofUInt64 (UInt64.ofNat r.significand)) r.exponent).map fun d => double (r.signed d)

/-- A number without fraction and exponent. Zero with a minus is a double. -/
def toInteger (r : Reading) : JsonNumber :=
  if !r.minus then natural (UInt64.ofNat r.significand)
  else if 0 < r.significand ∧ r.significand ≤ 0x8000000000000000 then negative (Int64.ofInt (-r.significand))
  else double (r.signed (.ofUInt64 (UInt64.ofNat r.significand)))

end Reading

/-- The largest exponent that is read; a longer one makes the number zero or too large. -/
def maxExponent : Nat := 2147483647

/-- The digits of an exponent, after the first. -/
def readExponentDigits (r : Reading) (below : Bool) (exponent : Nat) :
    List Char → Option (JsonNumber × List Char)
  | [] => (close r exponent).map (·, [])
  | c :: rest =>
    if c.isDigit then
      let next := exponent * 10 + (c.toNat - '0'.toNat)
      if next ≤ maxExponent then readExponentDigits r below next rest
      else if r.significand ≠ 0 ∧ ¬ below then none
      else some (double (r.signed .zero), rest.dropWhile Char.isDigit)
    else (close r exponent).map (·, c :: rest)
where
  close (r : Reading) (exponent : Nat) : Option JsonNumber :=
    { r with exponent := if below then r.exponent - exponent else r.exponent + exponent }.toDouble?

/-- An exponent, after its letter. -/
def readExponent (r : Reading) (text : List Char) : Option (JsonNumber × List Char) :=
  let (below, digits) := match text with
    | '+' :: rest => (false, rest)
    | '-' :: rest => (true, rest)
    | _ => (false, text)
  match digits with
  | c :: rest => if c.isDigit then readExponentDigits r below (c.toNat - '0'.toNat) rest else none
  | [] => none

/-- What may follow the digits of a fraction. -/
def readAfterFraction (r : Reading) : List Char → Option (JsonNumber × List Char)
  | 'e' :: rest | 'E' :: rest => readExponent r rest
  | text => r.toDouble?.map (·, text)

/-- The digits of a fraction; once the significand is full the others are passed over. -/
def readFraction (r : Reading) (any : Bool) : List Char → Option (JsonNumber × List Char)
  | [] => if any then readAfterFraction r [] else none
  | c :: rest =>
    if c.isDigit then
      match r.append? c with
      | some next => readFraction { next with exponent := r.exponent - 1 } true rest
      | none => readAfterFraction r (rest.dropWhile Char.isDigit)
    else if any then readAfterFraction r (c :: rest)
    else none

/-- The digits before the point that the significand has no room for. -/
def readLong (r : Reading) : List Char → Option (JsonNumber × List Char)
  | '.' :: rest => readFraction r false rest
  | 'e' :: rest | 'E' :: rest => readExponent r rest
  | c :: rest =>
    if c.isDigit then readLong { r with exponent := r.exponent + 1 } rest
    else r.toDouble?.map (·, c :: rest)
  | [] => r.toDouble?.map (·, [])

/-- The digits before the point, after the first. -/
def readWhole (r : Reading) : List Char → Option (JsonNumber × List Char)
  | '.' :: rest => readFraction r false rest
  | 'e' :: rest | 'E' :: rest => readExponent r rest
  | c :: rest =>
    if c.isDigit then
      match r.append? c with
      | some next => readWhole next rest
      | none => readLong r (c :: rest)
    else some (r.toInteger, c :: rest)
  | [] => some (r.toInteger, [])

/-- A number after its sign. A leading zero stands alone. -/
def readUnsigned (negative : Bool) : List Char → Option (JsonNumber × List Char)
  | '0' :: rest =>
    if rest.head?.any Char.isDigit then none else readWhole ⟨negative, 0, 0⟩ rest
  | c :: rest => if c.isDigit then readWhole ⟨negative, c.toNat - '0'.toNat, 0⟩ rest else none
  | [] => none

/-- A number and what is left of the text. -/
def read : List Char → Option (JsonNumber × List Char)
  | '-' :: rest => readUnsigned true rest
  | text => readUnsigned false text

end DocumentQuery.JsonNumber
