/-!
# Binary64 numbers by their bits

A `Double` is a 64-bit IEEE-754 pattern. Its exact value is read off the pattern in whole multiples of
`2 ^ (-1074)`, the distance between the smallest numbers (`Double.scaled`), and every pattern has a place on
the integer line (`Double.rank`): NaN lowest, then negative infinity, the finite numbers by value, and
positive infinity. The total order `Double.compare` and the arithmetic equality `Double.equals` are
comparisons of ranks, so no rounding enters either of them.
-/

namespace DocumentQuery

/-- An IEEE-754 binary64 number, kept as its bit pattern. -/
structure Double where
  bits : UInt64
deriving DecidableEq, Repr, Inhabited

namespace Double

/-- The sign bit. -/
def isNegative (d : Double) : Bool := 0x8000000000000000 ≤ d.bits.toNat

/-- The biased exponent, 11 bits. -/
def exponent (d : Double) : Nat := d.bits.toNat / 0x10000000000000 % 0x800

/-- The fraction, 52 bits. -/
def fraction (d : Double) : Nat := d.bits.toNat % 0x10000000000000

/-- The largest exponent marks infinities and NaN. -/
def isFinite (d : Double) : Bool := d.exponent < 2047

def isNaN (d : Double) : Bool := d.exponent = 2047 && d.fraction ≠ 0

/-- The absolute value of a finite number, in units of `2 ^ (-1074)`. -/
def magnitude (d : Double) : Nat :=
  if d.exponent = 0 then d.fraction else (0x10000000000000 + d.fraction) * Nat.pow 2 (d.exponent - 1)

/-- The value of a finite number, in units of `2 ^ (-1074)`. -/
def scaled (d : Double) : Int :=
  if d.isNegative then -(d.magnitude : Int) else d.magnitude

/-- A bound above every finite value, in units of `2 ^ (-1074)`. -/
def infiniteRank : Int := Nat.pow 2 2100

/-- The place of a pattern in the total order; the two zeros share theirs, and so do all NaN. -/
def rank (d : Double) : Int :=
  if d.isNaN then -infiniteRank - 1
  else if d.isFinite then d.scaled
  else if d.isNegative then -infiniteRank
  else infiniteRank

/-- The total order: NaN first, then by value. -/
def compare (a b : Double) : Ordering := Ord.compare a.rank b.rank

/-- Equality of arithmetic: NaN equals nothing, and the two zeros are equal. -/
def equals (a b : Double) : Bool := !a.isNaN && !b.isNaN && a.rank == b.rank

/-- Below zero; NaN and negative zero are not. -/
def isBelowZero (d : Double) : Bool := !d.isNaN && d.rank < 0

/-- Either zero. -/
def isZero (d : Double) : Bool := d.isFinite && d.magnitude = 0

/-- How many units of `2 ^ (-1074)` make up one. -/
def unit : Int := Nat.pow 2 1074

/-- The rank of `2 ^ 63`, the least number above every integer word. -/
def wordRank : Int := 0x8000000000000000 * unit

/-- The whole part of a finite number, its fraction dropped toward zero. -/
def wholePart (d : Double) : Int := d.scaled.tdiv unit

/-- The order of an integer word and a double; NaN lies below every integer. A double outside the words decides
by its side, any other first by its whole part and then by what the whole part drops, so that nothing is
rounded. -/
def compareInt (i : Int) (d : Double) : Ordering :=
  if d.isNaN then .gt
  else if d.rank < -wordRank then .gt
  else if wordRank ≤ d.rank then .lt
  else (Ord.compare i d.wholePart).then (Ord.compare (d.wholePart * unit) d.rank)

/-- The number with the given sign and a magnitude in units of `2 ^ (-1074)`, cut to 53 bits. -/
def ofMagnitude (negative : Bool) (m : Nat) : Double :=
  let shift := m.log2 - 52
  let sign := if negative then 0x8000000000000000 else 0
  ⟨UInt64.ofNat (sign + shift * 0x10000000000000 + m / Nat.pow 2 shift)⟩

def toFloat (d : Double) : Float := Float.ofBits d.bits

def ofFloat (f : Float) : Double := ⟨f.toBits⟩

/-- The nearest number to an integer. -/
def ofInt64 (i : Int64) : Double := ofFloat i.toFloat

/-- The nearest number to a natural number. -/
def ofUInt64 (n : UInt64) : Double := ofFloat n.toFloat

def nan : Double := ⟨0x7ff8000000000000⟩

def zero : Double := ⟨0⟩

def negativeZero : Double := ⟨0x8000000000000000⟩

def one : Double := ⟨0x3ff0000000000000⟩

instance : Add Double := ⟨fun a b => ofFloat (a.toFloat + b.toFloat)⟩
instance : Sub Double := ⟨fun a b => ofFloat (a.toFloat - b.toFloat)⟩
instance : Mul Double := ⟨fun a b => ofFloat (a.toFloat * b.toFloat)⟩
instance : Div Double := ⟨fun a b => ofFloat (a.toFloat / b.toFloat)⟩

/-- The exact remainder of division rounded toward zero; it takes the dividend's sign. -/
def remainder (a b : Double) : Double :=
  if a.isNaN || b.isNaN || !a.isFinite || b.isZero then nan
  else if b.isFinite then ofMagnitude a.isNegative (a.magnitude % b.magnitude)
  else a

/-- The number with the other sign. -/
def negated (d : Double) : Double := ⟨d.bits ^^^ 0x8000000000000000⟩

/-- Absolute value: the pattern without its sign bit. -/
def abs (d : Double) : Double := ⟨UInt64.ofNat (d.bits.toNat % 0x8000000000000000)⟩

def pow (a b : Double) : Double := ofFloat (a.toFloat ^ b.toFloat)
def exp (d : Double) : Double := ofFloat d.toFloat.exp
def ln (d : Double) : Double := ofFloat d.toFloat.log
def log10 (d : Double) : Double := ofFloat d.toFloat.log10
def sqrt (d : Double) : Double := ofFloat d.toFloat.sqrt

/-- The least integral number not below this one. -/
def ceil (d : Double) : Double := ofFloat d.toFloat.ceil

/-- The greatest integral number not above this one. -/
def floor (d : Double) : Double := ofFloat d.toFloat.floor

/-- The nearest integral number; a half goes away from zero. -/
def round (d : Double) : Double := ofFloat d.toFloat.round

/-- A sum from the left. It starts at negative zero, which adding leaves every number as it is. -/
def sum (ds : List Double) : Double := ds.foldl (· + ·) negativeZero

theorem compare_eq_iff {a b : Double} : compare a b = .eq ↔ a.rank = b.rank := by
  simp [compare]

theorem compare_swap (a b : Double) : (compare a b).swap = compare b a :=
  (Std.OrientedOrd.eq_swap (α := Int)).symm

end Double

end DocumentQuery
