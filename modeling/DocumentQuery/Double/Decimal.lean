import DocumentQuery.Double.Basic

/-!
# The shortest decimal text of a double

`Double.shortest` gives the decimal with the fewest digits that reads back as the number, and of those the
nearest one. A finite number with exact value `v` owns the interval of reals that round to it; for one digit,
two digits and so on the two neighbours of `v` on that decimal grid are tested against the interval in exact
natural arithmetic. `Double.text` writes the result positionally: no exponent, no point after a whole number,
and a minus sign before every number whose sign bit is set.
-/

namespace DocumentQuery

/-- The number `digits * 10 ^ exponent`. -/
structure Decimal where
  digits : Nat
  exponent : Int
deriving DecidableEq, Repr

namespace Decimal

/-- The same number with one trailing zero of its digits moved into the exponent. The nearest decimal of one
digit can be a power of ten, which its own grid writes as `10`; more digits never end in a zero. -/
def reduced (d : Decimal) : Decimal :=
  if d.digits ≠ 0 ∧ d.digits % 10 = 0 then ⟨d.digits / 10, d.exponent + 1⟩ else d

/-- Positional text. -/
def text (d : Decimal) : String :=
  let shown := Nat.toDigits 10 d.digits
  if 0 ≤ d.exponent then String.ofList (shown ++ List.replicate d.exponent.toNat '0')
  else
    let places := (-d.exponent).toNat
    let padded := List.replicate (places + 1 - shown.length) '0' ++ shown
    let whole := padded.length - places
    String.ofList (padded.take whole ++ '.' :: padded.drop whole)

end Decimal

namespace Double

/-- Quarter units, of `2 ^ (-1076)` each, in one. -/
def quarterUnits : Nat := Nat.pow 2 1076

/-- The reals that round to a positive finite number, in quarter units; `closed` says whether the ends do. -/
structure Interval where
  low : Nat
  value : Nat
  high : Nat
  closed : Bool

def interval (d : Double) : Interval :=
  let spacing := if d.exponent ≤ 1 then 1 else Nat.pow 2 (d.exponent - 1)
  let below := if d.fraction = 0 ∧ 1 < d.exponent then spacing else 2 * spacing
  { low := 4 * d.magnitude - below
    value := 4 * d.magnitude
    high := 4 * d.magnitude + 2 * spacing
    closed := d.fraction % 2 = 0 }

/-- Whether a decimal lies in the interval. -/
def Interval.admits (i : Interval) (d : Decimal) : Bool :=
  let scale := Nat.pow 10 (-d.exponent).toNat
  let point := d.digits * Nat.pow 10 d.exponent.toNat * quarterUnits
  if i.closed then i.low * scale ≤ point && point ≤ i.high * scale
  else i.low * scale < point && point < i.high * scale

/-- How many decimal digits a number has; zero has none. -/
def digitCount (n : Nat) : Nat := if n = 0 then 0 else (Nat.toDigits 10 n).length

/-- The `p` with `10 ^ (p - 1) ≤ v < 10 ^ p` for a positive value `v` in quarter units. -/
def leadingPlace (v : Nat) : Int :=
  if quarterUnits ≤ v then digitCount (v / quarterUnits)
  else 1 - digitCount ((quarterUnits - 1) / v)

/-- The nearer of the two neighbours on the grid of `10 ^ exponent` that the interval admits; of two equally
near ones the upper. -/
def Interval.nearest? (i : Interval) (exponent : Int) : Option Decimal :=
  let num := i.value * Nat.pow 10 (-exponent).toNat
  let den := quarterUnits * Nat.pow 10 exponent.toNat
  let lower : Decimal := ⟨num / den, exponent⟩
  let upper : Decimal := ⟨num / den + 1, exponent⟩
  match i.admits lower, i.admits upper with
  | true, true => some (if 2 * (num % den) < den then lower else upper)
  | true, false => some lower
  | false, true => some upper
  | false, false => none

/-- The shortest decimal that reads back as the magnitude of a finite number. -/
def shortest (d : Double) : Decimal :=
  if d.magnitude = 0 then ⟨0, 0⟩
  else
    let i := d.interval
    let place := leadingPlace i.value
    let found := (List.range 17).findSome? fun k => i.nearest? (place - (k + 1 : Nat))
    (found.getD ⟨0, 0⟩).reduced

/-- The text of a number inside a message. -/
def text (d : Double) : String :=
  if d.isNaN then "NaN"
  else
    let sign := if d.isNegative then "-" else ""
    sign ++ if d.isFinite then d.shortest.text else "inf"

end Double

end DocumentQuery
