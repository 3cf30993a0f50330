import DocumentQuery.Value.Basic

/-!
# The order of all values

`Value.compare` orders every two values: by the rank of their kinds, and inside a kind numbers by exact value
with NaN lowest, strings, byte strings, references and arrays lexicographically, vectors by dimension before
entries, maps entry by entry with the key before the value. `Value.compareStrict?` is the order of the
inequality operators: it answers only for operands of one rank, and not where a NaN decides.
-/

namespace DocumentQuery

namespace GeoPoint

/-- By latitude, then by longitude. -/
def compare (a b : GeoPoint) : Ordering :=
  (a.latitude.compare b.latitude).then (a.longitude.compare b.longitude)

def hasNaN (g : GeoPoint) : Bool := g.latitude.isNaN || g.longitude.isNaN

end GeoPoint

namespace Value

/-- By length, then entry by entry. -/
def compareVectors (a b : List Double) : Ordering :=
  (Ord.compare a.length b.length).then (List.compareLex Double.compare a b)

/-- The order of two numbers by exact value; other values are equal here. -/
def compareNumeric : Value → Value → Ordering
  | integer a, integer b => Ord.compare a.toInt b.toInt
  | double a, double b => a.compare b
  | integer a, double b => Double.compareInt a.toInt b
  | double a, integer b => (Double.compareInt b.toInt a).swap
  | _, _ => .eq

mutual

def compare : Value → Value → Ordering
  | boolean a, boolean b => Ord.compare a b
  | timestamp a, timestamp b => Ord.compare a b
  | string a, string b => Ord.compare a b
  | bytes a, bytes b => Ord.compare a b
  | reference a, reference b => Ord.compare a b
  | geoPoint a, geoPoint b => a.compare b
  | array a, array b => compareItems a b
  | vector a, vector b => compareVectors a b
  | map a, map b => compareFields a b
  | a, b => (Ord.compare a.rank b.rank).then (compareNumeric a b)

/-- Item by item; a list that ends first is less. -/
def compareItems : List Value → List Value → Ordering
  | [], [] => .eq
  | [], _ :: _ => .lt
  | _ :: _, [] => .gt
  | a :: as, b :: bs => (compare a b).then (compareItems as bs)

/-- Binding by binding, the key before the value; a map that ends first is less. -/
def compareFields : List (String × Value) → List (String × Value) → Ordering
  | [], [] => .eq
  | [], _ :: _ => .lt
  | _ :: _, [] => .gt
  | (k, a) :: as, (l, b) :: bs =>
    (Ord.compare k l).then ((compare a b).then (compareFields as bs))

end

/-- The first answer, unless it is a tie: then the second. -/
def thenCompare? (first : Option Ordering) (second : Option Ordering) : Option Ordering :=
  match first with
  | some .eq => second
  | other => other

mutual

/-- The order of the inequality operators. There is none between values of different rank or where a NaN
decides; inside a geo point or a vector a NaN anywhere decides. -/
def compareStrict? : Value → Value → Option Ordering
  | array a, array b => compareStrictItems? a b
  | map a, map b => compareStrictFields? a b
  | geoPoint a, geoPoint b => if a.hasNaN || b.hasNaN then none else some (a.compare b)
  | vector a, vector b =>
    if (a ++ b).any Double.isNaN then none else some (compareVectors a b)
  | a, b =>
    if a.rank ≠ b.rank ∨ a.isNaN ∨ b.isNaN then none else some (compare a b)

def compareStrictItems? : List Value → List Value → Option Ordering
  | [], [] => some .eq
  | [], _ :: _ => some .lt
  | _ :: _, [] => some .gt
  | a :: as, b :: bs => thenCompare? (compareStrict? a b) (compareStrictItems? as bs)

def compareStrictFields? : List (String × Value) → List (String × Value) → Option Ordering
  | [], [] => some .eq
  | [], _ :: _ => some .lt
  | _ :: _, [] => some .gt
  | (k, a) :: as, (l, b) :: bs =>
    thenCompare? (some (Ord.compare k l))
      (thenCompare? (compareStrict? a b) (compareStrictFields? as bs))

end

end Value

end DocumentQuery
