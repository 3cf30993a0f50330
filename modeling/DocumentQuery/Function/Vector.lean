import DocumentQuery.Function.Operand

/-!
# Vectors

The dimension of a vector, and the products and distances of two vectors of one dimension.
-/

namespace DocumentQuery.VectorFunction

/-- Two operands as vectors of one dimension. -/
def ofOneDimension (a b : Value) : Except Cause (List Double × List Double) := do
  let x ← a.toVector
  let y ← b.toVector
  if x.length = y.length then return (x, y) else .error (.dimensionMismatch x.length y.length)

def dot (x y : List Double) : Double := Double.sum (List.zipWith (· * ·) x y)

def distance (x y : List Double) : Double :=
  (Double.sum (List.zipWith (fun a b => (a - b) * (a - b)) x y)).sqrt

/-- One less the cosine of the angle; there is none with a vector of magnitude zero. -/
def cosine (x y : List Double) : Except Cause Double :=
  let magnitude := (dot x x).sqrt * (dot y y).sqrt
  if magnitude.isZero then .error .zeroMagnitude else .ok (.one - dot x y / magnitude)

def double (d : Double) : Outcome := .value (.double d)

def apply : VectorFunction → List Value → Except Cause Outcome
  | length, [a] => a.toVector.map fun x => .value (.integer (Int64.ofNat x.length))
  | dotProduct, [a, b] => (ofOneDimension a b).map fun p => double (dot p.1 p.2)
  | euclideanDistance, [a, b] => (ofOneDimension a b).map fun p => double (distance p.1 p.2)
  | cosineDistance, [a, b] => do
    let (x, y) ← ofOneDimension a b
    return double (← cosine x y)
  | _, args => wrongCount args

end DocumentQuery.VectorFunction
