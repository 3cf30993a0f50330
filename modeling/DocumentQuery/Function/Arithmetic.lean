import DocumentQuery.Function.Operand

/-!
# Arithmetic

Two integers give an integer, exactly or not at all: a result outside the 64-bit range is an overflow, and
division and remainder round toward zero. With a double on either side both operands become doubles and the
operation is the one of IEEE-754.
-/

namespace DocumentQuery.Arithmetic

/-- The word of an exact result. -/
def checked (n : Int) : Except Cause Int64 :=
  match Integer.ofInt? n with
  | some i => .ok i
  | none => .error .overflow

def integerQuotient (a b : Int) : Except Cause Int64 :=
  if b = 0 then .error .divisionByZero else checked (a.tdiv b)

/-- The remainder takes the sign of the dividend. -/
def integerRemainder (a b : Int) : Except Cause Int64 :=
  if b = 0 then .error .divisionByZero else checked (a.tmod b)

def integer (n : Except Cause Int64) : Except Cause Outcome := n.map fun i => .value (.integer i)

def double (x : Except Cause Double) : Except Cause Outcome := x.map fun d => .value (.double d)

/-- An operation on two numbers, by its form on integers and its form on doubles. -/
def onTwo (onIntegers : Int → Int → Except Cause Int64) (onDoubles : Double → Double → Double)
    (a b : Value) : Except Cause Outcome :=
  match a, b with
  | .integer m, .integer n => integer (onIntegers m.toInt n.toInt)
  | a, b => double do
    let x ← a.toNumber
    let y ← b.toNumber
    return onDoubles x y

/-- A number that is not below zero; NaN is not below zero. -/
def notBelowZero (v : Value) : Except Cause Double := do
  let x ← v.toNumber
  if x.isBelowZero then .error (.invalidArgument (.negative x)) else return x

/-- A base of logarithms: above zero and not one. -/
def logBase (v : Value) : Except Cause Double := do
  let base ← v.toNumber
  if base.isBelowZero ∨ base.isZero ∨ base.equals .one then .error (.invalidArgument (.badBase base))
  else return base

/-- Rounding leaves integers alone. -/
def rounded (round : Double → Double) : Value → Except Cause Outcome
  | .integer i => .ok (.value (.integer i))
  | v => double (v.toNumber.map round)

def absolute : Value → Except Cause Outcome
  | .integer i => integer (checked i.toInt.natAbs)
  | v => double (v.toNumber.map Double.abs)

def apply : Arithmetic → List Value → Except Cause Outcome
  | add, [a, b] => onTwo (fun m n => checked (m + n)) (· + ·) a b
  | subtract, [a, b] => onTwo (fun m n => checked (m - n)) (· - ·) a b
  | multiply, [a, b] => onTwo (fun m n => checked (m * n)) (· * ·) a b
  | divide, [a, b] => onTwo integerQuotient (· / ·) a b
  | mod, [a, b] => onTwo integerRemainder Double.remainder a b
  | pow, [a, b] => double do
    let base ← a.toNumber
    let exponent ← b.toNumber
    return base.pow exponent
  | log, [a, b] => double do
    let x ← notBelowZero a
    let base ← logBase b
    return x.ln / base.ln
  | exp, [a] => double (a.toNumber.map Double.exp)
  | ln, [a] => double ((notBelowZero a).map Double.ln)
  | log10, [a] => double ((notBelowZero a).map Double.log10)
  | sqrt, [a] => double ((notBelowZero a).map Double.sqrt)
  | abs, [a] => absolute a
  | ceil, [a] => rounded Double.ceil a
  | floor, [a] => rounded Double.floor a
  | round, [a] => rounded Double.round a
  | _, args => wrongCount args

end DocumentQuery.Arithmetic
