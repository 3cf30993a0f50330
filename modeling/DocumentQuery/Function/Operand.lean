import DocumentQuery.Outcome

/-!
# Operands

What a function does first with an operand: ask that it is of the right kind. The strict functions see values
only; `Function.operands` is the rule that all of them share for operands without a value.
-/

namespace DocumentQuery

namespace Value

/-- The content of an operand, or the complaint that it is not as expected. -/
def demand {α : Type} (expected : Expected) (content? : Value → Option α) (v : Value) : Except Cause α :=
  match content? v with
  | some a => .ok a
  | none => .error (.typeMismatch expected v.kind)

def toNumber (v : Value) : Except Cause Double := v.demand .number number?

def toInteger (v : Value) : Except Cause Int64 := v.demand .integer integer?

def toText (v : Value) : Except Cause String := v.demand .string string?

def toArray (v : Value) : Except Cause (List Value) := v.demand .array array?

def toMap (v : Value) : Except Cause Record := v.demand .map map?

def toTimestamp (v : Value) : Except Cause Timestamp := v.demand .timestamp timestamp?

def toVector (v : Value) : Except Cause (List Double) := v.demand .vector vector?

end Value

/-- The answer of an operation that does not take this many operands. -/
def wrongCount {α : Type} (args : List Value) : Except Cause α := .error (.wrongCount args.length)

namespace Function

/-- The values of all operands, if all have one. -/
def valuesOf : List Outcome → Option (List Value)
  | [] => some []
  | .value v :: rest => (valuesOf rest).map (v :: ·)
  | _ :: _ => none

/-- The rule of strict functions: the leftmost error or unset operand decides; without one, a null makes the
outcome null; without any of these the function sees the values. -/
def operands (f : Function) (args : List Outcome) : Except Outcome (List Value) :=
  match args.findSome? (Outcome.argumentError? f) with
  | some e => .error (.error e)
  | none =>
    match valuesOf args with
    | some values => .ok values
    | none => .error .null

end Function

end DocumentQuery
