import DocumentQuery.EvalError
import DocumentQuery.Value.Order

/-!
# Outcomes of evaluation

Evaluating an expression gives a value, a null, nothing at all where a field is not set, or an error. A null
value is always the outcome `null` (`Outcome.ofValue`).
-/

namespace DocumentQuery

inductive Outcome where
  | value (v : Value)
  | null
  | unset
  | error (e : EvalError)
deriving Repr, Inhabited

namespace Outcome

/-- The outcome of a stored or computed value. -/
def ofValue : Value → Outcome
  | .null => null
  | v => value v

def boolean (b : Bool) : Outcome := value (.boolean b)

/-- A three-valued answer; the unknown one is null. -/
def ofTruth : Option Bool → Outcome
  | some b => boolean b
  | none => null

/-- The outcome of a function's result. -/
def ofResult (f : Function) : Except Cause Outcome → Outcome
  | .ok o => o
  | .error cause => error ⟨f, cause⟩

def isValue : Outcome → Bool
  | value _ => true
  | _ => false

def isNull : Outcome → Bool
  | null => true
  | _ => false

def isUnset : Outcome → Bool
  | unset => true
  | _ => false

def isError : Outcome → Bool
  | error _ => true
  | _ => false

/-- Exactly the boolean true. -/
def isTrue : Outcome → Bool
  | value (.boolean b) => b
  | _ => false

theorem isTrue_iff {o : Outcome} : o.isTrue ↔ o = boolean true := by
  constructor
  · intro h
    cases o with
    | value v =>
      cases v with
      | boolean b => exact congrArg boolean h
      | _ => cases h
    | null | unset | error _ => cases h
  · rintro rfl
    rfl

/-- Exactly the boolean false. -/
def isFalse : Outcome → Bool
  | value (.boolean b) => !b
  | _ => false

def value? : Outcome → Option Value
  | value v => some v
  | _ => none

def error? : Outcome → Option EvalError
  | error e => some e
  | _ => none

/-- The value to store for an outcome; there is none for an unset field or an error. -/
def stored? : Outcome → Option Value
  | value v => some v
  | null => some .null
  | unset | error _ => none

/-- The error that an argument causes in a function that needs it: its own, or that it is not set. -/
def argumentError? (f : Function) : Outcome → Option EvalError
  | error e => some e
  | unset => some ⟨f, .unsetArgument⟩
  | _ => none

/-- Missing before null before every value. -/
def classRank : Outcome → Nat
  | unset | error _ => 0
  | null => 1
  | value _ => 2

/-- The ascending order of sort keys: what is missing or failed first, then null, then the values. -/
def compare : Outcome → Outcome → Ordering
  | value a, value b => a.compare b
  | a, b => Ord.compare a.classRank b.classRank

@[simp] theorem compare_value (a b : Value) : compare (value a) (value b) = a.compare b := rfl

/-- Unless both are values, their classes decide. -/
theorem compare_of_not_value {a b : Outcome} (h : ¬(a.isValue ∧ b.isValue)) :
    compare a b = Ord.compare a.classRank b.classRank := by
  cases a <;> cases b <;> first
    | rfl
    | exact absurd ⟨rfl, rfl⟩ h

/-- Identity of outcomes; values by `Value.same`. -/
def same : Outcome → Outcome → Bool
  | value a, value b => a.same b
  | null, null => true
  | unset, unset => true
  | error a, error b => a = b
  | _, _ => false

@[simp] theorem ofValue_null : ofValue .null = null := rfl

theorem ofValue_of_ne_null {v : Value} (h : v ≠ .null) : ofValue v = value v := by
  cases v <;> first | rfl | exact absurd rfl h

theorem ofValue_ne_value_null (v : Value) : ofValue v ≠ value .null := by
  cases v <;> simp [ofValue]

end Outcome

end DocumentQuery
