import DocumentQuery.BuildError

/-!
# Expressions

An expression is a field, a literal value, or a function applied to expressions. `Expression.apply` checks the
number of arguments; an expression that was built or decoded without that check is still evaluated, to an
error.
-/

namespace DocumentQuery

inductive Expression where
  | field (path : FieldPath)
  | literal (v : Value)
  | call (f : Function) (args : List Expression)
deriving Repr, Inhabited

namespace Expression

/-- A function applied to an accepted number of arguments. -/
def apply (f : Function) (args : List Expression) : Except BuildError Expression :=
  if f.arity.Accepts args.length then .ok (call f args) else .error (.wrongCount f args.length)

/-- A function applied by name. -/
def applyNamed (name : String) (args : List Expression) : Except BuildError Expression :=
  (Function.ofName name).bind fun f => apply f args

mutual

/-- Structural identity; literals by `Value.same`. -/
def same : Expression → Expression → Bool
  | field p, field q => p = q
  | literal v, literal w => v.same w
  | call f as, call g bs => f = g && sameAll as bs
  | _, _ => false

def sameAll : List Expression → List Expression → Bool
  | [], [] => true
  | a :: as, b :: bs => same a b && sameAll as bs
  | _, _ => false

end

end Expression

end DocumentQuery
