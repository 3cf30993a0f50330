import DocumentQuery.Function.Operand
import DocumentQuery.Value.Equality

/-!
# Comparison and membership

Equality and membership are three-valued, and their unknown answer is null. An inequality between values that
have no order is false.
-/

namespace DocumentQuery.Comparison

/-- Whether two values stand in an order that is accepted. -/
def ordered (accept : Ordering → Bool) (a b : Value) : Outcome :=
  .boolean (((a.compareStrict? b).map accept).getD false)

def apply : Comparison → List Value → Except Cause Outcome
  | eq, [a, b] => .ok (.ofTruth (a.equals? b))
  | neq, [a, b] => .ok (.ofTruth ((a.equals? b).map not))
  | lt, [a, b] => .ok (ordered Ordering.isLT a b)
  | lte, [a, b] => .ok (ordered Ordering.isLE a b)
  | gt, [a, b] => .ok (ordered Ordering.isGT a b)
  | gte, [a, b] => .ok (ordered Ordering.isGE a b)
  | eqAny, [a, b] => b.toArray.map fun items => .ofTruth (a.isAnyOf? items)
  | notEqAny, [a, b] => b.toArray.map fun items => .ofTruth ((a.isAnyOf? items).map not)
  | _, args => wrongCount args

end DocumentQuery.Comparison
