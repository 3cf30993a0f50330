import DocumentQuery.Function.Arithmetic
import DocumentQuery.Function.Array
import DocumentQuery.Function.Comparison
import DocumentQuery.Function.Logical
import DocumentQuery.Function.Map
import DocumentQuery.Function.Text
import DocumentQuery.Function.Timestamp
import DocumentQuery.Function.TypeCheck
import DocumentQuery.Function.Vector

/-!
# Applying functions

`Function.apply` is the outcome of a function on the outcomes of its operands. The count of operands is checked
first. Logical functions, questions about outcomes and the constructors of arrays and maps see the outcomes;
every other function is strict (`Function.applyStrict`) and sees only values.
-/

namespace DocumentQuery.Function

/-- The result of a strict function on values. -/
def onValues (limits : Limits) : Function → List Value → Except Cause Outcome
  | arithmetic op, args => op.apply args
  | comparison op, args => op.apply args
  | array op, args => op.apply args
  | string op, args => op.apply limits args
  | map op, args => op.apply args
  | timestamp op, args => op.apply args
  | vector op, args => op.apply args
  | logical _, args | typeCheck _, args => wrongCount args

/-- The outcome of a strict function. -/
def applyStrict (limits : Limits) (f : Function) (args : List Outcome) : Outcome :=
  match f.operands args with
  | .ok values => .ofResult f (f.onValues limits values)
  | .error o => o

/-- The outcome of a function on an accepted number of operands. -/
def applyAccepted (limits : Limits) (f : Function) (args : List Outcome) : Outcome :=
  match f with
  | logical op => op.apply args
  | typeCheck op => op.apply args
  | array .array => ArrayFunction.ofItems f [] args
  | map .map => MapFunction.ofPairs f [] args
  | f => f.applyStrict limits args

/-- The outcome of a function on the outcomes of its operands. -/
def apply (limits : Limits) (f : Function) (args : List Outcome) : Outcome :=
  if f.arity.Accepts args.length then f.applyAccepted limits args
  else .error ⟨f, .wrongCount args.length⟩

end DocumentQuery.Function
