import DocumentQuery.Expression.Basic
import DocumentQuery.Function.Apply

/-!
# Evaluation

The outcome of an expression on a document. Evaluation never fails: what goes wrong inside a function is an
outcome too.
-/

namespace DocumentQuery

namespace Document

/-- The outcome of a field; the reserved path gives a reference to the document itself. -/
def fieldOutcome (d : Document) (path : FieldPath) : Outcome :=
  if path.isDocumentId then .value (.reference d.key)
  else
    match d.field? path with
    | some v => .ofValue v
    | none => .unset

end Document

namespace Expression

mutual

/-- The outcome of an expression on a document. -/
def evaluate (limits : Limits) (d : Document) : Expression → Outcome
  | field path => d.fieldOutcome path
  | literal v => .ofValue v
  | call f args => f.apply limits (evaluateAll limits d args)

/-- The outcomes of all expressions. -/
def evaluateAll (limits : Limits) (d : Document) : List Expression → List Outcome
  | [] => []
  | e :: rest => evaluate limits d e :: evaluateAll limits d rest

end

theorem evaluateAll_eq_map (limits : Limits) (d : Document) (es : List Expression) :
    evaluateAll limits d es = es.map (evaluate limits d) := by
  induction es with
  | nil => simp [evaluateAll]
  | cons e rest ih => simp [evaluateAll, ih]

/-- A call applies its function to the outcomes of its operands. -/
theorem evaluate_call (limits : Limits) (d : Document) (f : Function) (args : List Expression) :
    (call f args).evaluate limits d = f.apply limits (args.map (evaluate limits d)) := by
  rw [evaluate, evaluateAll_eq_map]

end Expression

end DocumentQuery
