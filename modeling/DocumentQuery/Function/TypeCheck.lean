import DocumentQuery.Function.Operand

/-!
# Questions about outcomes

These functions see outcomes as they are and decide themselves what a null, an unset operand or an error
means.
-/

namespace DocumentQuery.TypeCheck

/-- An error stays; the other outcomes are asked. -/
def unlessError (answer : Outcome → Outcome) : Outcome → Outcome
  | .error e => .error e
  | o => answer o

/-- Errors and unset operands fail; the other outcomes are asked. -/
def whenSet (f : Function) (answer : Outcome → Outcome) (o : Outcome) : Outcome :=
  match o.argumentError? f with
  | some e => .error e
  | none => answer o

/-- Whether a number is NaN, or is not. -/
def nanTest (f : Function) (wanted : Bool) : Outcome → Outcome
  | .value v =>
    if v.isNumber then .boolean (v.isNaN = wanted) else .error ⟨f, .typeMismatch .number v.kind⟩
  | _ => .null

/-- The outcome of a question on the outcomes of its operands. -/
def apply (op : TypeCheck) (args : List Outcome) : Outcome :=
  let f := Function.typeCheck op
  match op, args with
  | isError, [a] => .boolean a.isError
  | ifError, [a, b] => if a.isError then b else a
  | isSet, [a] => unlessError (fun o => .boolean !o.isUnset) a
  | isAbsent, [a] => unlessError (fun o => .boolean o.isUnset) a
  | isNull, [a] => whenSet f (fun o => .boolean o.isNull) a
  | isNotNull, [a] => whenSet f (fun o => .boolean !o.isNull) a
  | isNaN, [a] => whenSet f (nanTest f true) a
  | isNotNaN, [a] => whenSet f (nanTest f false) a
  | _, args => .error ⟨f, .wrongCount args.length⟩

end DocumentQuery.TypeCheck
