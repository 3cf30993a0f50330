import DocumentQuery.BuiltinEngine.Build
import DocumentQuery.Expression.Evaluate
import DocumentQuery.Proofs.FunctionResults

/-! # Strict functions

The connectives and extremes, the questions about outcomes and the constructors of arrays and maps look at the
outcomes of their operands.  Every other function is strict (`Function.IsStrict`): it sees values only, and what it
answers about operands without a value is settled before its own work begins.  The leftmost operand that failed or
is not set decides (`Function.applyStrict_of_absent`), whatever stands around it; if there is none, a null makes the
outcome null (`Function.applyStrict_of_null_mem`), whatever the kinds of the other operands.  On operands that all have
values, a call is what its function makes of the values (`Expression.evaluate_call_of_values`).

The law is stated of calls in expressions (`Expression.strict_call_mirrors_operands`), where a call reaches the rule
after the number of its operands was accepted (`Function.apply_of_isStrict`). -/

namespace DocumentQuery

namespace Outcome

/-- A value or a null; what is left are errors and what is not set. -/
def IsPresent : Outcome → Prop
  | value _ | null => True
  | unset | error _ => False

instance : DecidablePred IsPresent
  | value _ | null => .isTrue trivial
  | unset | error _ => .isFalse id

theorem argumentError?_eq_none_iff {f : Function} {o : Outcome} : o.argumentError? f = none ↔ o.IsPresent := by
  cases o <;> simp [argumentError?, IsPresent]

end Outcome

namespace Function

/-- The functions that see values only. -/
def IsStrict : Function → Prop
  | logical _ | typeCheck _ | array .array | map .map => False
  | _ => True

variable {f : Function} {args before after : List Outcome} {o : Outcome} {e : EvalError}

/-- A strict function on an accepted number of operands follows the rule of strict functions. -/
theorem apply_of_isStrict (limits : Limits) (hf : f.IsStrict) (h : f.arity.Accepts args.length) :
    f.apply limits args = f.applyStrict limits args := by
  rw [apply, if_pos h]
  unfold applyAccepted
  split
  -- The four kinds of functions that are not strict, and all others.
  case h_1 | h_2 | h_3 | h_4 => exact absurd hf id
  case h_5 => rfl

/-! ### Operands that are absent -/

theorem findSome?_argumentError?_append (hbefore : ∀ b ∈ before, b.IsPresent) :
    (before ++ args).findSome? (Outcome.argumentError? f) = args.findSome? (Outcome.argumentError? f) := by
  have hnone : before.findSome? (Outcome.argumentError? f) = none := by
    rw [List.findSome?_eq_none_iff]
    intro b hb
    exact Outcome.argumentError?_eq_none_iff.mpr (hbefore b hb)
  rw [List.findSome?_append, hnone, Option.none_or]

/-- The leftmost operand that is absent decides. -/
theorem applyStrict_of_absent (limits : Limits) (hbefore : ∀ b ∈ before, b.IsPresent)
    (ho : o.argumentError? f = some e) : f.applyStrict limits (before ++ o :: after) = .error e := by
  have hfound : (before ++ o :: after).findSome? (Outcome.argumentError? f) = some e := by
    rw [findSome?_argumentError?_append hbefore, List.findSome?_cons, ho]
  rw [applyStrict, operands, hfound]

/-! ### Nulls among present operands -/

theorem valuesOf_eq_none_of_mem (h : .null ∈ args) : valuesOf args = none := by
  induction args with
  | nil => cases h
  | cons o rest ih =>
      cases o with
      | value v =>
          have hrest : .null ∈ rest := by simpa using h
          rw [valuesOf, ih hrest, Option.map_none]
      | null | unset | error _ => rfl

/-- A null decides if no operand is absent. -/
theorem applyStrict_of_null_mem (limits : Limits) (hargs : ∀ o ∈ args, o.IsPresent) (hnull : .null ∈ args) :
    f.applyStrict limits args = .null := by
  have hfound : args.findSome? (Outcome.argumentError? f) = none := by
    have happend : (args ++ []).findSome? (Outcome.argumentError? f) =
        [].findSome? (Outcome.argumentError? f) := findSome?_argumentError?_append hargs
    rwa [List.append_nil] at happend
  rw [applyStrict, operands, hfound, valuesOf_eq_none_of_mem hnull]

/-! ### Values alone -/

theorem valuesOf_map_value (values : List Value) : valuesOf (values.map .value) = some values := by
  induction values with
  | nil => rfl
  | cons v rest ih => rw [List.map_cons, valuesOf, ih, Option.map_some]

/-- Without an operand that is absent or null, the function sees the values. -/
theorem applyStrict_of_values (limits : Limits) (f : Function) (values : List Value) :
    f.applyStrict limits (values.map .value) = .ofResult f (f.onValues limits values) := by
  have hfound : (values.map Outcome.value).findSome? (Outcome.argumentError? f) = none := by
    rw [List.findSome?_eq_none_iff]
    exact List.forall_mem_map.mpr fun v _ => rfl
  rw [applyStrict, operands, hfound, valuesOf_map_value]

end Function

namespace Expression

variable {f : Function} {args : List Expression}

theorem evaluate_call_of_isStrict (limits : Limits) (d : Document) (hf : f.IsStrict)
    (h : f.arity.Accepts args.length) :
    (call f args).evaluate limits d = f.applyStrict limits (args.map (evaluate limits d)) := by
  rw [evaluate_call]
  exact Function.apply_of_isStrict limits hf (by rwa [List.length_map])

theorem map_evaluate_cons {limits : Limits} {d : Document} {x : Expression} {α : Type} {outcome : α → Outcome} {a : α}
    {parts : List α} (hx : x.evaluate limits d = outcome a)
    (hrest : args.map (evaluate limits d) = parts.map outcome) :
    (x :: args).map (evaluate limits d) = (a :: parts).map outcome := by
  rw [List.map_cons, hx, hrest, List.map_cons]

/-- On operands with values, a strict function answers what it answers on the values. -/
theorem evaluate_call_of_values (limits : Limits) (d : Document) (hf : f.IsStrict) {values : List Value}
    (hargs : args.map (evaluate limits d) = values.map .value) (h : f.arity.Accepts values.length) :
    (call f args).evaluate limits d = .ofResult f (f.onValues limits values) := by
  have hcount : args.length = values.length := by simpa only [List.length_map] using congrArg List.length hargs
  rw [evaluate_call_of_isStrict limits d hf (hcount ▸ h), hargs, Function.applyStrict_of_values]

/-- The same for operands whose values are made alike. -/
theorem evaluate_call_of_parts (limits : Limits) (d : Document) (hf : f.IsStrict) {α : Type} {make : α → Value}
    {parts : List α} (hargs : args.map (evaluate limits d) = parts.map fun a => .value (make a))
    (h : f.arity.Accepts parts.length) :
    (call f args).evaluate limits d = .ofResult f (f.onValues limits (parts.map make)) := by
  have hvalues : args.map (evaluate limits d) = (parts.map make).map .value := by rwa [List.map_map]
  exact evaluate_call_of_values limits d hf hvalues (by rwa [List.length_map])

/-- **Strict functions mirror their operands.**  Of a call of a strict function with an accepted number of operands,
the leftmost operand that is an error or not set gives the error, with nulls or values in front of it and anything
behind it; if every operand is a value or a null, a null makes the call null, whatever the values are. -/
theorem strict_call_mirrors_operands (limits : Limits) (d : Document) {f : Function} (hf : f.IsStrict)
    {args : List Expression} (hcount : f.arity.Accepts args.length) :
    (∀ before e after, args = before ++ e :: after → (∀ b ∈ before, (b.evaluate limits d).IsPresent) →
      (∀ err, e.evaluate limits d = .error err → (call f args).evaluate limits d = .error err) ∧
      (e.evaluate limits d = .unset → (call f args).evaluate limits d = .error ⟨f, .unsetArgument⟩)) ∧
    ((∀ e ∈ args, (e.evaluate limits d).IsPresent) → (∃ e ∈ args, e.evaluate limits d = .null) →
      (call f args).evaluate limits d = .null) := by
  rw [evaluate_call_of_isStrict limits d hf hcount]
  constructor
  · intro before e after hargs hbefore
    have houtcomes : ∀ o ∈ before.map (evaluate limits d), o.IsPresent := by
      intro o ho
      obtain ⟨b, hb, rfl⟩ := List.mem_map.mp ho
      exact hbefore b hb
    rw [hargs, List.map_append, List.map_cons]
    constructor
    · intro err herr
      rw [herr]
      exact Function.applyStrict_of_absent limits houtcomes rfl
    · intro hunset
      rw [hunset]
      exact Function.applyStrict_of_absent limits houtcomes rfl
  · rintro hpresent ⟨e, he, hnull⟩
    refine Function.applyStrict_of_null_mem limits (fun o ho => ?_) ?_
    · obtain ⟨b, hb, rfl⟩ := List.mem_map.mp ho
      exact hpresent b hb
    · rw [← hnull]
      exact List.mem_map_of_mem he

/-- A field that no document without data has. -/
def missingField : Expression := field ⟨["x"]⟩

/-- A null in front of a missing field does not hide it, and the missing field hides the quotient without a divisor
behind it; a null beside a truth value makes a sum null, though no sum takes a truth value. -/
theorem strict_call_mirrors_operands_beside_nulls :
    (Function.string .concat).IsStrict ∧ (Function.string .concat).arity.Accepts 3 ∧
      (call (.string .concat) [literal .null, missingField,
          call (.arithmetic .divide) [literal (.integer 1), literal (.integer 0)]]).evaluate {}
            ⟨⟨["c", "d"]⟩, [], none⟩ = .error ⟨.string .concat, .unsetArgument⟩ ∧
      (call (.string .concat) [literal .null, call (.arithmetic .divide) [literal (.integer 1), literal (.integer 0)],
          missingField]).evaluate {} ⟨⟨["c", "d"]⟩, [], none⟩ = .error ⟨.arithmetic .divide, .divisionByZero⟩ ∧
      (call (.arithmetic .add) [literal (.boolean true), literal .null]).evaluate {} ⟨⟨["c", "d"]⟩, [], none⟩ =
        .null := by
  have hnull : ∀ b ∈ [literal .null], (b.evaluate {} ⟨⟨["c", "d"]⟩, [], none⟩).IsPresent := by
    intro b hb
    rw [List.mem_singleton.mp hb]
    trivial
  have hunset : (Function.string .concat).arity.Accepts [literal .null, missingField,
      call (.arithmetic .divide) [literal (.integer 1), literal (.integer 0)]].length := by decide
  have hfailed : (Function.string .concat).arity.Accepts [literal .null,
      call (.arithmetic .divide) [literal (.integer 1), literal (.integer 0)], missingField].length := by decide
  have hsum : (Function.arithmetic .add).arity.Accepts [literal (.boolean true), literal .null].length := by decide
  have hconcat : (Function.string .concat).IsStrict := trivial
  have hadd : (Function.arithmetic .add).IsStrict := trivial
  refine ⟨hconcat, by decide, ?_, ?_, ?_⟩
  · have hmirror := (strict_call_mirrors_operands {} ⟨⟨["c", "d"]⟩, [], none⟩ hconcat hunset).1
    exact (hmirror _ _ _ rfl hnull).2 rfl
  · have hmirror := (strict_call_mirrors_operands {} ⟨⟨["c", "d"]⟩, [], none⟩ hconcat hfailed).1
    exact (hmirror _ _ _ rfl hnull).1 _ rfl
  · have hmirror := (strict_call_mirrors_operands {} ⟨⟨["c", "d"]⟩, [], none⟩ hadd hsum).2
    refine hmirror (fun e he => ?_) ⟨literal .null, by simp, rfl⟩
    simp only [List.mem_cons, List.not_mem_nil, or_false] at he
    rcases he with rfl | rfl
    · trivial
    · trivial

end Expression

end DocumentQuery
