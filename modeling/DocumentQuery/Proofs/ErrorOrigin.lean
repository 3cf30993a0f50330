import DocumentQuery.Proofs.OutcomeForm
import DocumentQuery.Proofs.RaisedCauses

/-! # Where an error of evaluation comes from

A call fails with an error of one of its operands, which it hands on, or with one of its own, and its own has a cause
that it can raise (`Function.failsWith_apply`).  The functions of values are known to do so.  The functions of
outcomes are shown to here, with a property `P` that holds of the errors of the operands and of those that the
function can raise itself (`Function.RaisesOnly`).  By induction over the expression every error of an evaluation was
raised by a call in it (`Expression.exists_origin`). -/

namespace DocumentQuery

variable {f : Function} {n : Nat}

/-! ### Functions of outcomes -/

namespace Outcome

/-- The error of an outcome has a property, if it is one. -/
def FailsWith (P : EvalError → Prop) (o : Outcome) : Prop := ∀ e, o = error e → P e

variable {P : EvalError → Prop} {o : Outcome}

theorem failsWith_error {e : EvalError} : FailsWith P (error e) ↔ P e :=
  ⟨fun h => h e rfl, fun h _ he => error.inj he ▸ h⟩

theorem failsWith_of_isError_eq_false (h : o.isError = false) : FailsWith P o := by
  rintro e rfl
  cases h

theorem failsWith_value {v : Value} : FailsWith P (value v) := failsWith_of_isError_eq_false rfl

theorem failsWith_null : FailsWith P null := failsWith_of_isError_eq_false rfl

theorem failsWith_boolean {b : Bool} : FailsWith P (boolean b) := failsWith_of_isError_eq_false rfl

theorem FailsWith.of_argumentError? {e : EvalError} (ho : FailsWith P o) (hunset : P ⟨f, .unsetArgument⟩)
    (he : o.argumentError? f = some e) : P e := by
  cases o with
  | error d =>
      cases he
      exact failsWith_error.mp ho
  | unset =>
      cases he
      exact hunset
  | value _ | null => cases he

end Outcome

variable {P : EvalError → Prop} {args : List Outcome}

namespace Function

/-- A property holds of every error that a call of the function can raise itself. -/
def RaisesOnly (f : Function) (n : Nat) (P : EvalError → Prop) : Prop :=
  ∀ cause, f.CanRaise n cause → P ⟨f, cause⟩

theorem RaisesOnly.unset (h : f.RaisesOnly n P) : P ⟨f, .unsetArgument⟩ := h _ trivial

theorem RaisesOnly.mismatch (h : f.RaisesOnly n P) (expected : Expected) (found : Kind) :
    P ⟨f, .typeMismatch expected found⟩ :=
  h _ trivial

end Function

namespace Logical

theorem complaint_of_failsWith {o : Outcome} (hown : f.RaisesOnly n P)
    (ho : o.FailsWith P) : P (complaint f o) := by
  cases o with
  | error e => exact Outcome.failsWith_error.mp ho
  | value v => exact hown.mismatch _ _
  | null | unset => exact hown.unset

theorem failsWith_junction (hown : f.RaisesOnly n P) (decider : Bool) {p : Pending}
    (hp : ∀ e ∈ p.error, P e) (hargs : ∀ o ∈ args, o.FailsWith P) : (junction f decider p args).FailsWith P := by
  fun_induction junction f decider p args with
  | case1 p =>
      unfold Pending.close
      split
      case h_1 e he => exact Outcome.failsWith_error.mpr (hp e he)
      case h_2 =>
        split_ifs
        · exact Outcome.failsWith_null
        · exact Outcome.failsWith_boolean
  | case2 => exact Outcome.failsWith_boolean
  | case3 p b rest hb ih => exact ih hp (List.forall_mem_cons.mp hargs).2
  | case4 p rest ih => exact ih hp (List.forall_mem_cons.mp hargs).2
  | case5 p o rest _ _ ih =>
      obtain ⟨ho, hrest⟩ := List.forall_mem_cons.mp hargs
      refine ih (fun e he => ?_) hrest
      -- The leftmost error stays; without one it is the complaint about this operand.
      obtain hleft | ⟨-, hright⟩ := Option.or_eq_some_iff.mp he
      · exact hp e hleft
      · exact Option.some.inj hright ▸ complaint_of_failsWith hown ho

theorem failsWith_parity (hown : f.RaisesOnly n P) (odd null : Bool)
    (hargs : ∀ o ∈ args, o.FailsWith P) : (parity f odd null args).FailsWith P := by
  fun_induction parity f odd null args with
  | case1 => exact Outcome.failsWith_null
  | case2 => exact Outcome.failsWith_boolean
  | case3 odd null b rest ih => exact ih (List.forall_mem_cons.mp hargs).2
  | case4 odd null rest ih => exact ih (List.forall_mem_cons.mp hargs).2
  | case5 odd null o rest =>
      exact Outcome.failsWith_error.mpr (complaint_of_failsWith hown (List.forall_mem_cons.mp hargs).1)

theorem failsWith_negation {o : Outcome} (hown : f.RaisesOnly n P)
    (ho : o.FailsWith P) : (negation f o).FailsWith P := by
  unfold negation
  split
  · exact Outcome.failsWith_boolean
  · exact Outcome.failsWith_null
  · exact Outcome.failsWith_error.mpr (complaint_of_failsWith hown ho)

theorem failsWith_extreme (wanted : Ordering) (hargs : ∀ o ∈ args, o.FailsWith P) :
    (extreme wanted none args).FailsWith P := by
  obtain hnone | ⟨hmem, -⟩ := extreme_eq_or_mem wanted none args
  · rw [hnone]
    exact Outcome.failsWith_null
  · exact hargs _ hmem

theorem failsWith_apply (op : Logical) (h : (Function.logical op).arity.Accepts args.length)
    (hown : (Function.logical op).RaisesOnly n P)
    (hargs : ∀ o ∈ args, o.FailsWith P) : (op.apply args).FailsWith P := by
  cases op with
  | and | or =>
      rw [apply]
      exact failsWith_junction hown _ (by simp) hargs
  | xor =>
      rw [apply]
      exact failsWith_parity hown _ _ hargs
  | not =>
      obtain ⟨a, rfl⟩ := List.length_eq_one_iff.mp h
      exact failsWith_negation hown (hargs a (by simp))
  | cond =>
      obtain ⟨a, b, c, rfl⟩ := List.length_eq_three.mp h
      have hcomplaint := complaint_of_failsWith hown (hargs a (by simp))
      rw [apply]
      exact choice_elim (hargs b (by simp)) (hargs c (by simp)) (Outcome.failsWith_error.mpr hcomplaint)
  | maximum | minimum =>
      rw [apply]
      exact failsWith_extreme _ hargs

end Logical

namespace TypeCheck

theorem failsWith_unlessError {answer : Outcome → Outcome} {o : Outcome} (hanswer : (answer o).FailsWith P)
    (ho : o.FailsWith P) : (unlessError answer o).FailsWith P := by
  unfold unlessError
  split
  · exact ho
  · exact hanswer

theorem failsWith_whenSet {answer : Outcome → Outcome} {o : Outcome} (hanswer : (answer o).FailsWith P)
    (hunset : P ⟨f, .unsetArgument⟩) (ho : o.FailsWith P) : (whenSet f answer o).FailsWith P := by
  unfold whenSet
  split
  case h_1 e he => exact Outcome.failsWith_error.mpr (ho.of_argumentError? hunset he)
  case h_2 => exact hanswer

theorem failsWith_nanTest (hown : f.RaisesOnly n P) (wanted : Bool) (o : Outcome) :
    (nanTest f wanted o).FailsWith P := by
  unfold nanTest
  split
  · split_ifs
    · exact Outcome.failsWith_boolean
    · exact Outcome.failsWith_error.mpr (hown.mismatch _ _)
  · exact Outcome.failsWith_null

theorem failsWith_apply (op : TypeCheck) (h : (Function.typeCheck op).arity.Accepts args.length)
    (hown : (Function.typeCheck op).RaisesOnly n P)
    (hargs : ∀ o ∈ args, o.FailsWith P) : (op.apply args).FailsWith P := by
  cases op with
  | isError =>
      obtain ⟨a, rfl⟩ := List.length_eq_one_iff.mp h
      exact Outcome.failsWith_boolean
  | ifError =>
      obtain ⟨a, b, rfl⟩ := List.length_eq_two.mp h
      rw [apply]
      split_ifs
      · exact hargs b (by simp)
      · exact hargs a (by simp)
  | isSet | isAbsent =>
      obtain ⟨a, rfl⟩ := List.length_eq_one_iff.mp h
      exact failsWith_unlessError Outcome.failsWith_boolean (hargs a (by simp))
  | isNull | isNotNull =>
      obtain ⟨a, rfl⟩ := List.length_eq_one_iff.mp h
      rw [apply]
      exact failsWith_whenSet Outcome.failsWith_boolean hown.unset (hargs a (by simp))
  | isNaN | isNotNaN =>
      obtain ⟨a, rfl⟩ := List.length_eq_one_iff.mp h
      rw [apply]
      exact failsWith_whenSet (failsWith_nanTest hown _ a) hown.unset (hargs a (by simp))

end TypeCheck

theorem ArrayFunction.failsWith_ofItems (items : List Value) (hunset : P ⟨f, .unsetArgument⟩)
    (hargs : ∀ o ∈ args, o.FailsWith P) : (ofItems f items args).FailsWith P := by
  induction args generalizing items with
  | nil => exact Outcome.failsWith_value
  | cons o rest ih =>
      obtain ⟨ho, hrest⟩ := List.forall_mem_cons.mp hargs
      unfold ofItems
      split
      case h_1 e he => exact Outcome.failsWith_error.mpr (ho.of_argumentError? hunset he)
      case h_2 => exact ih _ hrest

theorem MapFunction.failsWith_ofPairs (fields : Record) (hown : f.RaisesOnly n P)
    (hargs : ∀ o ∈ args, o.FailsWith P) : (ofPairs f fields args).FailsWith P := by
  fun_induction ofPairs f fields args with
  | case1 fields key value rest e he =>
      refine Outcome.failsWith_error.mpr ?_
      obtain hkey | ⟨-, hvalue⟩ := Option.or_eq_some_iff.mp he
      · exact (hargs key (by simp)).of_argumentError? hown.unset hkey
      · exact (hargs value (by simp)).of_argumentError? hown.unset hvalue
  | case2 fields key value rest hargument e he =>
      refine Outcome.failsWith_error.mpr ?_
      unfold keyOf at he
      split at he <;> cases he
      · exact hown.mismatch _ _
      · exact hown.mismatch _ _
  | case3 fields key value rest hargument k hkey ih => exact ih fun o ho => hargs o (by simp [ho])
  | case4 => exact Outcome.failsWith_value

namespace Function

theorem failsWith_applyStrict (limits : Limits)
    (hvalues : ∀ values : List Value, values.length = args.length →
      FailsWith (f.CanRaise args.length) (f.onValues limits values))
    (hown : f.RaisesOnly args.length P) (hargs : ∀ o ∈ args, o.FailsWith P) :
    (f.applyStrict limits args).FailsWith P := by
  obtain ⟨e, hfound, heq⟩ | heq | ⟨values, hargs', heq⟩ := applyStrict_cases limits f args
  · obtain ⟨o, ho, he⟩ := List.exists_of_findSome?_eq_some hfound
    exact heq ▸ Outcome.failsWith_error.mpr ((hargs o ho).of_argumentError? hown.unset he)
  · exact heq ▸ Outcome.failsWith_null
  · have hlength : values.length = args.length := by rw [hargs', List.length_map]
    rw [heq]
    cases hresult : f.onValues limits values with
    | error cause => exact Outcome.failsWith_error.mpr (hown cause (hvalues values hlength cause hresult))
    | ok o =>
        have hanswer := yields_answer limits f values o hresult
        exact Outcome.failsWith_of_isError_eq_false hanswer.isError_eq_false

theorem failsWith_applyAccepted (limits : Limits) (h : f.arity.Accepts args.length)
    (hown : f.RaisesOnly args.length P) (hargs : ∀ o ∈ args, o.FailsWith P) :
    (f.applyAccepted limits args).FailsWith P := by
  unfold applyAccepted
  split
  case h_1 op => exact op.failsWith_apply h hown hargs
  case h_2 op => exact op.failsWith_apply h hown hargs
  case h_3 => exact ArrayFunction.failsWith_ofItems _ hown.unset hargs
  case h_4 => exact MapFunction.failsWith_ofPairs _ hown hargs
  case h_5 hlogical htypeCheck harray hmap =>
    refine failsWith_applyStrict limits (fun values hlength => ?_) hown hargs
    exact hlength ▸ failsWith_onValues limits hlogical htypeCheck harray hmap (hlength ▸ h)

/-- **A call fails with an error of an operand or one that it can raise itself.** -/
theorem failsWith_apply (limits : Limits) (hown : f.RaisesOnly args.length P)
    (hargs : ∀ o ∈ args, o.FailsWith P) : (f.apply limits args).FailsWith P := by
  unfold apply
  split_ifs with h
  · exact failsWith_applyAccepted limits h hown hargs
  · exact Outcome.failsWith_error.mpr (hown _ ⟨rfl, h⟩)

/-- On an accepted number of operands a call finds its case. -/
theorem applyAccepted_eq_error (limits : Limits) (h : f.arity.Accepts args.length) {e : EvalError}
    (he : f.applyAccepted limits args = .error e) :
    .error e ∈ args ∨ e.function = f ∧ f.CanRaise args.length e.cause ∧ ∀ k, e.cause ≠ .wrongCount k := by
  have hfails : (f.applyAccepted limits args).FailsWith fun d => .error d ∈ args ∨
      d.function = f ∧ f.CanRaise args.length d.cause ∧ ∀ k, d.cause ≠ .wrongCount k := by
    refine failsWith_applyAccepted limits h (fun cause hcause => ?_) fun o ho d hd => ?_
    · refine .inr ⟨rfl, hcause, ?_⟩
      rintro k rfl
      exact hcause.2 h
    · exact .inl (hd ▸ ho)
  exact hfails e he

end Function

/-! ### Expressions -/

namespace Expression

mutual

/-- The expression itself and every expression in it. -/
def parts : Expression → List Expression
  | field path => [field path]
  | literal v => [literal v]
  | call f args => call f args :: partsOfAll args

def partsOfAll : List Expression → List Expression
  | [] => []
  | e :: rest => parts e ++ partsOfAll rest

end

theorem mem_partsOfAll {es : List Expression} {part : Expression} :
    part ∈ partsOfAll es ↔ ∃ e ∈ es, part ∈ e.parts := by
  induction es with
  | nil => simp [partsOfAll]
  | cons e rest ih => simp [partsOfAll, ih]

theorem mem_parts_call {args : List Expression} {part : Expression} :
    part ∈ (call f args).parts ↔ part = call f args ∨ ∃ e ∈ args, part ∈ e.parts := by
  rw [parts, List.mem_cons, mem_partsOfAll]

/-- The expressions that are put together with a check of every number of arguments. -/
inductive Built : Expression → Prop
  | field (path : FieldPath) : Built (field path)
  | literal (v : Value) : Built (literal v)
  | apply {f : Function} {args : List Expression} {e : Expression} (hargs : ∀ arg ∈ args, Built arg)
      (he : Expression.apply f args = .ok e) : Built e

theorem apply_eq_ok {args : List Expression} {e : Expression} (h : Expression.apply f args = .ok e) :
    f.arity.Accepts args.length ∧ e = call f args := by
  unfold Expression.apply at h
  split_ifs at h with hcount
  cases h
  exact ⟨hcount, rfl⟩

theorem Built.of_accepts {args : List Expression} (h : f.arity.Accepts args.length)
    (hargs : ∀ arg ∈ args, Built arg) : Built (call f args) :=
  .apply hargs (if_pos h)

theorem Built.accepts {e : Expression} (he : e.Built) {args : List Expression} (h : call f args ∈ e.parts) :
    f.arity.Accepts args.length := by
  induction he with
  | field path => simp [parts] at h
  | literal v => simp [parts] at h
  | apply hargs he ih =>
      obtain ⟨hcount, rfl⟩ := apply_eq_ok he
      obtain heq | ⟨arg, harg, hpart⟩ := mem_parts_call.mp h
      · cases heq
        exact hcount
      · exact ih arg harg hpart

/-- **Every error of an evaluation was raised by a call in the expression.** -/
theorem exists_origin (limits : Limits) (d : Document) {e : Expression} {err : EvalError}
    (h : e.evaluate limits d = .error err) :
    ∃ args, call err.function args ∈ e.parts ∧ err.function.CanRaise args.length err.cause := by
  induction e using nested_induction generalizing err with
  | field path =>
      unfold evaluate Document.fieldOutcome at h
      split_ifs at h
      split at h
      case h_1 v _ => cases v <;> cases h
      case h_2 => cases h
  | literal v => cases v <;> cases h
  | call f args ih =>
      rw [evaluate_call] at h
      have hfails : (f.apply limits (args.map (evaluate limits d))).FailsWith fun err =>
          ∃ args', call err.function args' ∈ (call f args).parts ∧ err.function.CanRaise args'.length err.cause := by
        refine Function.failsWith_apply limits (fun cause hcause => ?_) fun o ho d hd => ?_
        · rw [List.length_map] at hcause
          exact ⟨args, mem_parts_call.mpr (.inl rfl), hcause⟩
        · obtain ⟨arg, harg, rfl⟩ := List.mem_map.mp ho
          obtain ⟨args', hpart, hcause⟩ := ih arg harg hd
          exact ⟨args', mem_parts_call.mpr (.inr ⟨arg, harg, hpart⟩), hcause⟩
      exact hfails err h

theorem Built.evaluate_ne_wrongCount {e : Expression} (he : e.Built) (limits : Limits) (d : Document) (g : Function)
    (k : Nat) : e.evaluate limits d ≠ .error ⟨g, .wrongCount k⟩ := by
  intro h
  obtain ⟨args, hpart, -, hcount⟩ := exists_origin limits d h
  exact hcount (he.accepts hpart)

/-- **Errors come from calls.**  An error of an evaluation names a function that is called in the expression, with a
cause that this call can raise.  Expressions that are built with checks are never faulted for a number of arguments,
and a call with an accepted number always finds its case: it fails with an error of an operand or with one of its
own, but not for want of a case. -/
theorem errors_come_from_calls (limits : Limits) :
    (∀ (d : Document) (e : Expression) (err : EvalError), e.evaluate limits d = .error err →
      ∃ f args, call f args ∈ e.parts ∧ err.function = f ∧ f.CanRaise args.length err.cause) ∧
      (∀ (d : Document) (e : Expression), e.Built → ∀ g k, e.evaluate limits d ≠ .error ⟨g, .wrongCount k⟩) ∧
      ∀ (f : Function) (args : List Outcome), f.arity.Accepts args.length →
        ∀ err, f.applyAccepted limits args = .error err →
          .error err ∈ args ∨
            err.function = f ∧ f.CanRaise args.length err.cause ∧ ∀ k, err.cause ≠ .wrongCount k := by
  refine ⟨fun d e err h => ?_, fun d e he => he.evaluate_ne_wrongCount limits d, fun f args h err herr => ?_⟩
  · obtain ⟨args, hpart, hcause⟩ := exists_origin limits d h
    exact ⟨err.function, args, hpart, rfl, hcause⟩
  · exact Function.applyAccepted_eq_error limits h herr

/-- The negation of a quotient whose divisor is zero. -/
def failingQuotient : Expression :=
  call (.logical .not) [call (.arithmetic .divide) [literal (.integer 1), literal (.integer 0)]]

/-- The error names the quotient, which raises it, and not the negation that hands it on. -/
theorem errors_come_from_calls_below_negation :
    failingQuotient.Built ∧
      failingQuotient.evaluate {} ⟨⟨["c", "d"]⟩, [], none⟩ = .error ⟨.arithmetic .divide, .divisionByZero⟩ ∧
      (∃ f args, call f args ∈ failingQuotient.parts ∧ .arithmetic .divide = f ∧
        f.CanRaise args.length .divisionByZero) ∧
      (∀ g k, failingQuotient.evaluate {} ⟨⟨["c", "d"]⟩, [], none⟩ ≠ .error ⟨g, .wrongCount k⟩) ∧
      (Function.arithmetic .divide).applyAccepted {} [.value (.integer 1), .value (.integer 0)] =
        .error ⟨.arithmetic .divide, .divisionByZero⟩ ∧
      (Function.arithmetic .divide).CanRaise 2 .divisionByZero := by
  obtain ⟨horigin, hbuilt, hcase⟩ := errors_come_from_calls {}
  have hquotient : failingQuotient.evaluate {} ⟨⟨["c", "d"]⟩, [], none⟩ =
      .error ⟨.arithmetic .divide, .divisionByZero⟩ := by rfl
  have hchecked : failingQuotient.Built := by
    refine .of_accepts rfl fun arg harg => ?_
    obtain rfl := List.mem_singleton.mp harg
    refine .of_accepts rfl fun arg harg => ?_
    obtain rfl | rfl := List.mem_pair.mp harg
    · exact .literal _
    · exact .literal _
  have hraised : (Function.arithmetic .divide).applyAccepted {} [.value (.integer 1), .value (.integer 0)] =
      .error ⟨.arithmetic .divide, .divisionByZero⟩ := by rfl
  obtain hoperand | ⟨-, hown, -⟩ := hcase _ _ (by decide) _ hraised
  · simp at hoperand
  · exact ⟨hchecked, hquotient, horigin _ _ _ hquotient, hbuilt _ _ hchecked, hraised, hown⟩

end Expression

end DocumentQuery
