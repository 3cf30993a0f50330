import DocumentQuery.Function.Apply
import DocumentQuery.Proofs.Yields

/-! # What functions return

Most functions of the expression language return a scalar: a null, or a value that nests no others and is no
timestamp.  `Outcome.IsScalar` says so, and the lemmas below say it of arithmetic, comparison, texts, vectors, the
connectives and the questions about outcomes.  What is left are the functions that hand on what they are given
(`Logical.choice_elim`, `Logical.extreme_eq_or_mem`, `TypeCheck.apply_ifError_mem_or_isError`), those that put it
together, and those that make timestamps.

The functions of values answer or fail, and `Yields` speaks of their answers; the functions that look at outcomes
return the outcome of an error in that case (`Outcome.IsScalarOrError`).  A strict function returns the first error
of its operands, a null, or its result on their values (`Function.applyStrict_cases`). -/

namespace DocumentQuery

/-- A value that is not the null value, nests no others and is no timestamp. -/
def Value.IsScalar (v : Value) : Prop :=
  v ≠ .null ∧ v.array? = none ∧ v.map? = none ∧ v.timestamp? = none

namespace Outcome

/-- A null, or a scalar value. -/
def IsScalar : Outcome → Prop
  | value v => v.IsScalar
  | null => True
  | unset | error _ => False

/-- A scalar outcome, or an error. -/
def IsScalarOrError (o : Outcome) : Prop := o.isError ∨ o.IsScalar

theorem isScalar_integer (i : Int64) : IsScalar (value (.integer i)) := ⟨nofun, rfl, rfl, rfl⟩

theorem isScalar_double (d : Double) : IsScalar (value (.double d)) := ⟨nofun, rfl, rfl, rfl⟩

theorem isScalar_string (s : String) : IsScalar (value (.string s)) := ⟨nofun, rfl, rfl, rfl⟩

theorem isScalar_bytes (b : List UInt8) : IsScalar (value (.bytes b)) := ⟨nofun, rfl, rfl, rfl⟩

theorem isScalar_boolean (b : Bool) : IsScalar (boolean b) := ⟨nofun, rfl, rfl, rfl⟩

theorem isScalar_ofTruth (b : Option Bool) : IsScalar (ofTruth b) := by
  cases b with
  | none => trivial
  | some b => exact isScalar_boolean b

theorem isScalarOrError_error (e : EvalError) : IsScalarOrError (error e) := .inl rfl

theorem isScalarOrError_null : IsScalarOrError null := .inr trivial

theorem isScalarOrError_boolean (b : Bool) : IsScalarOrError (boolean b) := .inr (isScalar_boolean b)

end Outcome

open Outcome (IsScalar IsScalarOrError)

/-! ### Functions of values -/

namespace Arithmetic

theorem yields_integer (n : Except Cause Int64) : Yields IsScalar (integer n) :=
  .map_of_forall Outcome.isScalar_integer

theorem yields_double (x : Except Cause Double) : Yields IsScalar (double x) :=
  .map_of_forall Outcome.isScalar_double

theorem yields_onTwo (onIntegers : Int → Int → Except Cause Int64) (onDoubles : Double → Double → Double)
    (a b : Value) : Yields IsScalar (onTwo onIntegers onDoubles a b) := by
  unfold onTwo
  split
  · exact yields_integer _
  · exact yields_double _

theorem yields_rounded (round : Double → Double) (v : Value) : Yields IsScalar (rounded round v) := by
  unfold rounded
  split
  · exact .ok (Outcome.isScalar_integer _)
  · exact yields_double _

theorem yields_absolute (v : Value) : Yields IsScalar (absolute v) := by
  unfold absolute
  split
  · exact yields_integer _
  · exact yields_double _

theorem yields_scalar (op : Arithmetic) (args : List Value) : Yields IsScalar (op.apply args) := by
  unfold apply
  split
  -- Two numbers, doubles alone, the absolute value, the roundings, and a wrong count.
  case h_1 | h_2 | h_3 | h_4 | h_5 => exact yields_onTwo _ _ _ _
  case h_6 | h_7 | h_8 | h_9 | h_10 | h_11 => exact yields_double _
  case h_12 => exact yields_absolute _
  case h_13 | h_14 | h_15 => exact yields_rounded _ _
  case h_16 => exact .error

end Arithmetic

namespace Comparison

theorem yields_scalar (op : Comparison) (args : List Value) : Yields IsScalar (op.apply args) := by
  unfold apply
  split
  -- Equality, the inequalities, membership, and a wrong count.
  case h_1 | h_2 => exact .ok (Outcome.isScalar_ofTruth _)
  case h_3 | h_4 | h_5 | h_6 => exact .ok (Outcome.isScalar_boolean _)
  case h_7 | h_8 => exact .map_of_forall fun _ => Outcome.isScalar_ofTruth _
  case h_9 => exact .error

end Comparison

namespace StringFunction

theorem yields_piece (text position : Value) (length : Option Value) :
    Yields Value.IsScalar (piece text position length) := by
  unfold piece
  refine .bind_of_forall fun p => .bind_of_forall fun l => ?_
  split
  case h_1 => exact .bind_of_forall fun _ => .ok (Outcome.isScalar_string _)
  case h_2 => exact .bind_of_forall fun _ => .ok (Outcome.isScalar_bytes _)
  case h_3 => exact .error

theorem yields_reversed (v : Value) : Yields Value.IsScalar (reversed v) := by
  unfold reversed
  split
  case h_1 => exact .ok (Outcome.isScalar_string _)
  case h_2 => exact .ok (Outcome.isScalar_bytes _)
  case h_3 => exact .error

theorem yields_matched (limits : Limits) (form : String → String) (a b : Value) :
    Yields IsScalar (matched limits form a b) := by
  unfold matched
  refine .bind_of_forall fun s => .bind_of_forall fun pattern => ?_
  split
  · exact .ok (Outcome.isScalar_boolean _)
  · exact .error

theorem yields_test (op : List Char → List Char → Bool) (a b : Value) : Yields IsScalar (test op a b) :=
  .bind_of_forall fun _ => .bind_of_forall fun _ => .ok (Outcome.isScalar_boolean _)

theorem yields_count (n : Except Cause Nat) : Yields IsScalar (count n) :=
  .map_of_forall fun _ => Outcome.isScalar_integer _

theorem yields_mapText (op : String → String) (v : Value) : Yields IsScalar (mapText op v) :=
  .map_of_forall fun _ => Outcome.isScalar_string _

/-- Every function of texts but concatenation, which also joins arrays. -/
theorem yields_scalar (limits : Limits) {op : StringFunction} (hop : op ≠ .concat) (args : List Value) :
    Yields IsScalar (op.apply limits args) := by
  have hvalue {r : Except Cause Value} (hr : Yields Value.IsScalar r) : Yields IsScalar (r.map .value) :=
    hr.map fun _ h => h
  unfold apply
  split
  -- Concatenation, the counts, texts from texts, patterns, tests, the pieces, reversal, and a wrong count.
  case h_1 => exact absurd rfl hop
  case h_2 | h_3 => exact yields_count _
  case h_4 | h_5 | h_6 | h_7 | h_8 => exact yields_mapText _ _
  case h_9 | h_10 | h_11 => exact yields_matched _ _ _ _
  case h_12 | h_13 | h_14 => exact yields_test _ _ _
  case h_15 | h_16 => exact hvalue (yields_piece _ _ _)
  case h_17 => exact hvalue (yields_reversed _)
  case h_18 => exact .error

end StringFunction

namespace VectorFunction

theorem yields_scalar (op : VectorFunction) (args : List Value) : Yields IsScalar (op.apply args) := by
  unfold apply
  split
  case h_1 => exact .map_of_forall fun _ => Outcome.isScalar_integer _
  case h_2 | h_3 => exact .map_of_forall fun _ => Outcome.isScalar_double _
  case h_4 => exact .bind_of_forall fun _ => .bind_of_forall fun _ => .ok (Outcome.isScalar_double _)
  case h_5 => exact .error

end VectorFunction

/-! ### Functions of outcomes -/

namespace Logical

theorem isScalarOrError_junction (f : Function) (decider : Bool) (p : Pending) (args : List Outcome) :
    IsScalarOrError (junction f decider p args) := by
  fun_induction junction f decider p args with
  | case1 p =>
      unfold Pending.close
      split
      · exact Outcome.isScalarOrError_error _
      · split_ifs
        · exact Outcome.isScalarOrError_null
        · exact Outcome.isScalarOrError_boolean _
  | case2 => exact Outcome.isScalarOrError_boolean _
  | case3 p b rest hb ih => exact ih
  | case4 p rest ih => exact ih
  | case5 p o rest _ _ ih => exact ih

theorem isScalarOrError_parity (f : Function) (odd null : Bool) (args : List Outcome) :
    IsScalarOrError (parity f odd null args) := by
  fun_induction parity f odd null args with
  | case1 => exact Outcome.isScalarOrError_null
  | case2 => exact Outcome.isScalarOrError_boolean _
  | case3 odd null b rest ih => exact ih
  | case4 odd null rest ih => exact ih
  | case5 => exact Outcome.isScalarOrError_error _

theorem isScalarOrError_negation (f : Function) (o : Outcome) : IsScalarOrError (negation f o) := by
  unfold negation
  split
  · exact Outcome.isScalarOrError_boolean _
  · exact Outcome.isScalarOrError_null
  · exact Outcome.isScalarOrError_error _

/-- The conditional hands on one of its branches, or complains about its condition. -/
theorem choice_elim {P : Outcome → Prop} {f : Function} {condition ifTrue ifFalse : Outcome} (htrue : P ifTrue)
    (hfalse : P ifFalse) (hcomplaint : P (.error (complaint f condition))) :
    P (choice f condition ifTrue ifFalse) := by
  unfold choice
  split
  · split_ifs
    · exact htrue
    · exact hfalse
  · exact hfalse
  · exact hcomplaint

/-- An extreme is the best value so far, or an operand that is set. -/
theorem extreme_eq_or_mem (wanted : Ordering) (best : Option Value) (args : List Outcome) :
    extreme wanted best args = ofBest best ∨
      extreme wanted best args ∈ args ∧ extreme wanted best args ≠ .unset := by
  fun_induction extreme wanted best args with
  | case1 => exact .inl rfl
  | case2 v rest current ih =>
      rw [List.mem_cons]
      obtain heq | ⟨hmem, hset⟩ := ih
      · rw [heq]
        split_ifs
        · exact .inr ⟨.inl rfl, nofun⟩
        · exact .inl rfl
      · exact .inr ⟨.inr hmem, hset⟩
  | case3 v rest ih =>
      rw [List.mem_cons]
      obtain heq | ⟨hmem, hset⟩ := ih
      · exact .inr ⟨.inl heq, heq ▸ nofun⟩
      · exact .inr ⟨.inr hmem, hset⟩
  | case4 => exact .inr ⟨List.mem_cons_self, nofun⟩
  | case5 best o rest _ _ ih => exact ih.imp_right fun ⟨hmem, hset⟩ => ⟨List.mem_cons_of_mem _ hmem, hset⟩

end Logical

namespace TypeCheck

theorem isScalarOrError_unlessError {answer : Outcome → Outcome} (h : ∀ o, IsScalarOrError (answer o))
    (o : Outcome) : IsScalarOrError (unlessError answer o) := by
  unfold unlessError
  split
  · exact Outcome.isScalarOrError_error _
  · exact h _

theorem isScalarOrError_whenSet (f : Function) {answer : Outcome → Outcome}
    (h : ∀ o, IsScalarOrError (answer o)) (o : Outcome) : IsScalarOrError (whenSet f answer o) := by
  unfold whenSet
  split
  · exact Outcome.isScalarOrError_error _
  · exact h _

theorem isScalarOrError_nanTest (f : Function) (wanted : Bool) (o : Outcome) :
    IsScalarOrError (nanTest f wanted o) := by
  unfold nanTest
  split
  · split_ifs
    · exact Outcome.isScalarOrError_boolean _
    · exact Outcome.isScalarOrError_error _
  · exact Outcome.isScalarOrError_null

/-- `ifError` hands on an operand. -/
theorem apply_ifError_mem_or_isError (args : List Outcome) :
    apply .ifError args ∈ args ∨ (apply .ifError args).isError := by
  match args with
  | [a, b] =>
      have happly : apply .ifError [a, b] = if a.isError then b else a := rfl
      rw [happly]
      split_ifs <;> simp
  | [] | [_] | _ :: _ :: _ :: _ => exact .inr rfl

/-- Every other question about outcomes has an answer of its own. -/
theorem isScalarOrError_apply {op : TypeCheck} (hop : op ≠ .ifError) (args : List Outcome) :
    IsScalarOrError (op.apply args) := by
  unfold apply
  split
  -- An error is asked for, or replaced by the other operand; then the questions, and a wrong count.
  case h_1 => exact Outcome.isScalarOrError_boolean _
  case h_2 => exact absurd rfl hop
  case h_3 | h_4 => exact isScalarOrError_unlessError (fun _ => Outcome.isScalarOrError_boolean _) _
  case h_5 | h_6 => exact isScalarOrError_whenSet _ (fun _ => Outcome.isScalarOrError_boolean _) _
  case h_7 | h_8 => exact isScalarOrError_whenSet _ (isScalarOrError_nanTest _ _) _
  case h_9 => exact Outcome.isScalarOrError_error _

end TypeCheck

theorem ArrayFunction.ofItems_isError_or_eq_array (f : Function) (items : List Value) (args : List Outcome) :
    (ofItems f items args).isError ∨ ∃ items', ofItems f items args = .value (.array items') := by
  induction args generalizing items with
  | nil => exact .inr ⟨_, rfl⟩
  | cons o rest ih =>
      unfold ofItems
      split
      · exact .inl rfl
      · exact ih _

theorem MapFunction.ofPairs_isError_or_eq_map (f : Function) (fields : Record) (args : List Outcome) :
    (ofPairs f fields args).isError ∨ ∃ fields', ofPairs f fields args = .value (.map fields') := by
  fun_induction ofPairs f fields args with
  | case1 | case2 => exact .inl rfl
  | case3 fields key value rest hargument k hkey ih => exact ih
  | case4 => exact .inr ⟨_, rfl⟩

/-! ### Strict functions -/

namespace Function

variable {args : List Outcome}

theorem eq_map_of_valuesOf {values : List Value} (h : valuesOf args = some values) :
    args = values.map .value := by
  induction args generalizing values with
  | nil =>
      cases h
      rfl
  | cons o rest ih =>
      cases o with
      | value v =>
          obtain ⟨others, hothers, rfl⟩ := Option.map_eq_some_iff.mp h
          rw [ih hothers, List.map_cons]
      | null | unset | error _ => cases h

theorem applyStrict_cases (limits : Limits) (f : Function) (args : List Outcome) :
    (∃ e, args.findSome? (Outcome.argumentError? f) = some e ∧ f.applyStrict limits args = .error e) ∨
      f.applyStrict limits args = .null ∨
      ∃ values, args = values.map .value ∧
        f.applyStrict limits args = .ofResult f (f.onValues limits values) := by
  unfold applyStrict operands
  cases args.findSome? (Outcome.argumentError? f) with
  | some e => exact .inl ⟨e, rfl, rfl⟩
  | none =>
      cases hvalues : valuesOf args with
      | none => exact .inr (.inl rfl)
      | some values => exact .inr (.inr ⟨values, eq_map_of_valuesOf hvalues, rfl⟩)

end Function

end DocumentQuery
