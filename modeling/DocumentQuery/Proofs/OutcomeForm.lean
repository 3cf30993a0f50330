import DocumentQuery.BuiltinEngine.Build
import DocumentQuery.Expression.Evaluate
import DocumentQuery.Proofs.NestedValues
import DocumentQuery.Proofs.FunctionResults

/-! # The form of outcomes

An outcome has one form for a null: it is `null`, and never the null value.  Values come out of documents, literals,
arrays and maps, where nulls are values, so every function that hands on what it finds there has to turn them.
`Outcome.AnswerOf f` says what the function `f` may answer on operands that have values: a value other than the null
value, null, or, of the two functions that look something up and the two that hand on an operand, an outcome that is
not set.  Every function gives an answer of this form or an error (`Outcome.Answers`), as long as its operands are not
the null value (`Function.answers_apply`); so by induction over the expression evaluation keeps to the form.

An error is no answer: the functions of values fail by a cause, and what they answer is never an error
(`Function.yields_answer`). -/

namespace DocumentQuery

namespace Function

/-- The functions whose outcome may be one that is not set. -/
def MayBeUnset (f : Function) : Prop := f ∈ [array .get, map .get, logical .cond, typeCheck .ifError]

end Function

namespace Outcome

/-- What a function may answer. -/
def AnswerOf (f : Function) : Outcome → Prop
  | value v => v ≠ .null
  | null => True
  | unset => f.MayBeUnset
  | error _ => False

/-- An answer, or an error. -/
def Answers (f : Function) (o : Outcome) : Prop := o.isError ∨ AnswerOf f o

variable {f : Function} {o : Outcome}

theorem answerOf_of_isScalar (h : o.IsScalar) : AnswerOf f o := by
  cases o with
  | value v => exact h.1
  | null => trivial
  | unset | error _ => cases h

theorem answers_of_isScalarOrError (h : o.IsScalarOrError) : Answers f o :=
  h.imp_right answerOf_of_isScalar

/-- What is found becomes an outcome of the right form. -/
theorem answerOf_ofValue (v : Value) : AnswerOf f (ofValue v) := by
  cases v <;> first
    | trivial
    | exact nofun

theorem AnswerOf.isError_eq_false (h : AnswerOf f o) : o.isError = false := by
  cases o with
  | error _ => cases h
  | _ => rfl

/-- An outcome that is handed on has the form, if it is set. -/
theorem answers_of_set (hset : o ≠ unset) (ho : o ≠ value .null) : Answers f o := by
  cases o with
  | value v => exact .inr fun hv => ho (hv ▸ rfl)
  | null => exact .inr trivial
  | unset => exact absurd rfl hset
  | error _ => exact .inl rfl

/-- Where the outcome may be unset, any outcome that is handed on has the form. -/
theorem answers_of_ne_value_null (hf : f.MayBeUnset) (ho : o ≠ value .null) : Answers f o := by
  by_cases hset : o = unset
  · exact .inr (hset ▸ hf)
  · exact answers_of_set hset ho

end Outcome

open Outcome (AnswerOf Answers answerOf_of_isScalar answers_of_isScalarOrError)

/-! ### Functions of values -/

namespace ArrayFunction

theorem answerOf_itemAt (items : List Value) (index : Int) : AnswerOf (.array .get) (itemAt items index) := by
  unfold itemAt
  split
  · exact Outcome.answerOf_ofValue _
  · exact List.mem_cons_self

theorem yields_answer (op : ArrayFunction) (args : List Value) :
    Yields (AnswerOf (.array op)) (op.apply args) := by
  unfold apply
  split
  -- Membership of one item and of several, length, concatenation, reversal, access, and a wrong count.
  case h_1 => exact .map_of_forall fun _ => answerOf_of_isScalar (Outcome.isScalar_ofTruth _)
  case h_2 | h_3 =>
    exact .bind_of_forall fun _ => .bind_of_forall fun _ =>
      .ok (answerOf_of_isScalar (Outcome.isScalar_ofTruth _))
  case h_4 => exact .map_of_forall fun _ => answerOf_of_isScalar (Outcome.isScalar_integer _)
  case h_5 | h_6 => exact .map_of_forall fun _ => nofun
  case h_7 => exact .bind_of_forall fun _ => .bind_of_forall fun _ => .ok (answerOf_itemAt _ _)
  case h_8 => exact .error

end ArrayFunction

namespace StringFunction

theorem yields_concatenated_ne_null (args : List Value) : Yields (· ≠ .null) (concatenated args) := by
  unfold concatenated
  split
  case h_1 | h_5 => exact .error
  case h_2 | h_3 | h_4 => exact .map_of_forall fun _ => nofun

theorem yields_answer (limits : Limits) (op : StringFunction) (args : List Value) :
    Yields (AnswerOf (.string op)) (op.apply limits args) := by
  by_cases hop : op = .concat
  · subst hop
    exact (yields_concatenated_ne_null args).map fun _ h => h
  · exact (yields_scalar limits hop args).mono fun _ => answerOf_of_isScalar

end StringFunction

namespace MapFunction

theorem answerOf_look (fields : Record) (key : String) : AnswerOf (.map .get) (look fields key) := by
  unfold look
  split
  · exact Outcome.answerOf_ofValue _
  · exact List.mem_cons_of_mem _ List.mem_cons_self

theorem yields_answer (op : MapFunction) (args : List Value) : Yields (AnswerOf (.map op)) (op.apply args) := by
  unfold apply
  split
  -- Look-up, merging, removal, and a wrong count.
  case h_1 => exact .bind_of_forall fun _ => .bind_of_forall fun _ => .ok (answerOf_look _ _)
  case h_2 => exact .map_of_forall fun _ => nofun
  case h_3 => exact .bind_of_forall fun _ => .bind_of_forall fun _ => .ok nofun
  case h_4 => exact .error

end MapFunction

namespace TimestampFunction

theorem yields_answer_inRange (f : Function) (t : Option Timestamp) : Yields (AnswerOf f) (inRange t) := by
  unfold inRange
  split
  · exact .ok nofun
  · exact .error

theorem yields_answer (op : TimestampFunction) (args : List Value) :
    Yields (AnswerOf (.timestamp op)) (op.apply args) := by
  unfold apply
  split
  -- Counts to timestamps, timestamps to counts, the shifts, and a wrong count.
  case h_1 | h_2 | h_3 => exact .bind_of_forall fun _ => yields_answer_inRange _ _
  case h_4 | h_5 | h_6 => exact .map_of_forall fun _ => answerOf_of_isScalar (Outcome.isScalar_integer _)
  case h_7 | h_8 =>
    exact .bind_of_forall fun _ => .bind_of_forall fun _ => .bind_of_forall fun _ =>
      yields_answer_inRange _ _
  case h_9 => exact .error

end TimestampFunction

namespace Function

/-- What a function of values answers has the form of an answer; in particular it is no error. -/
theorem yields_answer (limits : Limits) (f : Function) (args : List Value) :
    Yields (AnswerOf f) (f.onValues limits args) := by
  cases f with
  | arithmetic op => exact (op.yields_scalar args).mono fun _ => answerOf_of_isScalar
  | comparison op => exact (op.yields_scalar args).mono fun _ => answerOf_of_isScalar
  | array op => exact op.yields_answer args
  | string op => exact op.yields_answer limits args
  | map op => exact op.yields_answer args
  | timestamp op => exact op.yields_answer args
  | vector op => exact (op.yields_scalar args).mono fun _ => answerOf_of_isScalar
  | logical _ | typeCheck _ => exact .error

theorem answers_applyStrict (limits : Limits) (f : Function) (args : List Outcome) :
    Answers f (f.applyStrict limits args) := by
  obtain ⟨e, -, heq⟩ | heq | ⟨values, -, heq⟩ := applyStrict_cases limits f args
  · exact .inl (heq ▸ rfl)
  · exact .inr (heq ▸ trivial)
  · rw [heq]
    cases hresult : f.onValues limits values with
    | error cause => exact .inl rfl
    | ok o => exact .inr (yields_answer limits f values o hresult)

end Function

/-! ### Functions of outcomes -/

namespace Logical

variable {args : List Outcome}

theorem answers_choice {condition ifTrue ifFalse : Outcome} (htrue : ifTrue ≠ .value .null)
    (hfalse : ifFalse ≠ .value .null) (f : Function) :
    Answers (.logical .cond) (choice f condition ifTrue ifFalse) := by
  have hcond : (Function.logical .cond).MayBeUnset := by simp [Function.MayBeUnset]
  exact choice_elim (Outcome.answers_of_ne_value_null hcond htrue)
    (Outcome.answers_of_ne_value_null hcond hfalse) (.inl rfl)

theorem answers_extreme (wanted : Ordering) (f : Function) (h : ∀ o ∈ args, o ≠ .value .null) :
    Answers f (extreme wanted none args) := by
  obtain hnone | ⟨hmem, hset⟩ := extreme_eq_or_mem wanted none args
  · exact .inr (hnone ▸ trivial)
  · exact Outcome.answers_of_set hset (h _ hmem)

theorem answers_apply (op : Logical) (h : ∀ o ∈ args, o ≠ .value .null) :
    Answers (.logical op) (op.apply args) := by
  unfold apply
  split
  -- The connectives, the conditional, the extremes, and a wrong count.
  case h_1 | h_2 => exact answers_of_isScalarOrError (isScalarOrError_junction _ _ _ _)
  case h_3 => exact answers_of_isScalarOrError (isScalarOrError_parity _ _ _ _)
  case h_4 => exact answers_of_isScalarOrError (isScalarOrError_negation _ _)
  case h_5 a b c => exact answers_choice (h b (by simp)) (h c (by simp)) _
  case h_6 | h_7 => exact answers_extreme _ _ h
  case h_8 => exact .inl rfl

end Logical

namespace TypeCheck

theorem answers_apply (op : TypeCheck) {args : List Outcome} (h : ∀ o ∈ args, o ≠ .value .null) :
    Answers (.typeCheck op) (op.apply args) := by
  by_cases hop : op = .ifError
  · subst hop
    obtain hmem | herror := apply_ifError_mem_or_isError args
    · exact Outcome.answers_of_ne_value_null (by simp [Function.MayBeUnset]) (h _ hmem)
    · exact .inl herror
  · exact answers_of_isScalarOrError (isScalarOrError_apply hop args)

end TypeCheck

theorem ArrayFunction.answers_ofItems (f : Function) (items : List Value) (args : List Outcome) :
    Answers f (ofItems f items args) := by
  refine (ofItems_isError_or_eq_array f items args).imp_right fun ⟨items', heq⟩ => ?_
  rw [heq]
  exact nofun

theorem MapFunction.answers_ofPairs (f : Function) (fields : Record) (args : List Outcome) :
    Answers f (ofPairs f fields args) := by
  refine (ofPairs_isError_or_eq_map f fields args).imp_right fun ⟨fields', heq⟩ => ?_
  rw [heq]
  exact nofun

/-- A function whose operands are not the null value gives an answer of its form, or an error. -/
theorem Function.answers_apply (limits : Limits) (f : Function) {args : List Outcome}
    (h : ∀ o ∈ args, o ≠ .value .null) : Answers f (f.apply limits args) := by
  unfold apply
  split_ifs
  · unfold applyAccepted
    split
    · exact Logical.answers_apply _ h
    · exact TypeCheck.answers_apply _ h
    · exact ArrayFunction.answers_ofItems _ _ _
    · exact MapFunction.answers_ofPairs _ _ _
    · exact answers_applyStrict limits f args
  · exact .inl rfl

/-! ### Evaluation -/

theorem Document.fieldOutcome_ne_value_null (d : Document) (path : FieldPath) :
    d.fieldOutcome path ≠ .value .null := by
  unfold fieldOutcome
  split_ifs
  · exact nofun
  · split
    · exact Outcome.ofValue_ne_value_null _
    · exact nofun

namespace Expression

/-- The expressions whose outcome may be one that is not set. -/
def MayBeUnset : Expression → Prop
  | field _ => True
  | literal _ => False
  | call f _ => f.MayBeUnset

variable (limits : Limits) (d : Document)

/-- **Evaluation never gives the null value.** -/
theorem evaluate_ne_value_null (e : Expression) : e.evaluate limits d ≠ .value .null := by
  induction e using nested_induction with
  | field path => exact d.fieldOutcome_ne_value_null path
  | literal v => exact Outcome.ofValue_ne_value_null v
  | call f args ih =>
      rw [evaluate_call]
      intro hnull
      have hform := f.answers_apply limits (List.forall_mem_map.mpr ih)
      rw [hnull] at hform
      obtain herror | hanswer := hform
      · cases herror
      · exact hanswer rfl

theorem mayBeUnset_of_evaluate {e : Expression} (h : e.evaluate limits d = .unset) : e.MayBeUnset := by
  cases e with
  | field path => trivial
  | literal v => cases v <;> cases h
  | call f args =>
      rw [evaluate_call] at h
      have hform := f.answers_apply limits
        (List.forall_mem_map.mpr fun e (_ : e ∈ args) => evaluate_ne_value_null limits d e)
      rw [h] at hform
      obtain herror | hanswer := hform
      · cases herror
      · exact hanswer

/-- A null that is stored in a field is null. -/
theorem evaluate_field_null {path : FieldPath} (hid : ¬ path.isDocumentId) (hnull : d.field? path = some .null) :
    (field path).evaluate limits d = .null := by
  rw [evaluate, Document.fieldOutcome, if_neg hid, hnull]
  rfl

variable {limits d} {a b : Expression}

/-- A null that is found in an array is null. -/
theorem evaluate_get_null {items : List Value} {index : Int64} {position : Nat}
    (ha : a.evaluate limits d = .value (.array items)) (hb : b.evaluate limits d = .value (.integer index))
    (hposition : ArrayFunction.position? items.length index.toInt = some position)
    (hnull : items[position]? = some .null) : (call (.array .get) [a, b]).evaluate limits d = .null := by
  have hcall : (call (.array .get) [a, b]).evaluate limits d = ArrayFunction.itemAt items index.toInt := by
    simp only [evaluate, evaluateAll, ha, hb]
    rfl
  rw [hcall, ArrayFunction.itemAt, hposition, Option.bind_some, hnull]
  rfl

/-- A null that is found in a map is null. -/
theorem evaluate_mapGet_null {fields : Record} {key : String} (ha : a.evaluate limits d = .value (.map fields))
    (hb : b.evaluate limits d = .value (.string key)) (hnull : Keyed.find? key fields = some .null) :
    (call (.map .get) [a, b]).evaluate limits d = .null := by
  have hcall : (call (.map .get) [a, b]).evaluate limits d = MapFunction.look fields key := by
    simp only [evaluate, evaluateAll, ha, hb]
    rfl
  rw [hcall, MapFunction.look, hnull]
  rfl

/-- **Outcomes have one form for null**: evaluation never gives the null value, it leaves unset at most a field,
a look-up, a conditional or `ifError`, and a null that is written down, stored in a field, or found in an array or
a map is the outcome `null`. -/
theorem outcomes_have_one_form_for_null (limits : Limits) (d : Document) :
    (∀ e : Expression, e.evaluate limits d ≠ .value .null) ∧
      (∀ e : Expression, e.evaluate limits d = .unset → e.MayBeUnset) ∧
      (literal .null).evaluate limits d = .null ∧
      (∀ path : FieldPath, ¬ path.isDocumentId → d.field? path = some .null →
        (field path).evaluate limits d = .null) ∧
      (∀ (a b : Expression) (items : List Value) (index : Int64) (position : Nat),
        a.evaluate limits d = .value (.array items) → b.evaluate limits d = .value (.integer index) →
        ArrayFunction.position? items.length index.toInt = some position → items[position]? = some .null →
        (call (.array .get) [a, b]).evaluate limits d = .null) ∧
      ∀ (a b : Expression) (fields : Record) (key : String),
        a.evaluate limits d = .value (.map fields) → b.evaluate limits d = .value (.string key) →
        Keyed.find? key fields = some .null → (call (.map .get) [a, b]).evaluate limits d = .null :=
  ⟨evaluate_ne_value_null limits d, fun _ => mayBeUnset_of_evaluate limits d, rfl,
    fun _ => evaluate_field_null limits d, fun _ _ _ _ _ => evaluate_get_null,
    fun _ _ _ _ => evaluate_mapGet_null⟩

/-- A document whose nulls stand in a field, in an array and in a map. -/
def threeNulls : Document :=
  ⟨⟨["c", "d"]⟩, [("a", .array [.integer 1, .null]), ("m", .map [("k", .null)]), ("n", .null)], none⟩

/-- Its last item, its entry and its field are all null, and a position behind the array is unset. -/
theorem outcomes_have_one_form_for_null_at_depth :
    (call (.array .get) [field ⟨["a"]⟩, literal (.integer (-1))]).evaluate {} threeNulls = .null ∧
      (call (.map .get) [field ⟨["m"]⟩, literal (.string "k")]).evaluate {} threeNulls = .null ∧
      (field ⟨["n"]⟩).evaluate {} threeNulls = .null ∧
      (call (.array .get) [field ⟨["a"]⟩, literal (.integer 2)]).evaluate {} threeNulls = .unset ∧
      (call (.array .get) [field ⟨["a"]⟩, literal (.integer 2)]).MayBeUnset := by
  obtain ⟨-, hunset, -, hfield, hitem, hentry⟩ := outcomes_have_one_form_for_null {} threeNulls
  have hbehind : (call (.array .get) [field ⟨["a"]⟩, literal (.integer 2)]).evaluate {} threeNulls = .unset := by
    rfl
  refine ⟨?_, ?_, hfield _ (by decide) rfl, hbehind, hunset _ hbehind⟩
  · exact hitem _ _ [.integer 1, .null] (-1) 1 rfl rfl (by decide) rfl
  · exact hentry _ _ [("k", .null)] "k" rfl rfl rfl

end Expression

end DocumentQuery
