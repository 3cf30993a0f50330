import DocumentQuery.Expression.Evaluate
import DocumentQuery.Proofs.NestedValues
import DocumentQuery.Proofs.FunctionResults

/-! # Evaluation keeps timestamps in range

Every function of the expression language returns a scalar, what its operands hold, or a timestamp that it has
checked (`TimestampFunction.yields_inRange`).  So if the timestamps nested in the operands lie in the
range of timestamps, those in the outcome do (`Function.inRange_apply`), and by induction over the expression the
same holds of evaluation on a document (`Expression.inRange_evaluate`).

`Yields` states this of the strict functions, which answer or fail; the functions that look at outcomes return an
outcome in any case.  Of an array or a map the fact to carry is the one about its items or fields, so the steps
that take arrays and maps apart and put them together are stated for lists of values
(`Value.yields_toArray`, `Value.yields_toMap`). -/

namespace DocumentQuery

open Value (HasValidTimestamp)

/-! ### Values and records -/

namespace Value

/-- Nothing is asked of a value that is no timestamp and nests no values. -/
theorem everywhere_of_scalar {v : Value} (ha : v.array? = none) (hm : v.map? = none) (ht : v.timestamp? = none) :
    v.Everywhere HasValidTimestamp := by
  refine (everywhere_of_plain ha hm).mpr ?_
  cases v with
  | timestamp _ => cases ht
  | _ => trivial

theorem everywhere_timestamp {t : Timestamp} : (timestamp t).Everywhere HasValidTimestamp ↔ t.Valid :=
  everywhere_of_plain rfl rfl

theorem everywhere_items {items : List Value} :
    (array items).Everywhere HasValidTimestamp ↔ ∀ v ∈ items, v.Everywhere HasValidTimestamp :=
  everywhere_array.trans (and_iff_right trivial)

theorem everywhere_fields {fields : Record} :
    (map fields).Everywhere HasValidTimestamp ↔ ∀ f ∈ fields, f.2.Everywhere HasValidTimestamp :=
  everywhere_map.trans (and_iff_right trivial)

/-- What an operand is asked for is its content. -/
theorem yields_demand {α : Type} (expected : Expected) (content? : Value → Option α) (v : Value) :
    Yields (fun a => content? v = some a) (v.demand expected content?) := by
  unfold demand
  cases content? v with
  | none => exact .error
  | some a => exact .ok rfl

variable {v : Value}

theorem yields_toArray (h : v.Everywhere HasValidTimestamp) :
    Yields (fun items => ∀ w ∈ items, w.Everywhere HasValidTimestamp) v.toArray := by
  intro items hitems
  have hcontent := yields_demand _ _ _ _ hitems
  cases v <;> cases hcontent
  exact everywhere_items.mp h

theorem yields_toMap (h : v.Everywhere HasValidTimestamp) :
    Yields (fun fields : Record => ∀ f ∈ fields, f.2.Everywhere HasValidTimestamp) v.toMap := by
  intro fields hfields
  have hcontent := yields_demand _ _ _ _ hfields
  cases v <;> cases hcontent
  exact everywhere_fields.mp h

end Value

open Value

namespace Outcome

/-- The timestamps nested in an outcome are in range. -/
abbrev InRange (o : Outcome) : Prop := o.Everywhere HasValidTimestamp

theorem inRange_of_isScalar {o : Outcome} (h : o.IsScalar) : InRange o := by
  cases o with
  | value v => exact everywhere_value.mpr (everywhere_of_scalar h.2.1 h.2.2.1 h.2.2.2)
  | null => exact everywhere_null
  | unset | error _ => cases h

theorem inRange_of_isScalarOrError {o : Outcome} (h : o.IsScalarOrError) : InRange o := by
  rcases h with herror | hscalar
  · cases o with
    | error e => exact everywhere_error e
    | value _ | null | unset => cases herror
  · exact inRange_of_isScalar hscalar

theorem inRange_stored {o : Outcome} (h : InRange o) : (o.stored?.getD .null).Everywhere HasValidTimestamp := by
  cases o with
  | value v => exact everywhere_value.mp h
  | null | unset | error _ => exact everywhere_of_scalar rfl rfl rfl

end Outcome

open Outcome (InRange inRange_of_isScalar inRange_of_isScalarOrError)

/-! ### Functions of values -/

namespace ArrayFunction

variable {items args : List Value}

theorem yields_concatenated (h : ∀ v ∈ args, v.Everywhere HasValidTimestamp) :
    Yields (fun items => ∀ w ∈ items, w.Everywhere HasValidTimestamp) (concatenated args) := by
  induction args with
  | nil => exact .ok nofun
  | cons v rest ih =>
      obtain ⟨hv, hrest⟩ := List.forall_mem_cons.mp h
      unfold concatenated
      exact (yields_toArray hv).bind fun items hitems => (ih hrest).bind fun others hothers =>
        .ok (List.forall_mem_append.mpr ⟨hitems, hothers⟩)

theorem inRange_itemAt (h : ∀ v ∈ items, v.Everywhere HasValidTimestamp) (index : Int) :
    InRange (itemAt items index) := by
  unfold itemAt
  split
  case h_1 v hfound =>
    obtain ⟨i, -, hi⟩ := Option.bind_eq_some_iff.mp hfound
    exact Outcome.everywhere_ofValue (h v (List.mem_of_getElem? hi))
  case h_2 => exact Outcome.everywhere_unset

theorem yields_apply (op : ArrayFunction) (h : ∀ v ∈ args, v.Everywhere HasValidTimestamp) :
    Yields InRange (op.apply args) := by
  unfold apply
  split
  -- Membership of one item and of several, length, concatenation, reversal, access, and a wrong count.
  case h_1 => exact .map_of_forall fun _ => inRange_of_isScalar (Outcome.isScalar_ofTruth _)
  case h_2 | h_3 =>
    exact .bind_of_forall fun _ => .bind_of_forall fun _ =>
      .ok (inRange_of_isScalar (Outcome.isScalar_ofTruth _))
  case h_4 => exact .map_of_forall fun _ => inRange_of_isScalar (Outcome.isScalar_integer _)
  case h_5 =>
    exact (yields_concatenated h).map fun _ hitems => Outcome.everywhere_value.mpr (everywhere_items.mpr hitems)
  case h_6 a =>
    refine (yields_toArray (h a List.mem_cons_self)).map fun items hitems => ?_
    refine Outcome.everywhere_value.mpr (everywhere_items.mpr fun v hv => ?_)
    exact hitems v (List.mem_reverse.mp hv)
  case h_7 a b =>
    exact (yields_toArray (h a List.mem_cons_self)).bind fun _ hitems =>
      .bind_of_forall fun _ => .ok (inRange_itemAt hitems _)
  case h_8 => exact .error

end ArrayFunction

namespace StringFunction

variable {args : List Value}

theorem yields_concatArrays (h : ∀ v ∈ args, v.Everywhere HasValidTimestamp) :
    Yields (fun items => ∀ w ∈ items, w.Everywhere HasValidTimestamp) (concatArrays args) := by
  induction args with
  | nil => exact .ok nofun
  | cons v rest ih =>
      obtain ⟨hv, hrest⟩ := List.forall_mem_cons.mp h
      unfold concatArrays
      split
      case h_1 heq => cases heq
      case h_2 items _ heq =>
        cases heq
        exact (ih hrest).map fun others hothers => List.forall_mem_append.mpr ⟨everywhere_items.mp hv, hothers⟩
      case h_3 => exact .error

theorem yields_concatenated (h : ∀ v ∈ args, v.Everywhere HasValidTimestamp) :
    Yields (Everywhere HasValidTimestamp) (concatenated args) := by
  unfold concatenated
  split
  case h_1 => exact .error
  case h_2 | h_3 => exact .map_of_forall fun _ => everywhere_of_scalar rfl rfl rfl
  case h_4 => exact (yields_concatArrays h).map fun _ hitems => everywhere_items.mpr hitems
  case h_5 => exact .error

theorem yields_apply (limits : Limits) (op : StringFunction) (h : ∀ v ∈ args, v.Everywhere HasValidTimestamp) :
    Yields InRange (op.apply limits args) := by
  by_cases hop : op = .concat
  · subst hop
    exact (yields_concatenated h).map fun _ => Outcome.everywhere_value.mpr
  · exact (yields_scalar limits hop args).mono fun _ => inRange_of_isScalar

end StringFunction

namespace Keyed

variable {κ α : Type} [Ord κ]

theorem exists_mem_of_find? {key : κ} {entries : List (κ × α)} {a : α} (h : find? key entries = some a) :
    ∃ e ∈ entries, e.2 = a := by
  induction entries with
  | nil => cases h
  | cons e rest ih =>
      obtain ⟨k, b⟩ := e
      unfold find? at h
      split_ifs at h
      · exact ⟨(k, b), List.mem_cons_self, Option.some.inj h⟩
      · obtain ⟨e, he, hea⟩ := ih h
        exact ⟨e, List.mem_cons_of_mem _ he, hea⟩

theorem mem_merge {first second : List (κ × α)} {e : κ × α} (h : e ∈ merge first second) :
    e ∈ first ∨ e ∈ second := by
  induction second with
  | nil => exact .inl h
  | cons d rest ih =>
      obtain rfl | h := mem_insert h
      · exact .inr List.mem_cons_self
      · exact (ih h).imp_right (List.mem_cons_of_mem _)

end Keyed

namespace MapFunction

variable {fields : Record} {args : List Value}

theorem inRange_look (h : ∀ f ∈ fields, f.2.Everywhere HasValidTimestamp) (key : String) :
    InRange (look fields key) := by
  unfold look
  split
  case h_1 v hfound =>
    obtain ⟨f, hf, rfl⟩ := Keyed.exists_mem_of_find? hfound
    exact Outcome.everywhere_ofValue (h f hf)
  case h_2 => exact Outcome.everywhere_unset

theorem yields_merged (hfields : ∀ f ∈ fields, f.2.Everywhere HasValidTimestamp)
    (h : ∀ v ∈ args, v.Everywhere HasValidTimestamp) :
    Yields (fun merged : Record => ∀ f ∈ merged, f.2.Everywhere HasValidTimestamp) (merged fields args) := by
  induction args generalizing fields with
  | nil => exact .ok hfields
  | cons v rest ih =>
      obtain ⟨hv, hrest⟩ := List.forall_mem_cons.mp h
      unfold merged
      refine (yields_toMap hv).bind fun others hothers => ih (fun f hf => ?_) hrest
      exact (Keyed.mem_merge hf).elim (hfields f) (hothers f)

theorem yields_apply (op : MapFunction) (h : ∀ v ∈ args, v.Everywhere HasValidTimestamp) :
    Yields InRange (op.apply args) := by
  unfold apply
  split
  -- Look-up, merging, removal, and a wrong count.
  case h_1 a b =>
    exact (yields_toMap (h a List.mem_cons_self)).bind fun _ hfields =>
      .bind_of_forall fun _ => .ok (inRange_look hfields _)
  case h_2 =>
    exact (yields_merged (fun _ hf => absurd hf List.not_mem_nil) h).map fun _ hfields =>
      Outcome.everywhere_value.mpr (everywhere_fields.mpr hfields)
  case h_3 a b =>
    refine (yields_toMap (h a List.mem_cons_self)).bind fun fields hfields =>
      .bind_of_forall fun key => .ok ?_
    refine Outcome.everywhere_value.mpr (everywhere_fields.mpr fun f hf => ?_)
    exact hfields f (List.mem_filter.mp hf).1
  case h_4 => exact .error

end MapFunction

namespace TimestampFunction

/-- The one place where a new timestamp arises. -/
theorem yields_inRange {t : Option Timestamp} (h : ∀ u, t = some u → u.Valid) : Yields InRange (inRange t) := by
  unfold inRange
  split
  · exact .ok (Outcome.everywhere_value.mpr (everywhere_timestamp.mpr (h _ rfl)))
  · exact .error

theorem yields_shifted (sign : Int) (time unit amount : Value) :
    Yields InRange (shifted sign time unit amount) :=
  .bind_of_forall fun _ => .bind_of_forall fun _ =>
    .bind_of_forall fun _ => yields_inRange fun _ => Timestamp.valid_of_ofEpochNanos?

theorem yields_apply (op : TimestampFunction) (args : List Value) : Yields InRange (op.apply args) := by
  unfold apply
  split
  -- Counts to timestamps, timestamps to counts, the shifts, and a wrong count.
  case h_1 | h_2 =>
    exact .bind_of_forall fun _ => yields_inRange fun _ => Timestamp.valid_of_ofEpochNanos?
  case h_3 => exact .bind_of_forall fun _ => yields_inRange fun _ => Timestamp.valid_of_ofParts?
  case h_4 | h_5 | h_6 => exact .map_of_forall fun _ => inRange_of_isScalar (Outcome.isScalar_integer _)
  case h_7 | h_8 => exact yields_shifted _ _ _ _
  case h_9 => exact .error

end TimestampFunction

/-! ### Functions of outcomes -/

namespace Logical

variable {args : List Outcome}

theorem inRange_extreme (wanted : Ordering) (h : ∀ o ∈ args, InRange o) : InRange (extreme wanted none args) := by
  obtain hnone | ⟨hmem, -⟩ := extreme_eq_or_mem wanted none args
  · exact hnone ▸ Outcome.everywhere_null
  · exact h _ hmem

theorem inRange_apply (op : Logical) (h : ∀ o ∈ args, InRange o) : InRange (op.apply args) := by
  unfold apply
  split
  -- The connectives, the conditional, which returns an operand, the extremes, and a wrong count.
  case h_1 | h_2 => exact inRange_of_isScalarOrError (isScalarOrError_junction _ _ _ _)
  case h_3 => exact inRange_of_isScalarOrError (isScalarOrError_parity _ _ _ _)
  case h_4 => exact inRange_of_isScalarOrError (isScalarOrError_negation _ _)
  case h_5 a b c => exact choice_elim (h b (by simp)) (h c (by simp)) (Outcome.everywhere_error _)
  case h_6 | h_7 => exact inRange_extreme _ h
  case h_8 => exact Outcome.everywhere_error _

end Logical

namespace TypeCheck

variable {args : List Outcome}

theorem inRange_apply (op : TypeCheck) (h : ∀ o ∈ args, InRange o) : InRange (op.apply args) := by
  by_cases hop : op = .ifError
  · subst hop
    obtain hmem | herror := apply_ifError_mem_or_isError args
    · exact h _ hmem
    · exact inRange_of_isScalarOrError (.inl herror)
  · exact inRange_of_isScalarOrError (isScalarOrError_apply hop args)

end TypeCheck

theorem ArrayFunction.inRange_ofItems (f : Function) {items : List Value} {args : List Outcome}
    (hitems : ∀ v ∈ items, v.Everywhere HasValidTimestamp) (h : ∀ o ∈ args, InRange o) :
    InRange (ofItems f items args) := by
  induction args generalizing items with
  | nil =>
      refine Outcome.everywhere_value.mpr (everywhere_items.mpr fun v hv => ?_)
      exact hitems v (List.mem_reverse.mp hv)
  | cons o rest ih =>
      obtain ⟨ho, hrest⟩ := List.forall_mem_cons.mp h
      unfold ofItems
      split
      · exact Outcome.everywhere_error _
      · exact ih (List.forall_mem_cons.mpr ⟨Outcome.inRange_stored ho, hitems⟩) hrest

theorem MapFunction.inRange_ofPairs (f : Function) {fields : Record} {args : List Outcome}
    (hfields : ∀ g ∈ fields, g.2.Everywhere HasValidTimestamp) (h : ∀ o ∈ args, InRange o) :
    InRange (ofPairs f fields args) := by
  fun_induction ofPairs f fields args with
  | case1 => exact Outcome.everywhere_error _
  | case2 => exact Outcome.everywhere_error _
  | case3 fields key value rest hargument k hkey ih =>
      refine ih (fun g hg => ?_) fun o ho => h o (by simp [ho])
      obtain rfl | hg := Keyed.mem_insert hg
      · exact Outcome.inRange_stored (h value (by simp))
      · exact hfields g hg
  | case4 => exact Outcome.everywhere_value.mpr (everywhere_fields.mpr hfields)

namespace Function

variable {args : List Outcome}

theorem yields_onValues (limits : Limits) (f : Function) {args : List Value}
    (h : ∀ v ∈ args, v.Everywhere HasValidTimestamp) : Yields InRange (f.onValues limits args) := by
  cases f with
  | arithmetic op => exact (op.yields_scalar args).mono fun _ => inRange_of_isScalar
  | comparison op => exact (op.yields_scalar args).mono fun _ => inRange_of_isScalar
  | array op => exact op.yields_apply h
  | string op => exact op.yields_apply limits h
  | map op => exact op.yields_apply h
  | timestamp op => exact op.yields_apply args
  | vector op => exact (op.yields_scalar args).mono fun _ => inRange_of_isScalar
  | logical _ | typeCheck _ => exact .error

theorem inRange_applyStrict (limits : Limits) (f : Function) (h : ∀ o ∈ args, InRange o) :
    InRange (f.applyStrict limits args) := by
  obtain ⟨e, -, heq⟩ | heq | ⟨values, rfl, heq⟩ := applyStrict_cases limits f args
  · exact heq ▸ Outcome.everywhere_error e
  · exact heq ▸ Outcome.everywhere_null
  · have hargs : ∀ v ∈ values, v.Everywhere HasValidTimestamp := fun v hv =>
      Outcome.everywhere_value.mp (h _ (List.mem_map_of_mem hv))
    rw [heq]
    cases hresult : f.onValues limits values with
    | error cause => exact Outcome.everywhere_error _
    | ok o => exact yields_onValues limits f hargs o hresult

/-- A function keeps the timestamps of its operands in range. -/
theorem inRange_apply (limits : Limits) (f : Function) (h : ∀ o ∈ args, InRange o) :
    InRange (f.apply limits args) := by
  unfold apply
  split_ifs
  · unfold applyAccepted
    split
    · exact Logical.inRange_apply _ h
    · exact TypeCheck.inRange_apply _ h
    · exact ArrayFunction.inRange_ofItems _ nofun h
    · exact MapFunction.inRange_ofPairs _ nofun h
    · exact inRange_applyStrict limits f h
  · exact Outcome.everywhere_error _

end Function

/-! ### Evaluation -/

namespace Document

theorem everywhere_lookUp {fields : Record} {segments : List String} {v : Value}
    (h : ∀ f ∈ fields, f.2.Everywhere HasValidTimestamp) (hv : lookUp fields segments = some v) :
    v.Everywhere HasValidTimestamp := by
  fun_induction lookUp fields segments with
  | case1 => cases hv
  | case2 fields segment =>
      obtain ⟨f, hf, rfl⟩ := Keyed.exists_mem_of_find? hv
      exact h f hf
  | case3 fields segment next rest inner hinner ih =>
      obtain ⟨f, hf, hfield⟩ := Keyed.exists_mem_of_find? hinner
      exact ih (everywhere_fields.mp (hfield ▸ h f hf)) hv
  | case4 => cases hv

theorem inRange_fieldOutcome {d : Document} (h : d.Everywhere HasValidTimestamp) (path : FieldPath) :
    InRange (d.fieldOutcome path) := by
  unfold fieldOutcome
  split_ifs
  · exact inRange_of_isScalar ⟨nofun, rfl, rfl, rfl⟩
  · split
    case h_1 v hv => exact Outcome.everywhere_ofValue (everywhere_lookUp h hv)
    case h_2 => exact Outcome.everywhere_unset

end Document

/-- **Evaluation keeps timestamps in range**: whatever an expression does with the timestamps in its literals and
in a document, those in its outcome are in range. -/
theorem Expression.inRange_evaluate (limits : Limits) {d : Document} {e : Expression}
    (hd : d.Everywhere HasValidTimestamp) (he : e.Everywhere HasValidTimestamp) :
    InRange (e.evaluate limits d) := by
  induction e using nested_induction with
  | field path => exact Document.inRange_fieldOutcome hd path
  | literal v => exact Outcome.everywhere_ofValue (everywhere_literal.mp he)
  | call f args ih =>
      rw [evaluate_call]
      refine Function.inRange_apply limits f fun o ho => ?_
      obtain ⟨arg, harg, rfl⟩ := List.mem_map.mp ho
      exact ih arg harg (everywhere_call.mp he arg harg)

end DocumentQuery
