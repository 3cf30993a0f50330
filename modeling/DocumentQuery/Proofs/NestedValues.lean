import DocumentQuery.Outcome
import DocumentQuery.Pipeline.Basic
import Mathlib.Tactic.Common

/-! # What is nested in a value

A value nests others through the items of an array and the values of a map, to any depth.  `Value.parts` lists a
value with all that is nested in it, and a property holds `Everywhere` in a value if it holds of all of these.
For arrays and maps this comes down to the items and the values (`Value.everywhere_array`,
`Value.everywhere_map`), so that what is proved about a property everywhere goes by `Value.nested_induction`.

Outcomes, documents, expressions and pipelines hold values, and a property holds everywhere in them if it holds
everywhere in the values they hold. -/

namespace DocumentQuery

namespace Value

/-- Induction over nested values: through the items of an array and the values of a map. -/
@[elab_as_elim]
theorem nested_induction {motive : Value → Prop}
    (plain : ∀ v : Value, v.array? = none → v.map? = none → motive v)
    (array : ∀ items, (∀ v ∈ items, motive v) → motive (.array items))
    (map : ∀ fields : Record, (∀ f ∈ fields, motive f.2) → motive (.map fields)) (v : Value) :
    motive v := by
  match v with
  | .array items => exact array items fun w _ => nested_induction plain array map w
  | .map fields => exact map fields fun f _ => nested_induction plain array map f.2
  | .null | .boolean _ | .integer _ | .double _ | .string _ | .bytes _ | .timestamp _ | .reference _
  | .geoPoint _ | .vector _ => exact plain _ rfl rfl
termination_by sizeOf v
decreasing_by
  · rename_i h
    have := List.sizeOf_lt_of_mem h
    simp
    omega
  · rename_i h
    have := List.sizeOf_lt_of_mem h
    cases f
    simp at this ⊢
    omega

mutual

/-- The value itself and every value nested in it. -/
def parts : Value → List Value
  | array items => array items :: partsOfItems items
  | map fields => map fields :: partsOfFields fields
  | v => [v]

def partsOfItems : List Value → List Value
  | [] => []
  | v :: rest => parts v ++ partsOfItems rest

def partsOfFields : List (String × Value) → List Value
  | [] => []
  | (_, v) :: rest => parts v ++ partsOfFields rest

end

/-- A property holds of a value and of every value nested in it. -/
def Everywhere (p : Value → Prop) (v : Value) : Prop := ∀ w ∈ v.parts, p w

instance (p : Value → Prop) [DecidablePred p] (v : Value) : Decidable (v.Everywhere p) :=
  inferInstanceAs (Decidable (∀ w ∈ v.parts, p w))

/-- The doubles of a value outside the values nested in it. -/
def ownDoubles : Value → List Double
  | double d => [d]
  | geoPoint g => [g.latitude, g.longitude]
  | vector entries => entries
  | _ => []

/-- All doubles of a value outside the values nested in it are finite. -/
def HasFiniteDoubles (v : Value) : Prop := ∀ d ∈ v.ownDoubles, d.isFinite

instance : DecidablePred HasFiniteDoubles := fun v =>
  inferInstanceAs (Decidable (∀ d ∈ v.ownDoubles, d.isFinite))

/-- A timestamp lies in the range of timestamps; other values are not asked. -/
def HasValidTimestamp : Value → Prop
  | timestamp t => t.Valid
  | _ => True

instance : DecidablePred HasValidTimestamp
  | timestamp t => inferInstanceAs (Decidable t.Valid)
  | null | boolean _ | integer _ | double _ | string _ | bytes _ | reference _ | geoPoint _ | array _
  | vector _ | map _ => .isTrue trivial

variable {p : Value → Prop}

theorem mem_partsOfItems {items : List Value} {w : Value} :
    w ∈ partsOfItems items ↔ ∃ v ∈ items, w ∈ v.parts := by
  induction items with
  | nil => simp [partsOfItems]
  | cons v rest ih => simp [partsOfItems, ih]

theorem mem_partsOfFields {fields : Record} {w : Value} :
    w ∈ partsOfFields fields ↔ ∃ f ∈ fields, w ∈ f.2.parts := by
  induction fields with
  | nil => simp [partsOfFields]
  | cons f rest ih => simp [partsOfFields, ih]

theorem everywhere_array {items : List Value} :
    (array items).Everywhere p ↔ p (array items) ∧ ∀ v ∈ items, v.Everywhere p := by
  simp only [Everywhere, parts, List.forall_mem_cons, mem_partsOfItems]
  exact and_congr_right fun _ => ⟨fun h v hv w hw => h w ⟨v, hv, hw⟩, fun h w ⟨v, hv, hw⟩ => h v hv w hw⟩

theorem everywhere_map {fields : Record} :
    (map fields).Everywhere p ↔ p (map fields) ∧ ∀ f ∈ fields, f.2.Everywhere p := by
  simp only [Everywhere, parts, List.forall_mem_cons, mem_partsOfFields]
  exact and_congr_right fun _ => ⟨fun h f hf w hw => h w ⟨f, hf, hw⟩, fun h w ⟨f, hf, hw⟩ => h f hf w hw⟩

/-- A value that is neither array nor map nests nothing. -/
theorem everywhere_of_plain {v : Value} (ha : v.array? = none) (hm : v.map? = none) :
    v.Everywhere p ↔ p v := by
  cases v with
  | array _ => cases ha
  | map _ => cases hm
  | _ => simp [Everywhere, parts]

end Value

namespace Outcome

/-- A property holds everywhere in the value of an outcome, if it has one. -/
def Everywhere (p : Value → Prop) (o : Outcome) : Prop := ∀ v ∈ o.value?, v.Everywhere p

instance (p : Value → Prop) [DecidablePred p] (o : Outcome) : Decidable (o.Everywhere p) :=
  inferInstanceAs (Decidable (∀ v ∈ o.value?, v.Everywhere p))

variable {p : Value → Prop}

@[simp] theorem everywhere_value {v : Value} : (value v).Everywhere p ↔ v.Everywhere p := by
  simp [Everywhere, value?]

@[simp] theorem everywhere_null : null.Everywhere p := nofun

@[simp] theorem everywhere_unset : unset.Everywhere p := nofun

@[simp] theorem everywhere_error (e : EvalError) : (error e).Everywhere p := nofun

theorem everywhere_ofValue {v : Value} (h : v.Everywhere p) : (ofValue v).Everywhere p := by
  cases v <;> first | exact everywhere_null | exact everywhere_value.mpr h

end Outcome

namespace Document

/-- A property holds everywhere in the fields of a document. -/
def Everywhere (p : Value → Prop) (d : Document) : Prop := ∀ f ∈ d.data, f.2.Everywhere p

instance (p : Value → Prop) [DecidablePred p] (d : Document) : Decidable (d.Everywhere p) :=
  inferInstanceAs (Decidable (∀ f ∈ d.data, f.2.Everywhere p))

/-- Every timestamp in the fields lies in the range of timestamps, and the update time does. -/
def TimestampsValid (d : Document) : Prop :=
  d.Everywhere Value.HasValidTimestamp ∧ ∀ t ∈ d.updateTime, t.Valid

instance (d : Document) : Decidable d.TimestampsValid :=
  inferInstanceAs (Decidable (d.Everywhere Value.HasValidTimestamp ∧ ∀ t ∈ d.updateTime, t.Valid))

end Document

namespace Expression

/-- Induction over expressions, through the arguments of a call. -/
@[elab_as_elim]
theorem nested_induction {motive : Expression → Prop} (field : ∀ path, motive (.field path))
    (literal : ∀ v, motive (.literal v)) (call : ∀ f args, (∀ e ∈ args, motive e) → motive (.call f args))
    (e : Expression) : motive e := by
  match e with
  | .field path => exact field path
  | .literal v => exact literal v
  | .call f args => exact call f args fun e _ => nested_induction field literal call e
termination_by sizeOf e
decreasing_by
  rename_i h
  have := List.sizeOf_lt_of_mem h
  simp
  omega

mutual

/-- The literal values of an expression. -/
def literals : Expression → List Value
  | field _ => []
  | literal v => [v]
  | call _ args => literalsOfAll args

def literalsOfAll : List Expression → List Value
  | [] => []
  | e :: rest => literals e ++ literalsOfAll rest

end

/-- A property holds everywhere in the literals of an expression. -/
def Everywhere (p : Value → Prop) (e : Expression) : Prop := ∀ v ∈ e.literals, v.Everywhere p

instance (p : Value → Prop) [DecidablePred p] (e : Expression) : Decidable (e.Everywhere p) :=
  inferInstanceAs (Decidable (∀ v ∈ e.literals, v.Everywhere p))

variable {p : Value → Prop}

theorem mem_literalsOfAll {es : List Expression} {v : Value} :
    v ∈ literalsOfAll es ↔ ∃ e ∈ es, v ∈ e.literals := by
  induction es with
  | nil => simp [literalsOfAll]
  | cons e rest ih => simp [literalsOfAll, ih]

@[simp] theorem everywhere_field (path : FieldPath) : (field path).Everywhere p := by
  simp [Everywhere, literals]

@[simp] theorem everywhere_literal {v : Value} : (literal v).Everywhere p ↔ v.Everywhere p := by
  simp [Everywhere, literals]

theorem everywhere_call {f : Function} {args : List Expression} :
    (call f args).Everywhere p ↔ ∀ e ∈ args, e.Everywhere p := by
  simp only [Everywhere, literals, mem_literalsOfAll]
  exact ⟨fun h e he v hv => h v ⟨e, he, hv⟩, fun h v ⟨e, he, hv⟩ => h e he v hv⟩

end Expression

namespace Step

/-- The expressions that a step evaluates. -/
def expressions : Step → List Expression
  | filter condition => [condition]
  | sort keys => keys.map SortKey.expression
  | offset _ | limit _ => []

end Step

namespace Stage

/-- The expressions that a stage evaluates. -/
def expressions : Stage → List Expression
  | source _ => []
  | step s => s.expressions

end Stage

namespace Pipeline

/-- A property holds everywhere in the expressions of a pipeline. -/
def Everywhere (p : Value → Prop) (q : Pipeline) : Prop :=
  ∀ s ∈ q.stages, ∀ e ∈ s.expressions, e.Everywhere p

instance (p : Value → Prop) [DecidablePred p] (q : Pipeline) : Decidable (q.Everywhere p) :=
  inferInstanceAs (Decidable (∀ s ∈ q.stages, ∀ e ∈ s.expressions, e.Everywhere p))

end Pipeline

end DocumentQuery
