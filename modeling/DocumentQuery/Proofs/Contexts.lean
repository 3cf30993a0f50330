import DocumentQuery.Proofs.ErrorOrigin
import Mathlib.Logic.Relation

/-! # Replacing parts of expressions

A context is an expression with one place left open.  What stands in the open places of contexts are the parts of an
expression (`Context.exists_fill_iff`), and the outcome of an expression depends on a part only through the outcome of
the part (`Context.evaluate_fill_congr`): whatever function the part is an operand of, the function is applied to the
outcomes of its operands.

So a part may be replaced by anything with the same outcome.  The literal of a value has the outcome of a part that
comes to the value, because evaluation never gives the null value; hence folding constants, once or again and again,
keeps the outcome (`Expression.evaluate_of_folded`). -/

namespace DocumentQuery

/-- An expression with one place left open. -/
inductive Context where
  | hole
  /-- The open place is in one operand of a call, between the other operands. -/
  | operand (f : Function) (before : List Expression) (inner : Context) (after : List Expression)

variable {limits : Limits} {d : Document} {e e' x y : Expression}

namespace Context

/-- The expression with a part in the open place. -/
def fill : Context → Expression → Expression
  | hole, e => e
  | operand f before inner after, e => .call f (before ++ inner.fill e :: after)

/-- The parts of an expression are what stands in the open places. -/
theorem exists_fill_iff : (∃ c : Context, c.fill e = x) ↔ e ∈ x.parts := by
  constructor
  · rintro ⟨c, rfl⟩
    induction c with
    | hole => cases e <;> exact List.mem_cons_self
    | operand f before inner after ih =>
        exact Expression.mem_parts_call.mpr (.inr ⟨inner.fill e, by simp, ih⟩)
  · intro h
    induction x using Expression.nested_induction with
    | field path => exact ⟨hole, List.mem_singleton.mp h⟩
    | literal v => exact ⟨hole, List.mem_singleton.mp h⟩
    | call f args ih =>
        rcases Expression.mem_parts_call.mp h with rfl | ⟨arg, harg, hpart⟩
        · exact ⟨hole, rfl⟩
        · obtain ⟨inner, rfl⟩ := ih arg harg hpart
          obtain ⟨before, after, rfl⟩ := List.append_of_mem harg
          exact ⟨operand f before inner after, rfl⟩

/-- **The outcome of a part is all that counts of it.** -/
theorem evaluate_fill_congr (c : Context) (h : e'.evaluate limits d = e.evaluate limits d) :
    (c.fill e').evaluate limits d = (c.fill e).evaluate limits d := by
  induction c with
  | hole => exact h
  | operand f before inner after ih =>
      rw [fill, fill, Expression.evaluate_call, Expression.evaluate_call, List.map_append, List.map_append,
        List.map_cons, List.map_cons, ih]

end Context

namespace Expression

theorem evaluate_literal_of_value {v : Value} (h : e.evaluate limits d = .value v) :
    (literal v).evaluate limits d = e.evaluate limits d := by
  rw [h]
  refine Outcome.ofValue_of_ne_null fun hnull => ?_
  exact evaluate_ne_value_null limits d e (h.trans (congrArg Outcome.value hnull))

theorem evaluate_literal_of_null (h : e.evaluate limits d = .null) :
    (literal .null).evaluate limits d = e.evaluate limits d := by
  rw [h]
  rfl

/-! ### Constant folding -/

/-- One step of constant folding: a part with a value or a null is replaced by the literal. -/
inductive Folds (limits : Limits) (d : Document) : Expression → Expression → Prop
  | value (c : Context) {e : Expression} {v : Value} (h : e.evaluate limits d = .value v) :
      Folds limits d (c.fill e) (c.fill (literal v))
  | null (c : Context) {e : Expression} (h : e.evaluate limits d = .null) :
      Folds limits d (c.fill e) (c.fill (literal .null))

theorem Folds.evaluate_eq (h : Folds limits d x y) : y.evaluate limits d = x.evaluate limits d := by
  cases h with
  | value c h => exact c.evaluate_fill_congr (evaluate_literal_of_value h)
  | null c h => exact c.evaluate_fill_congr (evaluate_literal_of_null h)

/-- Any number of steps of constant folding keep the outcome. -/
theorem evaluate_of_folded (h : Relation.ReflTransGen (Folds limits d) x y) :
    y.evaluate limits d = x.evaluate limits d := by
  induction h with
  | refl => rfl
  | tail _ hstep ih => rw [hstep.evaluate_eq, ih]

/-- **Parts with one outcome are interchangeable.**  Wherever a part stands in an expression, under functions of values,
of outcomes or of the logical family, an expression with the same outcome may be put in its place: also the literal of
its value, and the null literal if the outcome is null.  So constant folding, in any number of steps, keeps the
outcome. -/
theorem parts_are_interchangeable (limits : Limits) (d : Document) :
    (∀ e x : Expression, e ∈ x.parts ↔ ∃ c : Context, c.fill e = x) ∧
    (∀ (c : Context) (e e' : Expression), e'.evaluate limits d = e.evaluate limits d →
      (c.fill e').evaluate limits d = (c.fill e).evaluate limits d) ∧
    (∀ (c : Context) (e : Expression) (v : Value), e.evaluate limits d = .value v →
      (c.fill (literal v)).evaluate limits d = (c.fill e).evaluate limits d) ∧
    (∀ (c : Context) (e : Expression), e.evaluate limits d = .null →
      (c.fill (literal .null)).evaluate limits d = (c.fill e).evaluate limits d) ∧
    ∀ x y : Expression, Relation.ReflTransGen (Folds limits d) x y → y.evaluate limits d = x.evaluate limits d :=
  ⟨fun _ _ => Context.exists_fill_iff.symm, fun c _ _ h => c.evaluate_fill_congr h,
    fun c _ _ h => (Folds.value c h).evaluate_eq, fun c _ h => (Folds.null c h).evaluate_eq,
    fun _ _ h => evaluate_of_folded h⟩

/-- A field that is not set may stand for an item behind the end of an array, also where a function asks whether it is
set.  In a conditional the sum is folded, and then the field with a null; the quotient without a divisor stays. -/
theorem parts_are_interchangeable_in_conditional :
    let d : Document := ⟨⟨["c", "d"]⟩, [("v", .null)], none⟩
    let missing := field ⟨["x"]⟩
    let outside := call (.array .get) [literal (.array []), literal (.integer 0)]
    let asked := Context.operand (.logical .not) [] (.operand (.typeCheck .isSet) [] .hole []) []
    let sum := call (.arithmetic .add) [literal (.integer 1), literal (.integer 2)]
    let failed := call (.arithmetic .divide) [literal (.integer 1), literal (.integer 0)]
    let three := literal (.integer 3)
    outside.evaluate {} d = missing.evaluate {} d ∧
      (asked.fill outside).evaluate {} d = (asked.fill missing).evaluate {} d ∧
      sum.evaluate {} d = .value (.integer 3) ∧ (field ⟨["v"]⟩).evaluate {} d = .null ∧
      (call (.typeCheck .ifError) [failed, three]).evaluate {} d =
        (call (.typeCheck .ifError) [failed, sum]).evaluate {} d ∧
      (call (.logical .and) [literal .null, failed]).evaluate {} d =
        (call (.logical .and) [field ⟨["v"]⟩, failed]).evaluate {} d ∧
      (call (.logical .cond) [literal .null, failed, three]).evaluate {} d =
        (call (.logical .cond) [field ⟨["v"]⟩, failed, sum]).evaluate {} d := by
  intro d missing outside asked sum failed three
  obtain ⟨-, hsame, hvalue, hnull, hfolded⟩ := parts_are_interchangeable {} d
  have houtside : outside.evaluate {} d = missing.evaluate {} d := rfl
  have hsum : sum.evaluate {} d = .value (.integer 3) := rfl
  have hv : (field ⟨["v"]⟩).evaluate {} d = .null := rfl
  have hfirst := Folds.value (.operand (.logical .cond) [field ⟨["v"]⟩, failed] .hole []) hsum
  have hsecond := Folds.null (.operand (.logical .cond) [] .hole [failed, three]) hv
  exact ⟨houtside, hsame asked _ _ houtside, hsum, hv,
    hvalue (.operand (.typeCheck .ifError) [failed] .hole []) _ _ hsum,
    hnull (.operand (.logical .and) [] .hole [failed]) _ hv,
    hfolded _ _ (.tail (.single hfirst) hsecond)⟩

end Expression

end DocumentQuery
