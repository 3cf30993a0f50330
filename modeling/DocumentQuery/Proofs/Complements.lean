import DocumentQuery.Proofs.Connectives
import DocumentQuery.Proofs.StrictFunctions

/-! # Complementary functions

Five pairs of functions ask one question and its opposite (`Function.Complementary`).  On the same operands the two give
opposite booleans, two nulls, or two errors that differ at most in the name they carry (`Outcome.Opposite`): the error
of an operand is handed on by both, and a complaint of their own has one cause.  Negation turns opposite outcomes into
equal ones, up to the name (`Outcome.Opposite.negation`), so either function is the negation of the other
(`Expression.complements_are_negations`).

The pairs go different ways to their answers.  Equality and membership are strict, and their operands are settled before
they see a value (`Function.opposite_applyStrict`); the questions about outcomes each have their own rule for null, for
what is not set and for errors.  The inequalities are no such pair: `gte` is the opposite of `lt` exactly on values that
stand in an order (`Expression.opposite_lt_gte_iff`). -/

namespace DocumentQuery

/-- The second function asks for the opposite of the first one. -/
inductive Function.Complementary : Function → Function → Prop
  | eq : Complementary (comparison .eq) (comparison .neq)
  | eqAny : Complementary (comparison .eqAny) (comparison .notEqAny)
  | isNull : Complementary (typeCheck .isNull) (typeCheck .isNotNull)
  | isNaN : Complementary (typeCheck .isNaN) (typeCheck .isNotNaN)
  | isSet : Complementary (typeCheck .isSet) (typeCheck .isAbsent)

variable {f g : Function}

theorem Function.Complementary.arity_eq (h : f.Complementary g) : f.arity = g.arity := by
  cases h <;> rfl

/-! ### Errors under two names -/

/-- One error, or errors of two functions that have one cause; they are worded alike after the name. -/
structure EvalError.SameUnder (f g : Function) (e e' : EvalError) : Prop where
  names : e' = e ∨ e.function = f ∧ e'.function = g
  cause : e'.cause = e.cause
  words : ∃ words, e.message = e.function.name ++ ": " ++ words ∧ e'.message = e'.function.name ++ ": " ++ words

namespace EvalError

theorem SameUnder.self (e : EvalError) : e.SameUnder f g e := ⟨.inl rfl, rfl, _, rfl, rfl⟩

theorem SameUnder.symm {e e' : EvalError} (h : e.SameUnder f g e') : e'.SameUnder g f e := by
  obtain ⟨words, he, he'⟩ := h.words
  exact ⟨h.names.imp Eq.symm And.symm, h.cause.symm, words, he', he⟩

/-- What two functions of one arity complain about is worded alike; the words of a wrong count tell the arity. -/
theorem sameUnder_of_cause (harity : f.arity = g.arity) (cause : Cause) : SameUnder f g ⟨f, cause⟩ ⟨g, cause⟩ := by
  refine ⟨.inr ⟨rfl, rfl⟩, rfl, _, rfl, ?_⟩
  simp only [message, harity]

end EvalError

/-! ### Outcomes of complementary functions -/

namespace Outcome

/-- The same boolean, two nulls, or two errors that differ at most in the name. -/
inductive SameUnder (f g : Function) : Outcome → Outcome → Prop
  | answer (answer : Option Bool) : SameUnder f g (ofTruth answer) (ofTruth answer)
  | failure {e e' : EvalError} (h : e.SameUnder f g e') : SameUnder f g (error e) (error e')

/-- Opposite booleans, two nulls, or two errors that differ at most in the name. -/
inductive Opposite (f g : Function) : Outcome → Outcome → Prop
  | answer (answer : Option Bool) : Opposite f g (ofTruth answer) (ofTruth (answer.map Bool.not))
  | failure {e e' : EvalError} (h : e.SameUnder f g e') : Opposite f g (error e) (error e')

variable {o p : Outcome}

theorem opposite_boolean (b : Bool) : Opposite f g (boolean b) (boolean !b) := .answer (some b)

theorem opposite_of_cause (harity : f.arity = g.arity) (cause : Cause) :
    Opposite f g (error ⟨f, cause⟩) (error ⟨g, cause⟩) := .failure (EvalError.sameUnder_of_cause harity cause)

theorem Opposite.symm (h : Opposite f g o p) : Opposite g f p o := by
  cases h with
  | answer answer =>
      have hback : (answer.map Bool.not).map Bool.not = answer := by cases answer <;> simp
      simpa only [hback] using Opposite.answer (answer.map Bool.not)
  | failure h => exact .failure h.symm

/-- An answer is the same under every name. -/
theorem SameUnder.eq_of_answer (h : SameUnder f g o p) (answer : Option Bool) (ho : o = ofTruth answer) :
    p = ofTruth answer := by
  cases h with
  | answer _ => exact ho
  | failure _ => cases answer <;> cases ho

/-- Negation makes opposite outcomes equal, up to the name in an error. -/
theorem Opposite.negation (h : Opposite f g o p) (n : Function) : SameUnder f g (Logical.negation n o) p := by
  cases h with
  | answer answer =>
      cases answer with
      | none => exact .answer none
      | some b => exact .answer (some !b)
  | failure h => exact .failure h

theorem Opposite.eq_not (h : Opposite f g o p) {a b : Bool} (ho : o = boolean a) (hp : p = boolean b) : b = !a := by
  cases h with
  | answer answer =>
      cases answer with
      | none => cases ho
      | some c =>
          cases ho
          cases hp
          rfl
  | failure h => cases ho

end Outcome

open Outcome (Opposite opposite_boolean opposite_of_cause)

/-! ### Equality and membership -/

namespace Function

/-- Two functions of one arity find the same fault in their operands, or none. -/
theorem rel_argumentError? (harity : f.arity = g.arity) (args : List Outcome) :
    Option.Rel (EvalError.SameUnder f g) (args.findSome? (Outcome.argumentError? f))
      (args.findSome? (Outcome.argumentError? g)) := by
  induction args with
  | nil => exact .none
  | cons o rest ih =>
      cases o with
      | value v => exact ih
      | null => exact ih
      | unset => exact .some (EvalError.sameUnder_of_cause harity _)
      | error e => exact .some (.self e)

/-- Strict functions with opposite results on values are opposite on all outcomes. -/
theorem opposite_applyStrict (limits : Limits) (harity : f.arity = g.arity)
    (hvalues : ∀ values,
      Opposite f g (.ofResult f (f.onValues limits values)) (.ofResult g (g.onValues limits values)))
    (args : List Outcome) : Opposite f g (f.applyStrict limits args) (g.applyStrict limits args) := by
  have hfaults := rel_argumentError? harity args
  unfold applyStrict operands
  generalize args.findSome? (Outcome.argumentError? f) = fault at hfaults ⊢
  generalize args.findSome? (Outcome.argumentError? g) = fault' at hfaults ⊢
  cases hfaults with
  | some h => exact .failure h
  | none =>
      cases valuesOf args with
      | none => exact .answer none
      | some values => exact hvalues values

end Function

namespace Comparison

theorem opposite_eq_neq (values : List Value) :
    Opposite (.comparison .eq) (.comparison .neq) (.ofResult (.comparison .eq) (apply .eq values))
      (.ofResult (.comparison .neq) (apply .neq values)) := by
  match values with
  | [a, b] => exact .answer (a.equals? b)
  | [] | [_] | _ :: _ :: _ :: _ => exact opposite_of_cause Function.Complementary.eq.arity_eq _

theorem opposite_eqAny_notEqAny (values : List Value) :
    Opposite (.comparison .eqAny) (.comparison .notEqAny) (.ofResult (.comparison .eqAny) (apply .eqAny values))
      (.ofResult (.comparison .notEqAny) (apply .notEqAny values)) := by
  match values with
  | [a, b] =>
      rw [apply, apply]
      cases b.toArray with
      | ok items => exact .answer (a.isAnyOf? items)
      | error cause => exact opposite_of_cause Function.Complementary.eqAny.arity_eq cause
  | [] | [_] | _ :: _ :: _ :: _ => exact opposite_of_cause Function.Complementary.eqAny.arity_eq _

theorem opposite_ordered_iff (a b : Value) :
    Opposite f g (ordered Ordering.isLT a b) (ordered Ordering.isGE a b) ↔ (a.compareStrict? b).isSome := by
  unfold ordered
  cases a.compareStrict? b with
  -- Without an order both are false.
  | none => exact iff_of_false (fun h => nomatch h.eq_not rfl rfl) nofun
  | some o =>
      refine iff_of_true ?_ rfl
      cases o <;> exact opposite_boolean _

end Comparison

/-! ### Questions about outcomes -/

namespace TypeCheck

variable {answer answer' : Outcome → Outcome}

theorem opposite_unlessError (h : ∀ o, Opposite f g (answer o) (answer' o)) (o : Outcome) :
    Opposite f g (unlessError answer o) (unlessError answer' o) := by
  cases o with
  | error e => exact .failure (.self e)
  | value _ | null | unset => exact h _

theorem opposite_whenSet (harity : f.arity = g.arity) (h : ∀ o, Opposite f g (answer o) (answer' o)) (o : Outcome) :
    Opposite f g (whenSet f answer o) (whenSet g answer' o) := by
  cases o with
  | value _ | null => exact h _
  | unset => exact opposite_of_cause harity _
  | error e => exact .failure (.self e)

theorem opposite_nanTest (harity : f.arity = g.arity) (o : Outcome) :
    Opposite f g (nanTest f true o) (nanTest g false o) := by
  cases o with
  | value v =>
      rw [nanTest, nanTest]
      split_ifs
      · cases v.isNaN <;> exact opposite_boolean _
      · exact opposite_of_cause harity _
  | null | unset | error _ => exact .answer none

end TypeCheck

/-! ### Calls -/

namespace Function

theorem isStrict_comparison (op : Comparison) : (comparison op).IsStrict := trivial

/-- Complementary functions give opposite outcomes on the same operands, also on too few or too many of them. -/
theorem Complementary.opposite_apply (limits : Limits) (h : f.Complementary g) (args : List Outcome) :
    Opposite f g (f.apply limits args) (g.apply limits args) := by
  by_cases hcount : f.arity.Accepts args.length
  · have hcount' : g.arity.Accepts args.length := h.arity_eq ▸ hcount
    cases h with
    | eq =>
        rw [apply_of_isStrict limits (isStrict_comparison _) hcount,
          apply_of_isStrict limits (isStrict_comparison _) hcount']
        exact opposite_applyStrict limits Complementary.eq.arity_eq Comparison.opposite_eq_neq args
    | eqAny =>
        rw [apply_of_isStrict limits (isStrict_comparison _) hcount,
          apply_of_isStrict limits (isStrict_comparison _) hcount']
        exact opposite_applyStrict limits Complementary.eqAny.arity_eq Comparison.opposite_eqAny_notEqAny args
    | isNull =>
        obtain ⟨o, rfl⟩ := List.length_eq_one_iff.mp hcount
        exact TypeCheck.opposite_whenSet Complementary.isNull.arity_eq (fun o => opposite_boolean o.isNull) o
    | isNaN =>
        obtain ⟨o, rfl⟩ := List.length_eq_one_iff.mp hcount
        have harity := Complementary.isNaN.arity_eq
        exact TypeCheck.opposite_whenSet harity (TypeCheck.opposite_nanTest harity) o
    | isSet =>
        obtain ⟨o, rfl⟩ := List.length_eq_one_iff.mp hcount
        exact TypeCheck.opposite_unlessError (fun o => (opposite_boolean o.isUnset).symm) o
  · have hcount' : ¬ g.arity.Accepts args.length := h.arity_eq ▸ hcount
    rw [apply, if_neg hcount, apply, if_neg hcount']
    exact opposite_of_cause h.arity_eq _

end Function

namespace Expression

theorem opposite_evaluate (limits : Limits) (d : Document) (h : f.Complementary g) (args : List Expression) :
    Opposite f g ((call f args).evaluate limits d) ((call g args).evaluate limits d) := by
  rw [evaluate_call, evaluate_call]
  exact h.opposite_apply limits _

/-- **The inequalities are complementary on ordered values alone.** -/
theorem opposite_lt_gte_iff {limits : Limits} {d : Document} {x y : Expression} {a b : Value}
    (hx : x.evaluate limits d = .value a) (hy : y.evaluate limits d = .value b) :
    Opposite (.comparison .lt) (.comparison .gte) ((call (.comparison .lt) [x, y]).evaluate limits d)
      ((call (.comparison .gte) [x, y]).evaluate limits d) ↔ (a.compareStrict? b).isSome := by
  have hcall (op : Comparison) : (call (.comparison op) [x, y]).evaluate limits d =
      .ofResult (.comparison op) (op.apply [a, b]) := by
    have hargs : [x, y].map (evaluate limits d) = [a, b].map .value :=
      map_evaluate_cons hx (map_evaluate_cons hy rfl)
    exact evaluate_call_of_values limits d (Function.isStrict_comparison op) hargs rfl
  rw [hcall, hcall]
  exact Comparison.opposite_ordered_iff a b

/-- **Complementary functions are negations of each other.**  On the same operands, however many and whatever their
outcomes are, the negation of either function is the same boolean as the other, both are null, or both are errors: of
one cause and in the same words after the name, which is that of the function or, in the error of an operand, the same
in both. -/
theorem complements_are_negations (limits : Limits) (d : Document) (h : f.Complementary g) (args : List Expression) :
    ((negated (call f args)).evaluate limits d).SameUnder f g ((call g args).evaluate limits d) ∧
      ((negated (call g args)).evaluate limits d).SameUnder g f ((call f args).evaluate limits d) := by
  have hopposite := opposite_evaluate limits d h args
  rw [evaluate_negated, evaluate_negated]
  exact ⟨hopposite.negation _, hopposite.symm.negation _⟩

/-- What one function of a pair answers settles the other: a NaN differs from itself, and a number from a text; whether
an array with a null differs from itself, or from every one of some candidates, is not known.  What is not set is
reported by each function under its own name, and so is a text that is asked whether it is a NaN. -/
theorem complements_are_negations_beside_nulls :
    let d : Document := ⟨⟨["c", "d"]⟩, [], none⟩
    let nan := literal (.double .nan)
    let one := literal (.integer 1)
    let text := literal (.string "1")
    let items := literal (.array [.integer 1, .null])
    let candidates := literal (.array [.array [.integer 2, .null], .array [.integer 1, .integer 2]])
    (Function.comparison .eq).Complementary (.comparison .neq) ∧
      (call (.comparison .neq) [nan, nan]).evaluate {} d = .boolean true ∧
      (call (.comparison .neq) [one, text]).evaluate {} d = .boolean true ∧
      (call (.comparison .neq) [items, items]).evaluate {} d = .null ∧
      (call (.comparison .notEqAny) [items, candidates]).evaluate {} d = .null ∧
      (call (.typeCheck .isNotNull) [literal .null]).evaluate {} d = .boolean false ∧
      (call (.typeCheck .isAbsent) [missingField]).evaluate {} d = .boolean true ∧
      Outcome.SameUnder (.comparison .eq) (.comparison .neq) (.error ⟨.comparison .eq, .unsetArgument⟩)
        (.error ⟨.comparison .neq, .unsetArgument⟩) ∧
      Outcome.SameUnder (.typeCheck .isNaN) (.typeCheck .isNotNaN)
        (.error ⟨.typeCheck .isNaN, .typeMismatch .number .string⟩)
        ((call (.typeCheck .isNotNaN) [text]).evaluate {} d) := by
  intro d nan one text items candidates
  have hnan := (complements_are_negations {} d .eq [nan, nan]).1
  have htext := (complements_are_negations {} d .eq [one, text]).1
  have hitems := (complements_are_negations {} d .eq [items, items]).1
  have hcandidates := (complements_are_negations {} d .eqAny [items, candidates]).1
  have hnull := (complements_are_negations {} d .isNull [literal .null]).1
  have hmissing := (complements_are_negations {} d .isSet [missingField]).1
  exact ⟨.eq, hnan.eq_of_answer (some true) rfl, htext.eq_of_answer (some true) rfl, hitems.eq_of_answer none rfl,
    hcandidates.eq_of_answer none rfl, hnull.eq_of_answer (some false) rfl, hmissing.eq_of_answer (some true) rfl,
    (complements_are_negations {} d .eq [one, missingField]).1, (complements_are_negations {} d .isNaN [text]).1⟩

end Expression

end DocumentQuery
