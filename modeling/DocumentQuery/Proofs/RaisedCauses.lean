import DocumentQuery.Function.Apply
import DocumentQuery.Proofs.Yields
import Mathlib.Data.List.Basic

/-! # What a function can raise

`Function.CanRaise` says which causes a call of a function on some number of operands can raise.  Here it is shown of
the functions of values: on an accepted number of values, what they fail with is a cause that they can raise
(`Function.failsWith_onValues`).

Where a function has no case for its operands, it answers `wrongCount`.  `CanRaise` allows that only for a number of
operands that the function does not accept, so the statement for accepted numbers says in particular that a case is
always found.  Each family is shown to do so operation by operation, with the operands that the arity of the operation
prescribes. -/

namespace DocumentQuery

namespace Function

/-- The causes that a call of a function on some number of operands can raise. -/
def CanRaise (f : Function) (count : Nat) : Cause → Prop
  | .unsetArgument | .typeMismatch _ _ => True
  | .divisionByZero => f ∈ [arithmetic .divide, arithmetic .mod]
  | .overflow =>
    f ∈ [arithmetic .add, arithmetic .subtract, arithmetic .multiply, arithmetic .divide, arithmetic .abs]
  | .timestampOutOfRange =>
    f ∈ [timestamp .ofUnixMicros, timestamp .ofUnixMillis, timestamp .ofUnixSeconds, timestamp .add,
      timestamp .sub]
  | .dimensionMismatch _ _ => f ∈ [vector .dotProduct, vector .cosineDistance, vector .euclideanDistance]
  | .zeroMagnitude => f = vector .cosineDistance
  | .invalidPattern _ => f ∈ [string .like, string .regexMatch, string .regexContains]
  | .invalidArgument _ =>
    f ∈ [arithmetic .ln, arithmetic .log10, arithmetic .log, arithmetic .sqrt, string .substring,
      timestamp .add, timestamp .sub]
  | .wrongCount actual => actual = count ∧ ¬ f.arity.Accepts count

end Function

variable {f : Function} {n : Nat}

/-! ### Operands of a wanted kind -/

namespace Value

theorem failsWith_demand {α : Type} (expected : Expected) (content? : Value → Option α) (v : Value) :
    FailsWith (f.CanRaise n) (v.demand expected content?) := by
  unfold demand
  cases content? v with
  | none => exact .error trivial
  | some a => exact .ok

end Value

open Value

/-! ### Functions of values -/

namespace Arithmetic

theorem failsWith_checked (hover : f.CanRaise n .overflow) (i : Int) : FailsWith (f.CanRaise n) (checked i) := by
  unfold checked
  split
  · exact .ok
  · exact .error hover

theorem failsWith_integerQuotient (hzero : f.CanRaise n .divisionByZero) (hover : f.CanRaise n .overflow)
    (a b : Int) : FailsWith (f.CanRaise n) (integerQuotient a b) := by
  unfold integerQuotient
  split_ifs
  · exact .error hzero
  · exact failsWith_checked hover _

/-- A remainder is smaller than the divisor, so that a word holds it. -/
theorem failsWith_integerRemainder (hzero : f.CanRaise n .divisionByZero) (a b : Int64) :
    FailsWith (f.CanRaise n) (integerRemainder a.toInt b.toInt) := by
  unfold integerRemainder
  split_ifs with hb
  · exact .error hzero
  · unfold checked
    rw [Integer.ofInt?, if_pos (Integer.fits_tmod _ (Integer.fits_toInt b) hb)]
    exact .ok

theorem failsWith_onTwo {onIntegers : Int → Int → Except Cause Int64}
    (h : ∀ a b : Int64, FailsWith (f.CanRaise n) (onIntegers a.toInt b.toInt))
    (onDoubles : Double → Double → Double) (a b : Value) :
    FailsWith (f.CanRaise n) (onTwo onIntegers onDoubles a b) := by
  unfold onTwo
  split
  · exact (h _ _).map
  · exact .map (.bind (failsWith_demand _ _ _) fun _ => .bind (failsWith_demand _ _ _) fun _ => .ok)

theorem failsWith_notBelowZero (h : ∀ fault, f.CanRaise n (.invalidArgument fault)) (v : Value) :
    FailsWith (f.CanRaise n) (notBelowZero v) := by
  refine .bind (failsWith_demand _ _ _) fun x => ?_
  split_ifs
  · exact .error (h _)
  · exact .ok

theorem failsWith_logBase (h : ∀ fault, f.CanRaise n (.invalidArgument fault)) (v : Value) :
    FailsWith (f.CanRaise n) (logBase v) := by
  refine .bind (failsWith_demand _ _ _) fun x => ?_
  split_ifs
  · exact .error (h _)
  · exact .ok

theorem failsWith_rounded (round : Double → Double) (v : Value) :
    FailsWith (f.CanRaise n) (rounded round v) := by
  unfold rounded
  split
  · exact .ok
  · exact .map (.map (failsWith_demand _ _ _))

theorem failsWith_absolute (hover : f.CanRaise n .overflow) (v : Value) :
    FailsWith (f.CanRaise n) (absolute v) := by
  unfold absolute
  split
  · exact .map (failsWith_checked hover _)
  · exact .map (.map (failsWith_demand _ _ _))

theorem failsWith_apply (op : Arithmetic) {args : List Value}
    (h : (Function.arithmetic op).arity.Accepts args.length) :
    FailsWith ((Function.arithmetic op).CanRaise args.length) (op.apply args) := by
  cases op with
  | add | subtract | multiply =>
      obtain ⟨a, b, rfl⟩ := List.length_eq_two.mp h
      rw [apply]
      exact failsWith_onTwo (fun _ _ => failsWith_checked (by simp [Function.CanRaise]) _) _ a b
  | divide =>
      obtain ⟨a, b, rfl⟩ := List.length_eq_two.mp h
      exact failsWith_onTwo (fun _ _ => failsWith_integerQuotient (by simp [Function.CanRaise])
        (by simp [Function.CanRaise]) _ _) _ a b
  | mod =>
      obtain ⟨a, b, rfl⟩ := List.length_eq_two.mp h
      exact failsWith_onTwo (failsWith_integerRemainder (by simp [Function.CanRaise])) _ a b
  | pow =>
      obtain ⟨a, b, rfl⟩ := List.length_eq_two.mp h
      exact .map (.bind (failsWith_demand _ _ _) fun _ => .bind (failsWith_demand _ _ _) fun _ => .ok)
  | log =>
      obtain ⟨a, b, rfl⟩ := List.length_eq_two.mp h
      exact .map (.bind (failsWith_notBelowZero (by simp [Function.CanRaise]) _) fun _ =>
        .bind (failsWith_logBase (by simp [Function.CanRaise]) _) fun _ => .ok)
  | exp =>
      obtain ⟨a, rfl⟩ := List.length_eq_one_iff.mp h
      exact .map (.map (failsWith_demand _ _ _))
  | ln | log10 | sqrt =>
      obtain ⟨a, rfl⟩ := List.length_eq_one_iff.mp h
      exact .map (.map (failsWith_notBelowZero (by simp [Function.CanRaise]) _))
  | abs =>
      obtain ⟨a, rfl⟩ := List.length_eq_one_iff.mp h
      exact failsWith_absolute (by simp [Function.CanRaise]) a
  | ceil | floor | round =>
      obtain ⟨a, rfl⟩ := List.length_eq_one_iff.mp h
      exact failsWith_rounded _ a

end Arithmetic

namespace Comparison

theorem failsWith_apply (op : Comparison) {args : List Value}
    (h : (Function.comparison op).arity.Accepts args.length) :
    FailsWith ((Function.comparison op).CanRaise args.length) (op.apply args) := by
  obtain ⟨a, b, rfl⟩ := List.length_eq_two.mp h
  cases op with
  | eq | neq | lt | lte | gt | gte => exact .ok
  | eqAny | notEqAny => exact .map (failsWith_demand _ _ b)

end Comparison

namespace ArrayFunction

theorem failsWith_concatenated (args : List Value) : FailsWith (f.CanRaise n) (concatenated args) := by
  induction args with
  | nil => exact .ok
  | cons v rest ih => exact .bind (failsWith_demand _ _ v) fun _ => .bind ih fun _ => .ok

/-- The constructor of arrays is not among the functions of values. -/
theorem failsWith_apply {op : ArrayFunction} (hop : op ≠ .array) {args : List Value}
    (h : (Function.array op).arity.Accepts args.length) :
    FailsWith ((Function.array op).CanRaise args.length) (op.apply args) := by
  cases op with
  | array => exact absurd rfl hop
  | contains =>
      obtain ⟨a, b, rfl⟩ := List.length_eq_two.mp h
      exact .map (failsWith_demand _ _ a)
  | containsAny | containsAll =>
      obtain ⟨a, b, rfl⟩ := List.length_eq_two.mp h
      exact .bind (failsWith_demand _ _ a) fun _ => .bind (failsWith_demand _ _ b) fun _ => .ok
  | length | reverse =>
      obtain ⟨a, rfl⟩ := List.length_eq_one_iff.mp h
      exact .map (failsWith_demand _ _ a)
  | concat => exact .map (failsWith_concatenated args)
  | get =>
      obtain ⟨a, b, rfl⟩ := List.length_eq_two.mp h
      exact .bind (failsWith_demand _ _ a) fun _ => .bind (failsWith_demand _ _ b) fun _ => .ok

end ArrayFunction

namespace StringFunction

theorem failsWith_concatTexts (args : List Value) : FailsWith (f.CanRaise n) (concatTexts args) := by
  induction args with
  | nil => exact .ok
  | cons v rest ih =>
      cases v with
      | string _ => exact .map ih
      | _ => exact .error trivial

theorem failsWith_concatBytes (args : List Value) : FailsWith (f.CanRaise n) (concatBytes args) := by
  induction args with
  | nil => exact .ok
  | cons v rest ih =>
      cases v with
      | bytes _ => exact .map ih
      | _ => exact .error trivial

theorem failsWith_concatArrays (args : List Value) : FailsWith (f.CanRaise n) (concatArrays args) := by
  induction args with
  | nil => exact .ok
  | cons v rest ih =>
      cases v with
      | array _ => exact .map ih
      | _ => exact .error trivial

/-- There is a first operand to say what kind the others must be. -/
theorem failsWith_concatenated {args : List Value} (h : 1 ≤ args.length) :
    FailsWith (f.CanRaise n) (concatenated args) := by
  cases args with
  | nil => cases h
  | cons v rest =>
      cases v with
      | string _ => exact .map (failsWith_concatTexts _)
      | bytes _ => exact .map (failsWith_concatBytes _)
      | array _ => exact .map (failsWith_concatArrays _)
      | _ => exact .error trivial

theorem failsWith_span (h : ∀ fault, f.CanRaise n (.invalidArgument fault)) (size : Nat) (position : Int64)
    (length : Option Int64) : FailsWith (f.CanRaise n) (span size position length) := by
  cases length with
  | none => exact .ok
  | some l =>
      rw [span]
      split_ifs <;> first
        | exact .error (h _)
        | exact .ok

theorem failsWith_piece (h : ∀ fault, f.CanRaise n (.invalidArgument fault)) (text position : Value)
    (length : Option Value) : FailsWith (f.CanRaise n) (piece text position length) := by
  refine .bind (failsWith_demand _ _ position) fun p => ?_
  refine .bind (.optionMapM (failsWith_demand _ _) length) fun l => ?_
  cases text with
  | string _ | bytes _ => exact .bind (failsWith_span h _ _ _) fun _ => .ok
  | _ => exact .error trivial

theorem failsWith_matched (h : ∀ fault, f.CanRaise n (.invalidPattern fault)) (limits : Limits)
    (form : String → String) (a b : Value) : FailsWith (f.CanRaise n) (matched limits form a b) := by
  refine .bind (failsWith_demand _ _ a) fun s => .bind (failsWith_demand _ _ b) fun pattern => ?_
  cases Pattern.compile limits form pattern with
  | ok _ => exact .ok
  | error fault => exact .error (h fault)

theorem failsWith_test (op : List Char → List Char → Bool) (a b : Value) :
    FailsWith (f.CanRaise n) (test op a b) :=
  .bind (failsWith_demand _ _ a) fun _ => .bind (failsWith_demand _ _ b) fun _ => .ok

theorem failsWith_size (v : Value) : FailsWith (f.CanRaise n) (size v) := by
  cases v with
  | string _ | bytes _ => exact .ok
  | _ => exact .error trivial

theorem failsWith_reversed (v : Value) : FailsWith (f.CanRaise n) (reversed v) := by
  cases v with
  | string _ | bytes _ => exact .ok
  | _ => exact .error trivial

theorem failsWith_apply (limits : Limits) (op : StringFunction) {args : List Value}
    (h : (Function.string op).arity.Accepts args.length) :
    FailsWith ((Function.string op).CanRaise args.length) (op.apply limits args) := by
  cases op with
  | concat => exact .map (failsWith_concatenated h)
  | byteLength =>
      obtain ⟨a, rfl⟩ := List.length_eq_one_iff.mp h
      exact .map (failsWith_size a)
  | charLength =>
      obtain ⟨a, rfl⟩ := List.length_eq_one_iff.mp h
      exact .map (.map (failsWith_demand _ _ a))
  | toLower | toUpper | trim | trimStart | trimEnd =>
      obtain ⟨a, rfl⟩ := List.length_eq_one_iff.mp h
      exact .map (failsWith_demand _ _ a)
  | like | regexMatch | regexContains =>
      obtain ⟨a, b, rfl⟩ := List.length_eq_two.mp h
      refine failsWith_matched ?_ limits _ a b
      simp [Function.CanRaise]
  | startsWith | endsWith | contains =>
      obtain ⟨a, b, rfl⟩ := List.length_eq_two.mp h
      rw [apply]
      exact failsWith_test _ a b
  | substring =>
      have hfault : ∀ fault, (Function.string .substring).CanRaise args.length (.invalidArgument fault) := by
        simp [Function.CanRaise]
      obtain ⟨hleast, hmost⟩ := h
      obtain hlength | hlength : args.length = 2 ∨ args.length = 3 := by omega
      · obtain ⟨a, b, rfl⟩ := List.length_eq_two.mp hlength
        exact .map (failsWith_piece hfault a b none)
      · obtain ⟨a, b, c, rfl⟩ := List.length_eq_three.mp hlength
        exact .map (failsWith_piece hfault a b (some c))
  | reverse =>
      obtain ⟨a, rfl⟩ := List.length_eq_one_iff.mp h
      exact .map (failsWith_reversed a)

end StringFunction

namespace MapFunction

theorem failsWith_merged (fields : Record) (args : List Value) :
    FailsWith (f.CanRaise n) (merged fields args) := by
  induction args generalizing fields with
  | nil => exact .ok
  | cons v rest ih => exact .bind (failsWith_demand _ _ v) fun others => ih (Keyed.merge fields others)

/-- The constructor of maps is not among the functions of values. -/
theorem failsWith_apply {op : MapFunction} (hop : op ≠ .map) {args : List Value}
    (h : (Function.map op).arity.Accepts args.length) :
    FailsWith ((Function.map op).CanRaise args.length) (op.apply args) := by
  cases op with
  | map => exact absurd rfl hop
  | get | remove =>
      obtain ⟨a, b, rfl⟩ := List.length_eq_two.mp h
      exact .bind (failsWith_demand _ _ a) fun _ => .bind (failsWith_demand _ _ b) fun _ => .ok
  | merge => exact .map (failsWith_merged [] args)

end MapFunction

namespace TimestampFunction

theorem failsWith_inRange (hrange : f.CanRaise n .timestampOutOfRange) (t : Option Timestamp) :
    FailsWith (f.CanRaise n) (inRange t) := by
  cases t with
  | none => exact .error hrange
  | some _ => exact .ok

theorem failsWith_unitOf (h : ∀ fault, f.CanRaise n (.invalidArgument fault)) (v : Value) :
    FailsWith (f.CanRaise n) (unitOf v) := by
  refine .bind (failsWith_demand _ _ v) fun name => ?_
  cases TimeUnit.ofName? name with
  | none => exact .error (h _)
  | some _ => exact .ok

theorem failsWith_shifted (h : ∀ fault, f.CanRaise n (.invalidArgument fault))
    (hrange : f.CanRaise n .timestampOutOfRange) (sign : Int) (time unit amount : Value) :
    FailsWith (f.CanRaise n) (shifted sign time unit amount) :=
  .bind (failsWith_demand _ _ time) fun _ => .bind (failsWith_unitOf h unit) fun _ =>
    .bind (failsWith_demand _ _ amount) fun _ => failsWith_inRange hrange _

theorem failsWith_apply (op : TimestampFunction) {args : List Value}
    (h : (Function.timestamp op).arity.Accepts args.length) :
    FailsWith ((Function.timestamp op).CanRaise args.length) (op.apply args) := by
  cases op with
  | ofUnixMicros | ofUnixMillis | ofUnixSeconds =>
      obtain ⟨a, rfl⟩ := List.length_eq_one_iff.mp h
      refine .bind (failsWith_demand _ _ a) fun _ => failsWith_inRange ?_ _
      simp [Function.CanRaise]
  | toUnixMicros | toUnixMillis | toUnixSeconds =>
      obtain ⟨a, rfl⟩ := List.length_eq_one_iff.mp h
      exact .map (failsWith_demand _ _ a)
  | add | sub =>
      obtain ⟨a, b, c, rfl⟩ := List.length_eq_three.mp h
      refine failsWith_shifted ?_ ?_ _ a b c <;> simp [Function.CanRaise]

end TimestampFunction

namespace VectorFunction

theorem failsWith_ofOneDimension (h : ∀ left right, f.CanRaise n (.dimensionMismatch left right)) (a b : Value) :
    FailsWith (f.CanRaise n) (ofOneDimension a b) := by
  refine .bind (failsWith_demand _ _ a) fun x => .bind (failsWith_demand _ _ b) fun y => ?_
  split_ifs
  · exact .ok
  · exact .error (h _ _)

theorem failsWith_cosine (hzero : f.CanRaise n .zeroMagnitude) (x y : List Double) :
    FailsWith (f.CanRaise n) (cosine x y) := by
  unfold cosine
  dsimp only
  split_ifs
  · exact .error hzero
  · exact .ok

theorem failsWith_apply (op : VectorFunction) {args : List Value}
    (h : (Function.vector op).arity.Accepts args.length) :
    FailsWith ((Function.vector op).CanRaise args.length) (op.apply args) := by
  cases op with
  | length =>
      obtain ⟨a, rfl⟩ := List.length_eq_one_iff.mp h
      exact .map (failsWith_demand _ _ a)
  | dotProduct | euclideanDistance =>
      obtain ⟨a, b, rfl⟩ := List.length_eq_two.mp h
      refine .map (failsWith_ofOneDimension ?_ a b)
      simp [Function.CanRaise]
  | cosineDistance =>
      obtain ⟨a, b, rfl⟩ := List.length_eq_two.mp h
      refine .bind (failsWith_ofOneDimension ?_ a b) fun p => .bind (failsWith_cosine rfl p.1 p.2) fun _ => .ok
      simp [Function.CanRaise]

end VectorFunction

namespace Function

/-- The functions that see values have a case for every accepted number of them. -/
theorem failsWith_onValues (limits : Limits) {values : List Value} (hlogical : ∀ op, f ≠ logical op)
    (htypeCheck : ∀ op, f ≠ typeCheck op) (harray : f ≠ array .array) (hmap : f ≠ map .map)
    (h : f.arity.Accepts values.length) : FailsWith (f.CanRaise values.length) (f.onValues limits values) := by
  cases f with
  | arithmetic op => exact op.failsWith_apply h
  | comparison op => exact op.failsWith_apply h
  | array op => exact ArrayFunction.failsWith_apply (fun hop => harray (congrArg array hop)) h
  | string op => exact op.failsWith_apply limits h
  | map op => exact MapFunction.failsWith_apply (fun hop => hmap (congrArg map hop)) h
  | timestamp op => exact op.failsWith_apply h
  | vector op => exact op.failsWith_apply h
  | logical op => exact absurd rfl (hlogical op)
  | typeCheck op => exact absurd rfl (htypeCheck op)

end Function

end DocumentQuery
