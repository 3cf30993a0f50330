import DocumentQuery.BuiltinEngine.Build
import DocumentQuery.Function.Apply
import DocumentQuery.Proofs.ValueOrder
import Mathlib.Data.List.Zip

/-! # Query equality and the order of values

Equality of queries and the order of sorts are two recursions over a pair of values.  A value is `Definite` if no
null and no NaN is anywhere inside it, and on definite values the two recursions agree at every depth: an answer
of true is a tie with a definite value (`Value.equals?_eq_some_true_iff`).  Nulls and NaN are what equality leaves
open or denies, while the order ties each of them with itself.

Equality does not look at the order of its operands (`Value.equals?_comm`), and the ties are transitive, so the
true answers of the function `eq` are symmetric and transitive. -/

namespace DocumentQuery

instance : Std.LawfulEqOrd Timestamp where
  eq_of_compare {a b} h := by
    obtain ⟨hs, hn⟩ := Ordering.then_eq_eq.mp h
    cases a
    cases b
    exact congrArg₂ Timestamp.mk (Std.LawfulEqOrd.eq_of_compare hs) (Std.LawfulEqOrd.eq_of_compare hn)

theorem Double.equals_comm (a b : Double) : a.equals b = b.equals a := by
  unfold Double.equals
  rw [Bool.and_comm !a.isNaN, BEq.comm]

namespace Truth

theorem both_eq_some_true_iff {a b : Option Bool} : both a b = some true ↔ a = some true ∧ b = some true := by
  cases a with
  | none => cases b with
    | none => simp [both]
    | some b => cases b <;> simp [both]
  | some a => cases a <;> simp [both]

theorem both_eq_some_false_iff {a b : Option Bool} :
    both a b = some false ↔ a = some false ∨ b = some false := by
  rcases a with _ | _ | _ <;> rcases b with _ | _ | _ <;> simp [both]

end Truth

namespace Value

/-- No null and no NaN is anywhere inside. -/
def Definite (v : Value) : Prop := v.Everywhere fun w => w.isNull = false ∧ ∀ d ∈ w.ownDoubles, d.isNaN = false

instance (v : Value) : Decidable v.Definite :=
  inferInstanceAs (Decidable (v.Everywhere fun w => w.isNull = false ∧ ∀ d ∈ w.ownDoubles, d.isNaN = false))

theorem definite_array {items : List Value} : (array items).Definite ↔ ∀ v ∈ items, v.Definite := by
  simp [Definite, everywhere_array, isNull, ownDoubles]

theorem definite_map {fields : Record} : (map fields).Definite ↔ ∀ f ∈ fields, f.2.Definite := by
  simp [Definite, everywhere_map, isNull, ownDoubles]

theorem definite_of_plain {v : Value} (ha : v.array? = none) (hm : v.map? = none) :
    v.Definite ↔ v.isNull = false ∧ ∀ d ∈ v.ownDoubles, d.isNaN = false :=
  everywhere_of_plain ha hm

/-! ### Doubles side by side -/

theorem zip_all_equals_iff {as bs : List Double} (h : as.length = bs.length) :
    ((as.zip bs).all fun p => p.1.equals p.2) ↔
      List.compareLex Double.compare as bs = .eq ∧ ∀ a ∈ as, a.isNaN = false := by
  induction as generalizing bs with
  | nil =>
      cases bs with
      | nil => simp [List.compareLex]
      | cons b bs => cases h
  | cons a as ih =>
      cases bs with
      | nil => cases h
      | cons b bs =>
          rw [List.zip_cons_cons, List.all_cons, Bool.and_eq_true, ih (Nat.succ.inj h), Double.equals_iff,
            List.compareLex_cons_cons, Ordering.then_eq_eq, List.forall_mem_cons]
          tauto

theorem vectorsEqual_iff {as bs : List Double} :
    (as.length = bs.length && (as.zip bs).all fun p => p.1.equals p.2) ↔
      compareVectors as bs = .eq ∧ ∀ a ∈ as, a.isNaN = false := by
  unfold compareVectors
  rw [Bool.and_eq_true, decide_eq_true_iff, Ordering.then_eq_eq, Std.LawfulEqOrd.compare_eq_iff_eq]
  constructor
  · rintro ⟨hlen, hall⟩
    obtain ⟨hcmp, hnan⟩ := (zip_all_equals_iff hlen).mp hall
    exact ⟨⟨hlen, hcmp⟩, hnan⟩
  · rintro ⟨⟨hlen, hcmp⟩, hnan⟩
    exact ⟨hlen, (zip_all_equals_iff hlen).mpr ⟨hcmp, hnan⟩⟩

theorem geoPointsEqual_iff {a b : GeoPoint} :
    (a.latitude.equals b.latitude && a.longitude.equals b.longitude) ↔
      a.compare b = .eq ∧ a.latitude.isNaN = false ∧ a.longitude.isNaN = false := by
  unfold GeoPoint.compare
  rw [Bool.and_eq_true, Double.equals_iff, Double.equals_iff, Ordering.then_eq_eq]
  tauto

/-! ### Values without nesting -/

theorem equals?_of_isNumber {a b : Value} (ha : a.isNumber) (hb : b.isNumber) :
    a.equals? b = some (equalNumbers a b) := by
  cases a <;> simp only [isNumber, Bool.false_eq_true] at ha <;>
    cases b <;> simp only [isNumber, Bool.false_eq_true] at hb <;>
      simp [equals?, rank, kind, Kind.rank]

theorem equalNumbers_iff {a b : Value} (ha : a.isNumber) (hb : b.isNumber) :
    equalNumbers a b ↔ a.compare b = .eq ∧ a.isNaN = false := by
  unfold equalNumbers
  simp only [compareNumeric_eq ha hb, compare_of_isNumber ha hb, Std.LawfulEqOrd.compare_eq_iff_eq,
    Bool.and_eq_true, Bool.not_eq_true', decide_eq_true_iff]
  constructor
  · rintro ⟨⟨hna, _⟩, hrank⟩
    exact ⟨hrank, hna⟩
  · rintro ⟨hrank, hna⟩
    -- A number that ties with one that is not NaN stands above every NaN.
    have hnb : b.isNaN = false := by
      rw [← Bool.not_eq_true, isNaN_iff_numericRank_lt ha] at hna
      rwa [← Bool.not_eq_true, isNaN_iff_numericRank_lt hb, ← hrank]
    exact ⟨⟨hna, hnb⟩, hrank⟩

theorem definite_of_isNumber {a : Value} (ha : a.isNumber) : a.Definite ↔ a.isNaN = false := by
  cases a <;> simp only [isNumber, Bool.false_eq_true] at ha <;>
    simp [Definite, Everywhere, parts, isNull, ownDoubles, isNaN]

theorem isNumber_iff_rank {a : Value} : a.isNumber ↔ a.rank = Kind.integer.rank := by
  cases a <;> simp [isNumber, rank, kind, Kind.rank]

/-- Values of different rank are not equal, and a null is not known to be. -/
theorem equals?_of_rank_ne {a b : Value} (h : a.rank ≠ b.rank) : a.equals? b ≠ some true := by
  cases a <;> cases b <;> first
    | exact absurd rfl h
    | simp [equals?, rank, kind, Kind.rank]

theorem compare_of_rank_ne {a b : Value} (h : a.rank ≠ b.rank) : a.compare b ≠ .eq := by
  rw [decidedByRank_compare a b h]
  exact fun heq => h (Std.LawfulEqOrd.eq_of_compare heq)

theorem plain_equals?_iff {a : Value} (ha : a.array? = none) (hm : a.map? = none) (b : Value) :
    a.equals? b = some true ↔ a.compare b = .eq ∧ a.Definite := by
  by_cases hr : a.rank = b.rank
  · by_cases hn : a.isNumber
    · have hb : b.isNumber := isNumber_iff_rank.mpr (hr ▸ isNumber_iff_rank.mp hn)
      rw [equals?_of_isNumber hn hb, Option.some.injEq, equalNumbers_iff hn hb, definite_of_isNumber hn]
    · rw [definite_of_plain ha hm]
      cases a with
      | null => simp [equals?, isNull]
      | integer _ | double _ => exact absurd rfl hn
      | boolean _ | string _ | bytes _ | timestamp _ | reference _ =>
          cases b <;> cases hr
          simp [equals?, compare, isNull, ownDoubles]
      | geoPoint _ =>
          cases b <;> cases hr
          rw [equals?, Option.some.injEq, geoPointsEqual_iff]
          simp [compare, isNull, ownDoubles]
      | vector _ =>
          cases b <;> cases hr
          rw [equals?, Option.some.injEq, vectorsEqual_iff]
          simp [compare, isNull, ownDoubles]
      | array _ => cases ha
      | map _ => cases hm
  · exact iff_of_false (equals?_of_rank_ne hr) fun h => compare_of_rank_ne hr h.1

/-! ### Nested values -/

theorem itemsEqual?_iff {as : List Value}
    (h : ∀ a ∈ as, ∀ b, a.equals? b = some true ↔ a.compare b = .eq ∧ a.Definite) :
    ∀ bs, itemsEqual? as bs = some true ↔ compareItems as bs = .eq ∧ ∀ a ∈ as, a.Definite := by
  induction as with
  | nil => intro bs; cases bs <;> simp [itemsEqual?, compareItems]
  | cons a as ih =>
      intro bs
      cases bs with
      | nil => simp [itemsEqual?, compareItems]
      | cons b bs =>
          have htail := ih (fun x hx => h x (List.mem_cons_of_mem a hx)) bs
          rw [itemsEqual?, compareItems, Truth.both_eq_some_true_iff, h a List.mem_cons_self b, htail,
            Ordering.then_eq_eq, List.forall_mem_cons]
          tauto

theorem fieldsEqual?_iff {as : Record}
    (h : ∀ f ∈ as, ∀ b, f.2.equals? b = some true ↔ f.2.compare b = .eq ∧ f.2.Definite) :
    ∀ bs, fieldsEqual? as bs = some true ↔ compareFields as bs = .eq ∧ ∀ f ∈ as, f.2.Definite := by
  induction as with
  | nil => intro bs; cases bs <;> simp [fieldsEqual?, compareFields]
  | cons f as ih =>
      intro bs
      cases bs with
      | nil => simp [fieldsEqual?, compareFields]
      | cons g bs =>
          have htail := ih (fun x hx => h x (List.mem_cons_of_mem f hx)) bs
          rw [fieldsEqual?, compareFields, Truth.both_eq_some_true_iff, Truth.both_eq_some_true_iff,
            h f List.mem_cons_self g.2, htail, Ordering.then_eq_eq, Ordering.then_eq_eq, List.forall_mem_cons,
            Option.some.injEq, decide_eq_true_iff, Std.LawfulEqOrd.compare_eq_iff_eq]
          tauto

/-- **An answer of true is a tie with a definite value.** -/
theorem equals?_eq_some_true_iff (a b : Value) : a.equals? b = some true ↔ a.compare b = .eq ∧ a.Definite := by
  induction a using nested_induction generalizing b with
  | plain a ha hm => exact plain_equals?_iff ha hm b
  | array as ih =>
      cases b with
      | array bs =>
          rw [equals?, compare, definite_array]
          exact itemsEqual?_iff ih bs
      | _ => simp [equals?, compare, rank, kind, Kind.rank]
  | map as ih =>
      cases b with
      | map bs =>
          rw [equals?, compare, definite_map]
          exact fieldsEqual?_iff ih bs
      | _ => simp [equals?, compare, rank, kind, Kind.rank]

/-! ### The order of the operands -/

theorem compareNumeric_swap (a b : Value) : compareNumeric b a = (compareNumeric a b).swap := by
  cases a <;> cases b <;> first
    | rfl
    | exact Std.OrientedOrd.eq_swap (α := Int)
    | exact Ordering.swap_swap.symm

theorem equalNumbers_comm (a b : Value) : equalNumbers a b = equalNumbers b a := by
  have hcmp : (compareNumeric b a = .eq) = (compareNumeric a b = .eq) := by
    rw [compareNumeric_swap a b, Ordering.swap_eq_eq]
  simp only [equalNumbers, hcmp, Bool.and_comm a.isNaN.not]

theorem vectorsEqual_comm (as bs : List Double) :
    (as.length = bs.length && (as.zip bs).all fun p => p.1.equals p.2) =
      (bs.length = as.length && (bs.zip as).all fun p => p.1.equals p.2) := by
  have hswap : ((fun p : Double × Double => p.1.equals p.2) ∘ Prod.swap) = fun p => p.1.equals p.2 :=
    funext fun p => Double.equals_comm p.2 p.1
  rw [← List.zip_swap as bs, List.all_map, hswap]
  simp only [eq_comm]

theorem plain_equals?_comm {a : Value} (ha : a.array? = none) (hm : a.map? = none) (b : Value) :
    a.equals? b = b.equals? a := by
  cases a with
  | array _ => cases ha
  | map _ => cases hm
  | vector as =>
      cases b with
      | vector bs => exact congrArg some (vectorsEqual_comm as bs)
      | _ => simp [equals?, eq_comm, equalNumbers_comm]
  | _ => cases b <;> simp [equals?, eq_comm, Double.equals_comm, equalNumbers_comm]

theorem itemsEqual?_comm {as : List Value} (h : ∀ a ∈ as, ∀ b, a.equals? b = b.equals? a) :
    ∀ bs, itemsEqual? as bs = itemsEqual? bs as := by
  induction as with
  | nil => intro bs; cases bs <;> rfl
  | cons a as ih =>
      intro bs
      cases bs with
      | nil => rfl
      | cons b bs =>
          have htail := ih (fun x hx => h x (List.mem_cons_of_mem a hx)) bs
          rw [itemsEqual?, itemsEqual?, h a List.mem_cons_self b, htail]

theorem fieldsEqual?_comm {as : Record} (h : ∀ f ∈ as, ∀ b, f.2.equals? b = b.equals? f.2) :
    ∀ bs, fieldsEqual? as bs = fieldsEqual? bs as := by
  induction as with
  | nil => intro bs; cases bs <;> rfl
  | cons f as ih =>
      intro bs
      cases bs with
      | nil => rfl
      | cons g bs =>
          have htail := ih (fun x hx => h x (List.mem_cons_of_mem f hx)) bs
          simp only [fieldsEqual?, h f List.mem_cons_self g.2, htail, eq_comm]

/-- **Equality does not look at the order of its operands**, and neither does its unknown answer. -/
theorem equals?_comm (a b : Value) : a.equals? b = b.equals? a := by
  induction a using nested_induction generalizing b with
  | plain a ha hm => exact plain_equals?_comm ha hm b
  | array as ih =>
      cases b with
      | array bs => exact itemsEqual?_comm ih bs
      | _ => simp [equals?, eq_comm, equalNumbers_comm]
  | map as ih =>
      cases b with
      | map bs => exact fieldsEqual?_comm ih bs
      | _ => simp [equals?, eq_comm, equalNumbers_comm]

end Value

/-! ### Strict functions of two values -/

namespace Function

variable {a b : Value}

/-- A null operand makes the outcome null. -/
theorem applyStrict_of_null (limits : Limits) (f : Function) (h : a = .null ∨ b = .null) :
    f.applyStrict limits [.ofValue a, .ofValue b] = .null := by
  rcases h with rfl | rfl
  · cases b <;> rfl
  · cases a <;> rfl

theorem applyStrict_of_ne_null (limits : Limits) (f : Function) (ha : a ≠ .null) (hb : b ≠ .null) :
    f.applyStrict limits [.ofValue a, .ofValue b] = .ofResult f (f.onValues limits [a, b]) := by
  rw [Outcome.ofValue_of_ne_null ha, Outcome.ofValue_of_ne_null hb]
  rfl

end Function

namespace Value

/-! ### The function `eq` -/

/-- The function `eq` answers true on two values. -/
def QueryEqual (limits : Limits) (a b : Value) : Prop :=
  (Function.comparison .eq).apply limits [.ofValue a, .ofValue b] = .boolean true

variable {limits : Limits} {a b c : Value}

theorem queryEqual_iff : QueryEqual limits a b ↔ a.equals? b = some true := by
  have hnull : ∀ v : Value, null.equals? v = none := fun v => by cases v <;> rfl
  by_cases ha : a = .null
  · rw [ha, hnull]
    cases b <;> exact iff_of_false nofun nofun
  by_cases hb : b = .null
  · rw [hb, equals?_comm, hnull]
    cases a <;> exact iff_of_false nofun nofun
  have hfun : (Function.comparison .eq).apply limits [.value a, .value b] = .ofTruth (a.equals? b) := rfl
  rw [QueryEqual, Outcome.ofValue_of_ne_null ha, Outcome.ofValue_of_ne_null hb, hfun]
  cases a.equals? b <;> simp [Outcome.ofTruth, Outcome.boolean]

theorem QueryEqual.symm (h : QueryEqual limits a b) : QueryEqual limits b a := by
  rw [queryEqual_iff] at h ⊢
  rwa [equals?_comm]

theorem QueryEqual.trans (hab : QueryEqual limits a b) (hbc : QueryEqual limits b c) :
    QueryEqual limits a c := by
  rw [queryEqual_iff, equals?_eq_some_true_iff] at hab hbc ⊢
  exact ⟨Std.TransCmp.eq_trans hab.1 hbc.1, hab.2⟩

/-- A tie that equality does not confirm has a null or a NaN on either side. -/
theorem not_definite_of_tie (h : a.compare b = .eq) (hne : ¬ QueryEqual limits a b) :
    ¬ a.Definite ∧ ¬ b.Definite := by
  rw [queryEqual_iff] at hne
  have hba : b.compare a = .eq := by rw [compare_swap a b, h]; rfl
  refine ⟨fun ha => hne ((equals?_eq_some_true_iff a b).mpr ⟨h, ha⟩), fun hb => hne ?_⟩
  rw [equals?_comm]
  exact (equals?_eq_some_true_iff b a).mpr ⟨hba, hb⟩

/-- **Query equality is order equality without nulls and NaN**, for values of any nesting.  The true answers of
`eq` are therefore symmetric and transitive, and they separate tied values only where a null or a NaN is inside
both of them. -/
theorem query_equality_is_definite_tie (limits : Limits) :
    (∀ a b : Value, a.equals? b = some true ↔ a.compare b = .eq ∧ a.Definite) ∧
      (∀ a b, QueryEqual limits a b ↔ a.equals? b = some true) ∧
      (∀ a b, QueryEqual limits a b → QueryEqual limits b a) ∧
      (∀ a b c, QueryEqual limits a b → QueryEqual limits b c → QueryEqual limits a c) ∧
      ∀ a b : Value, a.compare b = .eq → ¬ QueryEqual limits a b → ¬ a.Definite ∧ ¬ b.Definite :=
  ⟨equals?_eq_some_true_iff, fun _ _ => queryEqual_iff, fun _ _ => QueryEqual.symm,
    fun _ _ _ => QueryEqual.trans, fun _ _ => not_definite_of_tie⟩

/-- Inside a map and an array the zeros of both kinds of number are equal to one another, while a NaN in a vector
ties with itself and is not equal to itself. -/
theorem query_equality_at_zeros_and_nan :
    QueryEqual {} (map [("k", array [integer 0, boolean true])])
        (map [("k", array [double .zero, boolean true])]) ∧
      (vector [.one, .nan]).compare (vector [.one, .nan]) = .eq ∧
        ¬ QueryEqual {} (vector [.one, .nan]) (vector [.one, .nan]) ∧ ¬ (vector [.one, .nan]).Definite := by
  have heq (a b : Value) := (query_equality_is_definite_tie {}).2.1 a b
  have hleft : QueryEqual {} (map [("k", array [integer 0, boolean true])])
      (map [("k", array [double .negativeZero, boolean true])]) := (heq _ _).mpr (by decide +kernel)
  have hright : QueryEqual {} (map [("k", array [double .negativeZero, boolean true])])
      (map [("k", array [double .zero, boolean true])]) := (heq _ _).mpr (by decide +kernel)
  have htie : (vector [.one, .nan]).compare (vector [.one, .nan]) = .eq := by decide +kernel
  have hnot : ¬ QueryEqual {} (vector [.one, .nan]) (vector [.one, .nan]) := by
    rw [heq]
    decide +kernel
  exact ⟨(query_equality_is_definite_tie {}).2.2.2.1 _ _ _ hleft hright, htie, hnot,
    ((query_equality_is_definite_tie {}).2.2.2.2 _ _ htie hnot).1⟩

end Value

end DocumentQuery
