import DocumentQuery.Proofs.Connectives
import DocumentQuery.Proofs.ValueOrder
import Mathlib.Data.List.Induction

/-! # The leftmost of the best values

An extreme keeps the best value so far and gives it up only for a value beyond it, which is one that stands in the
wanted order to it.  So it is a fold of one operation on values (`Value.better`): operands without a value count for
nothing, and the leftmost error comes first (`Logical.extreme_eq_of_best`).

Being beyond is a strict order whose ties are transitive (`Value.compare_ne_trans`), because the order of all values is
a total preorder.  From this, the best value so far is that of the leftmost operand with nothing beyond it
(`Logical.isLeftmostBest_of_bestOf`), and the operation is associative (`Value.better_assoc`), so that an extreme may be
taken of parts of its operands first (`Logical.extreme_append`). -/

namespace DocumentQuery

namespace Value

/-! ### The better of two values -/

variable {wanted : Ordering} {u v w : Value}

/-- The second of two values if it is beyond the first, and else the first. -/
def better (wanted : Ordering) (v w : Value) : Value := if w.compare v = wanted then w else v

/-- Where nothing is beyond on two steps, nothing is beyond on both together. -/
theorem compare_ne_trans (hwanted : wanted ≠ .eq) (huv : u.compare v ≠ wanted) (hvw : v.compare w ≠ wanted) :
    u.compare w ≠ wanted := by
  have hpreorder : TotalPreorder Value.compare := totalPreorder_of_transCmp _
  cases wanted with
  | eq => exact absurd rfl hwanted
  | gt => exact hpreorder.trans u v w huv hvw
  | lt =>
      have hvu : v.compare u ≠ .gt := mt Std.OrientedCmp.gt_iff_lt.mp huv
      have hwv : w.compare v ≠ .gt := mt Std.OrientedCmp.gt_iff_lt.mp hvw
      exact mt Std.OrientedCmp.gt_iff_lt.mpr (hpreorder.trans w v u hwv hvu)

theorem compare_ne_of_compare_eq (hwanted : wanted ≠ .eq) (huv : u.compare v = wanted) : v.compare u ≠ wanted := by
  rw [compare_swap u v, huv]
  cases wanted with
  | eq => exact absurd rfl hwanted
  | lt | gt => nofun

/-- What is beyond a value is beyond all that are not. -/
theorem compare_eq_of_compare_ne (hwanted : wanted ≠ .eq) (huv : u.compare v = wanted) (hwv : w.compare v ≠ wanted) :
    u.compare w = wanted := by
  by_contra huw
  exact compare_ne_trans hwanted huw hwv huv

/-- Two values of which none is beyond the other tie. -/
theorem compare_eq_eq_of_compare_ne (hwanted : wanted ≠ .eq) (huv : u.compare v ≠ wanted)
    (hvu : v.compare u ≠ wanted) : u.compare v = .eq := by
  rw [compare_swap u v] at hvu
  cases hcompare : u.compare v with
  | eq => rfl
  | lt | gt => cases wanted <;> simp_all

theorem better_assoc (hwanted : wanted ≠ .eq) : Std.Associative (better wanted) where
  assoc u v w := by
    by_cases hvu : v.compare u = wanted
    · have hleft : better wanted u v = v := if_pos hvu
      rw [hleft]
      by_cases hwv : w.compare v = wanted
      · have huw : w.compare u = wanted :=
          compare_eq_of_compare_ne hwanted hwv (compare_ne_of_compare_eq hwanted hvu)
        have hright : better wanted v w = w := if_pos hwv
        rw [hright, better, if_pos huw]
      · have hright : better wanted v w = v := if_neg hwv
        rw [hright, hleft]
    · have hleft : better wanted u v = u := if_neg hvu
      rw [hleft]
      by_cases hwv : w.compare v = wanted
      · have hright : better wanted v w = w := if_pos hwv
        rw [hright]
      · have hright : better wanted v w = v := if_neg hwv
        rw [hright, hleft, better, if_neg (compare_ne_trans hwanted hwv hvu)]

end Value

namespace Outcome

variable {o : Outcome}

theorem value?_eq_some_iff {v : Value} : o.value? = some v ↔ o = value v := by
  cases o <;> simp [value?]

theorem error?_eq_some_iff {e : EvalError} : o.error? = some e ↔ o = error e := by
  cases o <;> simp [error?]

end Outcome

namespace Logical

variable {wanted : Ordering} {v w : Value} {o : Outcome} {args xs ys : List Outcome}

/-! ### The best value of the operands -/

/-- The best of the values among the operands, if there is one. -/
def bestOf (wanted : Ordering) (args : List Outcome) : Option Value :=
  (args.map Outcome.value?).foldl (Option.merge (Value.better wanted)) none

/-- Nothing is beyond this value of an operand. -/
def IsBest (wanted : Ordering) (args : List Outcome) (v : Value) : Prop :=
  .value v ∈ args ∧ ∀ w, .value w ∈ args → w.compare v ≠ wanted

/-- The value of the leftmost operand with nothing beyond it. -/
def IsLeftmostBest (wanted : Ordering) (args : List Outcome) (v : Value) : Prop :=
  IsBest wanted args v ∧
    ∃ before after, args = before ++ .value v :: after ∧ ∀ w, .value w ∈ before → ¬ IsBest wanted args w

theorem bestOf_concat (wanted : Ordering) (args : List Outcome) (o : Outcome) :
    bestOf wanted (args ++ [o]) = Option.merge (Value.better wanted) (bestOf wanted args) o.value? := by
  simp [bestOf]

theorem bestOf_append (hwanted : wanted ≠ .eq) (xs ys : List Outcome) :
    bestOf wanted (xs ++ ys) = Option.merge (Value.better wanted) (bestOf wanted xs) (bestOf wanted ys) := by
  have := Value.better_assoc hwanted
  have hstart : bestOf wanted xs = Option.merge (Value.better wanted) (bestOf wanted xs) none :=
    Option.merge_none_right.symm
  unfold bestOf at hstart ⊢
  rw [List.map_append, List.foldl_append, hstart, List.foldl_assoc, ← hstart]

theorem IsBest.of_concat (h : IsBest wanted (args ++ [o]) v) (hv : .value v ∈ args) : IsBest wanted args v :=
  ⟨hv, fun w hw => h.2 w (List.mem_append_left _ hw)⟩

/-- One more operand that is not beyond the best value leaves it where it is. -/
theorem IsLeftmostBest.concat (h : IsLeftmostBest wanted args v) (ho : ∀ w, o = .value w → w.compare v ≠ wanted) :
    IsLeftmostBest wanted (args ++ [o]) v := by
  obtain ⟨⟨hv, hbeyond⟩, before, after, hargs, hbefore⟩ := h
  refine ⟨⟨List.mem_append_left _ hv, fun w hw => ?_⟩, before, after ++ [o], ?_, fun w hw hbest => ?_⟩
  · rcases List.mem_append.mp hw with hw | hw
    · exact hbeyond w hw
    · exact ho w (List.mem_singleton.mp hw).symm
  · rw [hargs, List.append_assoc, List.cons_append]
  · exact hbefore w hw (hbest.of_concat (hargs ▸ List.mem_append_left _ hw))

/-- One more operand that is beyond all others is the best. -/
theorem isLeftmostBest_last (hwanted : wanted ≠ .eq) (h : ∀ v, .value v ∈ args → w.compare v = wanted) :
    IsLeftmostBest wanted (args ++ [.value w]) w := by
  have hlast : .value w ∈ args ++ [Outcome.value w] := List.mem_append_right _ (List.mem_singleton_self _)
  refine ⟨⟨hlast, fun v hv => ?_⟩, args, [], rfl, fun v hv hbest => hbest.2 w hlast (h v hv)⟩
  rcases List.mem_append.mp hv with hv | hv
  · exact Value.compare_ne_of_compare_eq hwanted (h v hv)
  · obtain rfl : v = w := Outcome.value.inj (List.mem_singleton.mp hv)
    intro hself
    exact Value.compare_ne_of_compare_eq hwanted hself hself

theorem not_mem_of_bestOf (h : bestOf wanted args = none) (v : Value) : .value v ∉ args := by
  induction args using List.reverseRecOn with
  | nil => exact List.not_mem_nil
  | append_singleton args o ih =>
      rw [bestOf_concat, Option.merge_eq_none_iff] at h
      intro hv
      rcases List.mem_append.mp hv with hv | hv
      · exact ih h.1 hv
      · rw [← List.mem_singleton.mp hv] at h
        cases h.2

/-- **The best value is that of the leftmost operand with nothing beyond it.** -/
theorem isLeftmostBest_of_bestOf (hwanted : wanted ≠ .eq) (h : bestOf wanted args = some v) :
    IsLeftmostBest wanted args v := by
  induction args using List.reverseRecOn generalizing v with
  | nil => cases h
  | append_singleton args o ih =>
      rw [bestOf_concat] at h
      cases ho : o.value? with
      | none =>
          rw [ho, Option.merge_none_right] at h
          refine (ih h).concat fun w hw => ?_
          rw [Outcome.value?_eq_some_iff.mpr hw] at ho
          cases ho
      | some w =>
          obtain rfl := Outcome.value?_eq_some_iff.mp ho
          cases hbest : bestOf wanted args with
          | none =>
              obtain rfl : w = v := by simpa [hbest, ho] using h
              exact isLeftmostBest_last hwanted fun u hu => absurd hu (not_mem_of_bestOf hbest u)
          | some u =>
              have hu := ih hbest
              obtain rfl : Value.better wanted u w = v := by simpa [hbest, ho] using h
              unfold Value.better
              split_ifs with hbeyond
              · exact isLeftmostBest_last hwanted fun x hx =>
                  Value.compare_eq_of_compare_ne hwanted hbeyond (hu.1.2 x hx)
              · refine hu.concat fun x hx => ?_
                obtain rfl := Outcome.value.inj hx
                exact hbeyond

/-- Either no operand has a value, or the best one is there. -/
theorem bestOf_cases (hwanted : wanted ≠ .eq) (args : List Outcome) :
    (bestOf wanted args = none ∧ ∀ v, .value v ∉ args) ∨
      ∃ v, bestOf wanted args = some v ∧ IsLeftmostBest wanted args v := by
  cases h : bestOf wanted args with
  | none => exact .inl ⟨rfl, not_mem_of_bestOf h⟩
  | some v => exact .inr ⟨v, rfl, isLeftmostBest_of_bestOf hwanted h⟩

theorem IsBest.compare_eq_eq (hwanted : wanted ≠ .eq) (hperm : ys.Perm xs) (hw : IsBest wanted ys w)
    (hv : IsBest wanted xs v) : w.compare v = .eq :=
  Value.compare_eq_eq_of_compare_ne hwanted (hv.2 w (hperm.mem_iff.mp hw.1)) (hw.2 v (hperm.mem_iff.mpr hv.1))

/-- The best values of two orders of the operands tie. -/
theorem bestOf_perm (hwanted : wanted ≠ .eq) (hperm : ys.Perm xs) :
    bestOf wanted ys = bestOf wanted xs ∨
      ∃ w v, bestOf wanted ys = some w ∧ bestOf wanted xs = some v ∧ w.compare v = .eq := by
  rcases bestOf_cases hwanted ys with ⟨hnone, hys⟩ | ⟨w, hsome, hw, -⟩
  · rcases bestOf_cases hwanted xs with ⟨hnone', -⟩ | ⟨v, -, ⟨hv, -⟩, -⟩
    · exact .inl (hnone.trans hnone'.symm)
    · exact absurd (hperm.mem_iff.mpr hv) (hys v)
  · rcases bestOf_cases hwanted xs with ⟨-, hxs⟩ | ⟨v, hsome', hv, -⟩
    · exact absurd (hperm.mem_iff.mp hw.1) (hxs w)
    · exact .inr ⟨w, v, hsome, hsome', hw.compare_eq_eq hwanted hperm hv⟩

/-! ### Extremes -/

/-- An extreme is the leftmost error, or the best value. -/
theorem extreme_eq_of_best (wanted : Ordering) (best : Option Value) (args : List Outcome) :
    extreme wanted best args = match args.findSome? Outcome.error? with
      | some e => .error e
      | none => ofBest ((args.map Outcome.value?).foldl (Option.merge (Value.better wanted)) best) := by
  fun_induction extreme wanted best args with
  | case1 best => rfl
  | case2 v rest current ih => exact ih
  | case3 v rest ih => exact ih
  | case4 best e rest => rfl
  | case5 best o rest hvalue herror ih =>
      -- A null or an unset operand: nothing is merged.
      have hnone : o.value? = none := by
        rw [Option.eq_none_iff_forall_ne_some]
        intro v hv
        exact hvalue v (Outcome.value?_eq_some_iff.mp hv)
      have hfine : o.error? = none := by
        rw [Option.eq_none_iff_forall_ne_some]
        intro e he
        exact herror e (Outcome.error?_eq_some_iff.mp he)
      rw [ih, List.findSome?_cons, hfine, List.map_cons, List.foldl_cons, hnone, Option.merge_none_right]

theorem extreme_of_error {e : EvalError} (h : args.findSome? Outcome.error? = some e) :
    extreme wanted none args = .error e := by
  rw [extreme_eq_of_best, h]

theorem extreme_of_no_error (h : args.findSome? Outcome.error? = none) :
    extreme wanted none args = ofBest (bestOf wanted args) := by
  rw [extreme_eq_of_best, h]
  rfl

theorem findSome?_error?_eq_none_iff : args.findSome? Outcome.error? = none ↔ ∀ e, .error e ∉ args := by
  rw [List.findSome?_eq_none_iff]
  constructor
  · intro h e he
    cases h _ he
  · intro h o ho
    rw [Option.eq_none_iff_forall_ne_some]
    rintro e he
    exact h e (Outcome.error?_eq_some_iff.mp he ▸ ho)

/-- An extreme of two extremes without errors is that of their best values. -/
theorem extreme_of_bests (wanted : Ordering) (v? w? : Option Value) :
    extreme wanted none [ofBest v?, ofBest w?] = ofBest (Option.merge (Value.better wanted) v? w?) := by
  cases v? <;> cases w? <;> rfl

/-- An extreme may be taken of parts of the operands first, with the same error and the same choice among ties. -/
theorem extreme_append (hwanted : wanted ≠ .eq) (xs ys : List Outcome) :
    extreme wanted none (xs ++ ys) = extreme wanted none [extreme wanted none xs, extreme wanted none ys] := by
  have happend : (xs ++ ys).findSome? Outcome.error? =
      (xs.findSome? Outcome.error?).or (ys.findSome? Outcome.error?) := List.findSome?_append
  cases hx : xs.findSome? Outcome.error? with
  | some e =>
      rw [hx] at happend
      rw [extreme_of_error happend, extreme_of_error hx]
      rfl
  | none =>
      rw [hx, Option.none_or] at happend
      rw [extreme_of_no_error hx]
      cases hy : ys.findSome? Outcome.error? with
      | some e =>
          rw [extreme_of_error (happend.trans hy), extreme_of_error hy]
          cases bestOf wanted xs <;> rfl
      | none =>
          rw [extreme_of_no_error (happend.trans hy), extreme_of_no_error hy, extreme_of_bests, bestOf_append hwanted]

/-- Operands without values and errors have no extreme. -/
theorem extreme_of_absent (hwanted : wanted ≠ .eq) (h : ∀ o ∈ args, o = .null ∨ o = .unset) :
    extreme wanted none args = .null := by
  have hfine : ∀ e, .error e ∉ args := by
    intro e he
    rcases h _ he with heq | heq <;> cases heq
  rw [extreme_of_no_error (findSome?_error?_eq_none_iff.mpr hfine)]
  rcases bestOf_cases hwanted args with ⟨hbest, -⟩ | ⟨v, -, ⟨hv, -⟩, -⟩
  · rw [hbest]
    rfl
  · rcases h _ hv with heq | heq <;> cases heq

/-- Without errors the extreme is the value of the leftmost best operand. -/
theorem exists_leftmost_best (hwanted : wanted ≠ .eq) (hfine : ∀ e, .error e ∉ args) (hvalue : ∃ v, .value v ∈ args) :
    ∃ v, IsLeftmostBest wanted args v ∧ extreme wanted none args = .value v := by
  rw [extreme_of_no_error (findSome?_error?_eq_none_iff.mpr hfine)]
  rcases bestOf_cases hwanted args with ⟨-, hnone⟩ | ⟨v, hbest, hleftmost⟩
  · obtain ⟨v, hv⟩ := hvalue
    exact absurd hv (hnone v)
  · rw [hbest]
    exact ⟨v, hleftmost, rfl⟩

/-- In another order of operands without errors the extreme ties. -/
theorem extreme_perm (hwanted : wanted ≠ .eq) (hperm : ys.Perm xs) (hfine : ∀ e, .error e ∉ xs) :
    extreme wanted none ys = extreme wanted none xs ∨
      ∃ w v, extreme wanted none ys = .value w ∧ extreme wanted none xs = .value v ∧ w.compare v = .eq := by
  have hfine' : ∀ e, .error e ∉ ys := fun e he => hfine e (hperm.mem_iff.mp he)
  rw [extreme_of_no_error (findSome?_error?_eq_none_iff.mpr hfine),
    extreme_of_no_error (findSome?_error?_eq_none_iff.mpr hfine')]
  rcases bestOf_perm hwanted hperm with hsame | ⟨w, v, hw, hv, htie⟩
  · exact .inl (congrArg _ hsame)
  · rw [hw, hv]
    exact .inr ⟨w, v, rfl, rfl, htie⟩

/-- The extremes, and how a value stands to those that it beats. -/
def extremes : List (Logical × Ordering) := [(.maximum, .gt), (.minimum, .lt)]

theorem mem_extremes_iff {op : Logical} :
    (op, wanted) ∈ extremes ↔ op = .maximum ∧ wanted = .gt ∨ op = .minimum ∧ wanted = .lt := by
  simp [extremes]

theorem ne_eq_of_mem_extremes {op : Logical} (h : (op, wanted) ∈ extremes) : wanted ≠ .eq := by
  rcases mem_extremes_iff.mp h with ⟨-, rfl⟩ | ⟨-, rfl⟩ <;> nofun

end Logical

namespace Expression

variable {limits : Limits} {d : Document} {op : Logical} {wanted : Ordering} {xs : List Expression}

theorem evaluate_extreme (limits : Limits) (d : Document) (h : (op, wanted) ∈ Logical.extremes) (hne : xs ≠ []) :
    (call (.logical op) xs).evaluate limits d = Logical.extreme wanted none (xs.map (evaluate limits d)) := by
  have hcount : 1 ≤ xs.length := List.length_pos_iff.mpr hne
  rcases Logical.mem_extremes_iff.mp h with ⟨rfl, rfl⟩ | ⟨rfl, rfl⟩
  · exact evaluate_logical limits d .maximum hcount
  · exact evaluate_logical limits d .minimum hcount

/-- **An extreme is the value of the leftmost best operand.**  The leftmost error comes before it, and operands that are
all null or unset give a null; else there is a value with nothing beyond it, greater or less as the extreme wants, and
of the operands with such a value the leftmost one is taken.  An extreme of two lists of operands is the extreme of the
extremes of each, and in another order of operands without errors only a value that ties may come in its place. -/
theorem extremes_are_leftmost_best (limits : Limits) (d : Document) {xs : List Expression} (hxs : xs ≠ []) :
    ∀ op wanted, (op, wanted) ∈ Logical.extremes →
      let args := xs.map (evaluate limits d)
      let result := (call (.logical op) xs).evaluate limits d
      (∀ e, args.findSome? Outcome.error? = some e → result = .error e) ∧
      ((∀ o ∈ args, o = .null ∨ o = .unset) → result = .null) ∧
      ((∀ e, .error e ∉ args) → (∃ v, .value v ∈ args) →
        ∃ v, Logical.IsLeftmostBest wanted args v ∧ result = .value v) ∧
      (∀ ys : List Expression, ys ≠ [] →
        (call (.logical op) (xs ++ ys)).evaluate limits d =
          (call (.logical op) [call (.logical op) xs, call (.logical op) ys]).evaluate limits d) ∧
      ∀ zs : List Expression, zs.Perm xs → (∀ e, .error e ∉ args) →
        (call (.logical op) zs).evaluate limits d = result ∨
          ∃ w v, (call (.logical op) zs).evaluate limits d = .value w ∧ result = .value v ∧ w.compare v = .eq := by
  intro op wanted hop args result
  have hwanted : wanted ≠ .eq := Logical.ne_eq_of_mem_extremes hop
  have hresult : result = Logical.extreme wanted none args := evaluate_extreme limits d hop hxs
  rw [hresult]
  refine ⟨fun e he => Logical.extreme_of_error he, fun hnone => Logical.extreme_of_absent hwanted hnone,
    fun hfine hvalue => Logical.exists_leftmost_best hwanted hfine hvalue, fun ys hys => ?regrouped,
    fun zs hperm hfine => ?permuted⟩
  case regrouped =>
    rw [evaluate_extreme limits d hop (List.append_ne_nil_of_left_ne_nil hxs ys),
      evaluate_extreme limits d hop (List.cons_ne_nil _ _), List.map_append, List.map_cons, List.map_singleton,
      evaluate_extreme limits d hop hxs, evaluate_extreme limits d hop hys]
    exact Logical.extreme_append hwanted _ _
  case permuted =>
    have hzs : zs ≠ [] := by
      rintro rfl
      exact hxs hperm.nil_eq.symm
    rw [evaluate_extreme limits d hop hzs]
    exact Logical.extreme_perm hwanted (hperm.map _) hfine

/-- Of `1` and `1.0` the one further left is the greatest, and in the other order of the operands it is the one that
ties with it.  Behind a quotient without a divisor there is another failure, which is not reported. -/
theorem extremes_are_leftmost_best_among_ties :
    let d : Document := ⟨⟨["c", "d"]⟩, [], none⟩
    let unset := field ⟨["x"]⟩
    let one := literal (.integer 1)
    let oneAsDouble := literal (.double .one)
    let failed := call (.arithmetic .divide) [one, literal (.integer 0)]
    let failedToo := call (.logical .not) [one]
    (call (.logical .maximum) [unset, one, oneAsDouble]).evaluate {} d = .value (.integer 1) ∧
      Logical.IsLeftmostBest .gt [.unset, .value (.integer 1), .value (.double .one)] (.integer 1) ∧
      (call (.logical .maximum) [oneAsDouble, unset, one]).evaluate {} d = .value (.double .one) ∧
      Value.compare (.double .one) (.integer 1) = .eq ∧
      (call (.logical .maximum) [unset, one, oneAsDouble, failed]).evaluate {} d =
        (call (.logical .maximum) [call (.logical .maximum) [unset, one, oneAsDouble],
          call (.logical .maximum) [failed]]).evaluate {} d ∧
      (call (.logical .minimum) [unset, literal .null]).evaluate {} d = .null ∧
      (call (.logical .minimum) [one, failed, failedToo]).evaluate {} d =
        .error ⟨.arithmetic .divide, .divisionByZero⟩ := by
  intro d unset one oneAsDouble failed failedToo
  have hones : Value.compare (.double .one) (.integer 1) ≠ .gt ∧
      Value.compare (.integer 1) (.double .one) ≠ .gt := by
    decide +kernel
  have hmaximum : (call (.logical .maximum) [unset, one, oneAsDouble]).evaluate {} d = .value (.integer 1) :=
    congrArg Outcome.value (if_neg hones.1)
  have hturned : (call (.logical .maximum) [oneAsDouble, unset, one]).evaluate {} d = .value (.double .one) :=
    congrArg Outcome.value (if_neg hones.2)
  have hargs : [unset, one, oneAsDouble].map (evaluate {} d) =
      [.unset, .value (.integer 1), .value (.double .one)] := rfl
  have hfine : ∀ e, .error e ∉ [unset, one, oneAsDouble].map (evaluate {} d) := by
    rw [hargs]
    simp
  have hmissing : ∀ o ∈ [unset, literal .null].map (evaluate {} d), o = .null ∨ o = .unset :=
    List.forall_mem_cons.mpr ⟨.inr rfl, List.forall_mem_singleton.mpr (.inl rfl)⟩
  have hperm : ([oneAsDouble] ++ [unset, one]).Perm ([unset, one] ++ [oneAsDouble]) := List.perm_append_comm
  obtain ⟨-, -, hbest, hregrouped, hpermuted⟩ := extremes_are_leftmost_best {} d
    (List.cons_ne_nil unset [one, oneAsDouble]) .maximum .gt (by decide)
  obtain ⟨-, hnull, -⟩ :=
    extremes_are_leftmost_best {} d (List.cons_ne_nil unset [literal .null]) .minimum .lt (by decide)
  obtain ⟨herror, -⟩ :=
    extremes_are_leftmost_best {} d (List.cons_ne_nil one [failed, failedToo]) .minimum .lt (by decide)
  obtain ⟨v, hleftmost, hresult⟩ := hbest hfine ⟨.integer 1, by rw [hargs]; simp⟩
  obtain rfl : Value.integer 1 = v := Outcome.value.inj (hmaximum.symm.trans hresult)
  refine ⟨hmaximum, hleftmost, hturned, ?_, hregrouped [failed] (List.cons_ne_nil _ _), hnull hmissing, herror _ rfl⟩
  rcases hpermuted _ hperm hfine with hsame | ⟨w, v, hw, hv, htie⟩
  · cases hturned.symm.trans (hsame.trans hmaximum)
  · obtain rfl := Outcome.value.inj (hturned.symm.trans hw)
    obtain rfl := Outcome.value.inj (hmaximum.symm.trans hv)
    exact htie

end Expression

end DocumentQuery
