import DocumentQuery.BuiltinEngine.Build
import DocumentQuery.Expression.Evaluate
import DocumentQuery.Proofs.FunctionResults
import Mathlib.Data.List.Basic
import Mathlib.Data.Nat.Bits

/-! # The algebra of the connectives

Conjunction and disjunction stop at an operand that decides, exclusive disjunction at one that failed, and all three
carry along what they met before.  What they answer depends on three observations of their operands: the truth values
among them (`Logical.truths`), the leftmost complaint and whether there is a null (`Logical.observed`).  A conjunction
or disjunction looks for the deciding value among the truth values (`Logical.junction_eq`), an exclusive disjunction
counts the true ones (`Logical.parity_eq`), and what is left open is settled alike (`Pending.close`).

The observations of two lists put together are those of the lists, so that a connective may be taken of parts first
(`Logical.apply_append`).  Of a permuted list only the leftmost complaint may be another one, and of the negated
operands the truth values are the opposite ones.  Outcomes that differ at most in the error are said to agree
(`Outcome.Agrees`). -/

namespace DocumentQuery

namespace Outcome

/-- The truth value of an outcome. -/
def boolean? : Outcome → Option Bool
  | value (.boolean b) => some b
  | _ => none

theorem boolean?_eq_some_iff {o : Outcome} {b : Bool} : o.boolean? = some b ↔ o = boolean b := by
  unfold boolean?
  split
  case h_1 c => simp [boolean]
  case h_2 hne => exact iff_of_false nofun fun h => hne b h

/-- A boolean or a null; connectives complain about all others. -/
def isTruth : Outcome → Bool
  | value (.boolean _) | null => true
  | _ => false

theorem isTruth_eq_false {o : Outcome} (hboolean : ∀ b, o ≠ value (.boolean b)) (hnull : o ≠ null) :
    o.isTruth = false := by
  unfold isTruth
  split
  case h_1 b => exact absurd rfl (hboolean b)
  case h_2 => exact absurd rfl hnull
  case h_3 => rfl

/-- The same boolean, two nulls, or two errors. -/
def Agrees (o p : Outcome) : Prop := (∃ answer, o = ofTruth answer ∧ p = ofTruth answer) ∨ o.isError ∧ p.isError

theorem agrees_ofTruth (answer : Option Bool) : (ofTruth answer).Agrees (ofTruth answer) := .inl ⟨answer, rfl, rfl⟩

theorem agrees_error (e e' : EvalError) : (error e).Agrees (error e') := .inr ⟨rfl, rfl⟩

end Outcome

namespace Logical

variable {f g : Function} {o : Outcome} {args rest xs ys : List Outcome} {p q : Pending} {a b : Bool}

/-! ### What is observed of the operands -/

/-- The complaint about an operand, if there is one. -/
def complaint? (f : Function) (o : Outcome) : Option EvalError := if o.isTruth then none else some (complaint f o)

/-- The truth values among the operands. -/
def truths (args : List Outcome) : List Bool := args.filterMap Outcome.boolean?

/-- The leftmost complaint, and whether there is a null. -/
def observed (f : Function) (args : List Outcome) : Pending := ⟨args.findSome? (complaint? f), args.any Outcome.isNull⟩

/-- What is pending after more operands; the complaint that was met first stays. -/
def Pending.andThen (p q : Pending) : Pending := ⟨p.error.or q.error, p.null || q.null⟩

theorem mem_truths_iff : b ∈ truths args ↔ .boolean b ∈ args := by
  simp [truths, List.mem_filterMap, Outcome.boolean?_eq_some_iff]

theorem truths_append (xs ys : List Outcome) : truths (xs ++ ys) = truths xs ++ truths ys := List.filterMap_append

theorem observed_append (f : Function) (xs ys : List Outcome) :
    observed f (xs ++ ys) = (observed f xs).andThen (observed f ys) := by
  unfold observed Pending.andThen
  rw [List.findSome?_append, List.any_append]

theorem truths_cons_of_not_isTruth (h : o.isTruth = false) : truths (o :: rest) = truths rest := by
  refine List.filterMap_cons_none ?_
  unfold Outcome.boolean?
  split
  case h_1 => cases h
  case h_2 => rfl

theorem observed_cons_of_not_isTruth (h : o.isTruth = false) :
    observed f (o :: rest) = ⟨some (complaint f o), (observed f rest).null⟩ := by
  have hnull : o.isNull = false := by
    cases o with
    | null => cases h
    | value _ | unset | error _ => rfl
  have hcomplaint : complaint? f o = some (complaint f o) := by simp [complaint?, h]
  simp [observed, hnull, hcomplaint]

/-! ### Connectives as functions of the observations -/

theorem junction_eq_of_pending (f : Function) (decider : Bool) (p : Pending) (args : List Outcome) :
    junction f decider p args =
      if decider ∈ truths args then .boolean decider else (p.andThen (observed f args)).close !decider := by
  fun_induction junction f decider p args with
  | case1 p => simp [truths, observed, Pending.andThen]
  | case2 p rest => simp [truths, Outcome.boolean?]
  | case3 p b rest hb ih =>
      have htruths : truths (.value (.boolean b) :: rest) = b :: truths rest := rfl
      have hobserved : observed f (.value (.boolean b) :: rest) = observed f rest := rfl
      rw [ih, htruths, hobserved]
      simp [Ne.symm hb]
  | case4 p rest ih =>
      have htruths : truths (.null :: rest) = truths rest := rfl
      have hobserved : observed f (.null :: rest) = ⟨(observed f rest).error, true⟩ := rfl
      rw [ih, htruths, hobserved]
      simp [Pending.andThen]
  | case5 p o rest hboolean hnull ih =>
      have hopen := Outcome.isTruth_eq_false hboolean hnull
      rw [ih, truths_cons_of_not_isTruth hopen, observed_cons_of_not_isTruth hopen]
      simp [Pending.andThen]

theorem parity_eq_of_pending (f : Function) (odd null : Bool) (args : List Outcome) :
    parity f odd null args =
      (Pending.andThen ⟨none, null⟩ (observed f args)).close (odd ^^ ((truths args).count true).bodd) := by
  fun_induction parity f odd null args with
  | case1 | case2 => simp_all [truths, observed, Pending.andThen, Pending.close]
  | case3 odd null b rest ih =>
      have htruths : truths (.value (.boolean b) :: rest) = b :: truths rest := rfl
      have hobserved : observed f (.value (.boolean b) :: rest) = observed f rest := rfl
      rw [ih, htruths, hobserved]
      cases b <;> simp
  | case4 odd null rest ih =>
      have htruths : truths (.null :: rest) = truths rest := rfl
      have hobserved : observed f (.null :: rest) = ⟨(observed f rest).error, true⟩ := rfl
      rw [ih, htruths, hobserved]
      simp [Pending.andThen]
  | case5 odd null o rest hboolean hnull =>
      have hopen := Outcome.isTruth_eq_false hboolean hnull
      rw [observed_cons_of_not_isTruth hopen]
      rfl

variable {decider : Bool}

/-- The deciding value decides wherever it stands. -/
theorem junction_of_mem (f : Function) (h : decider ∈ truths args) :
    junction f decider ⟨none, false⟩ args = .boolean decider := by
  rw [junction_eq_of_pending, if_pos h]

theorem junction_of_not_mem (f : Function) (h : decider ∉ truths args) :
    junction f decider ⟨none, false⟩ args = (observed f args).close !decider := by
  rw [junction_eq_of_pending, if_neg h]
  rfl

/-- An odd number of true operands, if nothing stands in the way. -/
theorem parity_eq (f : Function) (args : List Outcome) :
    parity f false false args = (observed f args).close ((truths args).count true).bodd := by
  rw [parity_eq_of_pending, Bool.false_xor]
  rfl

/-! ### Parts of the operands -/

/-- Parts that nothing decided are pending together. -/
theorem junction_of_closed (f : Function) (decider : Bool) (p q : Pending) :
    junction f decider ⟨none, false⟩ [p.close !decider, q.close !decider] = (p.andThen q).close !decider := by
  obtain ⟨perror, pnull⟩ := p
  obtain ⟨qerror, qnull⟩ := q
  cases decider <;> cases perror <;> cases pnull <;> cases qerror <;> cases qnull <;> rfl

theorem parity_of_closed (f : Function) (p q : Pending) (a b : Bool) :
    parity f false false [p.close a, q.close b] = (p.andThen q).close (a ^^ b) := by
  obtain ⟨perror, pnull⟩ := p
  obtain ⟨qerror, qnull⟩ := q
  cases perror <;> cases pnull <;> cases qerror <;> cases qnull <;> cases a <;> rfl

theorem junction_append (f : Function) (decider : Bool) (xs ys : List Outcome) :
    junction f decider ⟨none, false⟩ (xs ++ ys) =
      junction f decider ⟨none, false⟩ [junction f decider ⟨none, false⟩ xs, junction f decider ⟨none, false⟩ ys] := by
  have hmem : decider ∈ truths (xs ++ ys) ↔ decider ∈ truths xs ∨ decider ∈ truths ys := by
    rw [truths_append, List.mem_append]
  by_cases hx : decider ∈ truths xs
  · rw [junction_of_mem f (hmem.mpr (.inl hx)), junction_of_mem f hx, junction_of_mem]
    exact mem_truths_iff.mpr List.mem_cons_self
  by_cases hy : decider ∈ truths ys
  · rw [junction_of_mem f (hmem.mpr (.inr hy)), junction_of_mem f hy, junction_of_mem]
    exact mem_truths_iff.mpr (List.mem_cons_of_mem _ List.mem_cons_self)
  · rw [junction_of_not_mem f (mt hmem.mp (not_or.mpr ⟨hx, hy⟩)), junction_of_not_mem f hx, junction_of_not_mem f hy,
      junction_of_closed, observed_append]

theorem parity_append (f : Function) (xs ys : List Outcome) :
    parity f false false (xs ++ ys) = parity f false false [parity f false false xs, parity f false false ys] := by
  rw [parity_eq f xs, parity_eq f ys, parity_of_closed, parity_eq, observed_append, truths_append, List.count_append,
    Nat.bodd_add]

/-! ### The order of the operands -/

/-- Whether there is a complaint does not depend on the function that complains. -/
theorem isSome_error_observed (f : Function) (args : List Outcome) :
    (observed f args).error.isSome = args.any fun o => !o.isTruth := by
  induction args with
  | nil => rfl
  | cons o rest ih =>
      cases h : o.isTruth with
      | true =>
          have hcomplaint : complaint? f o = none := if_pos h
          rw [List.any_cons, ← ih, h, observed, List.findSome?_cons, hcomplaint]
          rfl
      | false =>
          rw [observed_cons_of_not_isTruth h, List.any_cons, h]
          rfl

/-- The same is pending up to the error. -/
def Pending.Agrees (p q : Pending) : Prop := p.error.isSome = q.error.isSome ∧ p.null = q.null

theorem Pending.Agrees.close (h : p.Agrees q) (otherwise : Bool) : (p.close otherwise).Agrees (q.close otherwise) := by
  obtain ⟨perror, pnull⟩ := p
  obtain ⟨qerror, qnull⟩ := q
  obtain ⟨herror, rfl⟩ : perror.isSome = qerror.isSome ∧ pnull = qnull := h
  cases perror with
  | none =>
      cases qerror with
      | none =>
          cases pnull with
          | true => exact Outcome.agrees_ofTruth none
          | false => exact Outcome.agrees_ofTruth (some otherwise)
      | some _ => cases herror
  | some e =>
      cases qerror with
      | none => cases herror
      | some e' => exact Outcome.agrees_error e e'

theorem observed_agrees_of_perm (f : Function) (h : ys.Perm xs) : (observed f ys).Agrees (observed f xs) := by
  refine ⟨?_, h.any_eq⟩
  rw [isSome_error_observed, isSome_error_observed, h.any_eq]

theorem truths_perm (h : ys.Perm xs) : (truths ys).Perm (truths xs) := h.filterMap _

theorem junction_agrees_of_perm (f : Function) (decider : Bool) (h : ys.Perm xs) :
    (junction f decider ⟨none, false⟩ ys).Agrees (junction f decider ⟨none, false⟩ xs) := by
  by_cases hx : decider ∈ truths xs
  · rw [junction_of_mem f hx, junction_of_mem f ((truths_perm h).mem_iff.mpr hx)]
    exact Outcome.agrees_ofTruth (some decider)
  · rw [junction_of_not_mem f hx, junction_of_not_mem f (mt (truths_perm h).mem_iff.mp hx)]
    exact (observed_agrees_of_perm f h).close _

theorem parity_agrees_of_perm (f : Function) (h : ys.Perm xs) :
    (parity f false false ys).Agrees (parity f false false xs) := by
  rw [parity_eq, parity_eq, (truths_perm h).count_eq]
  exact (observed_agrees_of_perm f h).close _

/-! ### Negated operands -/

theorem boolean?_negation (g : Function) (o : Outcome) : (negation g o).boolean? = o.boolean?.map Bool.not := by
  unfold negation
  split
  case h_1 | h_2 => rfl
  case h_3 hboolean _ =>
    have hnone : o.boolean? = none := by
      rw [Option.eq_none_iff_forall_ne_some]
      intro b hb
      exact hboolean b (Outcome.boolean?_eq_some_iff.mp hb)
    rw [hnone]
    rfl

theorem isTruth_negation (g : Function) (o : Outcome) : (negation g o).isTruth = o.isTruth := by
  unfold negation
  split
  case h_1 | h_2 => rfl
  case h_3 hboolean hnull => exact (Outcome.isTruth_eq_false hboolean hnull).symm

theorem isNull_negation (g : Function) (o : Outcome) : (negation g o).isNull = o.isNull := by
  unfold negation
  split
  case h_1 | h_2 => rfl
  case h_3 _ hnull =>
    cases o with
    | null => exact absurd rfl hnull
    | value _ | unset | error _ => rfl

theorem truths_map_negation (g : Function) (args : List Outcome) :
    truths (args.map (negation g)) = (truths args).map Bool.not := by
  unfold truths
  rw [List.filterMap_map, List.map_filterMap]
  exact List.filterMap_congr fun o _ => boolean?_negation g o

theorem observed_agrees_map_negation (f g h : Function) (args : List Outcome) :
    (observed f args).Agrees (observed h (args.map (negation g))) := by
  constructor
  · rw [isSome_error_observed, isSome_error_observed, List.any_map]
    simp only [Function.comp_def, isTruth_negation]
  · simp only [observed, List.any_map, Function.comp_def, isNull_negation]

/-- Negation hands on the error and the null of what is pending. -/
theorem negation_close (g : Function) (p : Pending) (otherwise : Bool) :
    negation g (p.close otherwise) = p.close !otherwise := by
  obtain ⟨error, null⟩ := p
  cases error <;> cases null <;> rfl

/-- A negated conjunction is a disjunction of negated operands, and the other way round. -/
theorem negation_junction_agrees (f g h : Function) (decider : Bool) (args : List Outcome) :
    (negation g (junction f decider ⟨none, false⟩ args)).Agrees
      (junction h (!decider) ⟨none, false⟩ (args.map (negation g))) := by
  have hmem : (!decider) ∈ truths (args.map (negation g)) ↔ decider ∈ truths args := by
    rw [truths_map_negation, List.mem_map_of_involutive Bool.involutive_not, Bool.not_not]
  by_cases hdecided : decider ∈ truths args
  · rw [junction_of_mem f hdecided, junction_of_mem h (hmem.mpr hdecided)]
    exact Outcome.agrees_ofTruth (some !decider)
  · rw [junction_of_not_mem f hdecided, junction_of_not_mem h (mt hmem.mp hdecided), negation_close]
    exact (observed_agrees_map_negation f g h args).close _

/-- The connectives of any number of operands. -/
def connectives : List Logical := [.and, .or, .xor]

theorem mem_connectives_iff {op : Logical} : op ∈ connectives ↔ op = .and ∨ op = .or ∨ op = .xor := by
  simp [connectives]

/-- A connective may be taken of parts of its operands first. -/
theorem apply_append {op : Logical} (hop : op ∈ connectives) (xs ys : List Outcome) :
    op.apply (xs ++ ys) = op.apply [op.apply xs, op.apply ys] := by
  rcases mem_connectives_iff.mp hop with rfl | rfl | rfl
  · exact junction_append _ false xs ys
  · exact junction_append _ true xs ys
  · exact parity_append _ xs ys

theorem apply_agrees_of_perm {op : Logical} (hop : op ∈ connectives) (h : ys.Perm xs) :
    (op.apply ys).Agrees (op.apply xs) := by
  rcases mem_connectives_iff.mp hop with rfl | rfl | rfl
  · exact junction_agrees_of_perm _ false h
  · exact junction_agrees_of_perm _ true h
  · exact parity_agrees_of_perm _ h

end Logical

namespace Expression

variable {limits : Limits} {d : Document}

theorem evaluate_logical (limits : Limits) (d : Document) (op : Logical) {args : List Expression}
    (h : (Function.logical op).arity.Accepts args.length) :
    (call (.logical op) args).evaluate limits d = op.apply (args.map (evaluate limits d)) := by
  rw [evaluate_call, Function.apply, List.length_map, if_pos h]
  rfl

variable {op : Logical} {xs ys : List Expression}

theorem evaluate_connective (limits : Limits) (d : Document) (hop : op ∈ Logical.connectives) (hne : xs ≠ []) :
    (call (.logical op) xs).evaluate limits d = op.apply (xs.map (evaluate limits d)) := by
  have hcount : 1 ≤ xs.length := List.length_pos_iff.mpr hne
  refine evaluate_logical limits d op ?_
  rcases Logical.mem_connectives_iff.mp hop with rfl | rfl | rfl <;> exact hcount

/-- The negation of an expression. -/
def negated (e : Expression) : Expression := .call (.logical .not) [e]

theorem evaluate_negated (limits : Limits) (d : Document) (e : Expression) :
    (negated e).evaluate limits d = Logical.negation (.logical .not) (e.evaluate limits d) :=
  evaluate_logical limits d .not rfl

theorem map_evaluate_negated (limits : Limits) (d : Document) (es : List Expression) :
    (es.map negated).map (evaluate limits d) =
      (es.map (evaluate limits d)).map (Logical.negation (.logical .not)) := by
  rw [List.map_map, List.map_map]
  exact List.map_congr_left fun e _ => evaluate_negated limits d e

/-- A connective whose negated outcomes are those of another on negated outcomes is dual to it on expressions. -/
theorem evaluate_negated_agrees (limits : Limits) (d : Document) {dual : Logical} (hop : op ∈ Logical.connectives)
    (hdual : dual ∈ Logical.connectives) (hne : xs ≠ [])
    (h : ∀ args, (Logical.negation (.logical .not) (op.apply args)).Agrees
      (dual.apply (args.map (Logical.negation (.logical .not))))) :
    ((negated (call (.logical op) xs)).evaluate limits d).Agrees
      ((call (.logical dual) (xs.map negated)).evaluate limits d) := by
  have hnegated : xs.map negated ≠ [] := mt List.map_eq_nil_iff.mp hne
  rw [evaluate_negated, evaluate_connective limits d hop hne, evaluate_connective limits d hdual hnegated,
    map_evaluate_negated]
  exact h _

/-- **The algebra of the connectives.**  A connective of two lists of operands is the connective of the connectives of
each, with the same error; in another order of the operands only the error may be another one; and a negated
conjunction or disjunction is the opposite one of the negated operands, again up to the error. -/
theorem connectives_regroup_and_dualize (limits : Limits) (d : Document) {xs ys : List Expression} (hxs : xs ≠ [])
    (hys : ys ≠ []) :
    (∀ op ∈ Logical.connectives,
      (call (.logical op) (xs ++ ys)).evaluate limits d =
          (call (.logical op) [call (.logical op) xs, call (.logical op) ys]).evaluate limits d ∧
        ∀ zs : List Expression, zs.Perm xs →
          ((call (.logical op) zs).evaluate limits d).Agrees ((call (.logical op) xs).evaluate limits d)) ∧
      ((negated (call (.logical .and) xs)).evaluate limits d).Agrees
        ((call (.logical .or) (xs.map negated)).evaluate limits d) ∧
      ((negated (call (.logical .or) xs)).evaluate limits d).Agrees
        ((call (.logical .and) (xs.map negated)).evaluate limits d) := by
  refine ⟨fun op hop => ⟨?_, fun zs hperm => ?_⟩, ?_, ?_⟩
  · rw [evaluate_connective limits d hop (List.append_ne_nil_of_left_ne_nil hxs ys),
      evaluate_connective limits d hop (List.cons_ne_nil _ _), List.map_append, List.map_cons, List.map_singleton,
      evaluate_connective limits d hop hxs, evaluate_connective limits d hop hys]
    exact Logical.apply_append hop _ _
  · have hzs : zs ≠ [] := by
      rintro rfl
      exact hxs hperm.nil_eq.symm
    rw [evaluate_connective limits d hop hzs, evaluate_connective limits d hop hxs]
    exact Logical.apply_agrees_of_perm hop (hperm.map _)
  · exact evaluate_negated_agrees limits d (by decide) (by decide) hxs (Logical.negation_junction_agrees _ _ _ false)
  · exact evaluate_negated_agrees limits d (by decide) (by decide) hxs (Logical.negation_junction_agrees _ _ _ true)

/-- A false operand decides over an unset field and a quotient without a divisor, in whichever part it stands.  Of the
two failures the one that comes first is reported, and of negated operands it is the negation that reports the field. -/
theorem connectives_regroup_and_dualize_beside_failures :
    let d : Document := ⟨⟨["c", "d"]⟩, [], none⟩
    let unset := field ⟨["x"]⟩
    let failed := call (.arithmetic .divide) [literal (.integer 1), literal (.integer 0)]
    (call (.logical .and) [call (.logical .and) [unset, failed],
        call (.logical .and) [literal (.boolean false)]]).evaluate {} d = .boolean false ∧
      (call (.logical .xor) [unset, failed]).evaluate {} d = .error ⟨.logical .xor, .unsetArgument⟩ ∧
      (call (.logical .xor) [failed, unset]).evaluate {} d = .error ⟨.arithmetic .divide, .divisionByZero⟩ ∧
      ((call (.logical .xor) [failed, unset]).evaluate {} d).Agrees
        ((call (.logical .xor) [unset, failed]).evaluate {} d) ∧
      ((negated (call (.logical .and) [unset, failed])).evaluate {} d).Agrees
        (.error ⟨.logical .not, .unsetArgument⟩) := by
  intro d unset failed
  have hxs : [unset, failed] ≠ [] := List.cons_ne_nil _ _
  have hys : [literal (.boolean false)] ≠ [] := List.cons_ne_nil _ _
  obtain ⟨hconnectives, hdual, -⟩ := connectives_regroup_and_dualize {} d hxs hys
  refine ⟨?_, rfl, rfl, (hconnectives .xor (by decide)).2 _ (.swap _ _ _), hdual⟩
  rw [← (hconnectives .and (by decide)).1]
  rfl

end Expression

end DocumentQuery
