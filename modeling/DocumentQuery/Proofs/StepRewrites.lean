import DocumentQuery.Proofs.ChangeFilter
import DocumentQuery.Proofs.Connectives

/-! # Rewriting pipelines

Three rewrites of steps keep the result of every run, in the middle of any pipeline: filters in a row are one filter
by their conjunction in any order, a filter moves in front of a sort, and of two sorts in a row the first may go.

The first rests on the table of the conjunction: with errors, nulls and values of any kind among its operands, it is
true exactly if all of them are (`Logical.junction_isTrue_iff`).  The other two rest on the keys of the documents
between two steps, which are distinct: a sort gives the only strictly increasing list of its documents, so it
depends on which documents there are and not on their order (`Document.sorted_congr`). -/

namespace DocumentQuery

variable {limits : Limits} {ds es : List Document} {d : Document}

/-! ### The conjunction -/

/-- A conjunction is true if nothing else was met before and the remaining operands are true. -/
theorem Logical.junction_isTrue_iff (f : Function) (p : Pending) (args : List Outcome) :
    (junction f false p args).isTrue ↔ p.error = none ∧ p.null = false ∧ ∀ o ∈ args, o.isTrue := by
  fun_induction junction f false p args with
  | case1 p =>
      obtain ⟨error, null⟩ := p
      cases error with
      | some e => simp [Pending.close, Outcome.isTrue]
      | none => cases null <;> simp [Pending.close, Outcome.boolean, Outcome.isTrue]
  | case2 p rest =>
      have hfalse : (Outcome.value (.boolean false)).isTrue = false := rfl
      simp [Outcome.boolean, hfalse]
  | case3 p b rest hb ih =>
      have htrue : (Outcome.value (.boolean b)).isTrue = true := Bool.eq_true_of_not_eq_false hb
      rw [ih, List.forall_mem_cons, htrue]
      simp
  | case4 p rest ih =>
      have hnull : Outcome.null.isTrue = false := rfl
      rw [ih, List.forall_mem_cons, hnull]
      simp
  | case5 p o rest hboolean hnull ih =>
      -- The operand complains, so that neither side holds.
      have hfalse : o.isTrue = false := by
        cases o with
        | value v =>
            cases v with
            | boolean b => exact absurd rfl (hboolean b)
            | _ => rfl
        | _ => rfl
      rw [ih, List.forall_mem_cons, hfalse]
      simp

/-- The conjunction of expressions. -/
def Expression.conjunction (es : List Expression) : Expression := .call (.logical .and) es

/-- There must be an expression: a conjunction of none is an error. -/
theorem Expression.conjunction_isTrue_iff {es : List Expression} (h : es ≠ []) :
    ((conjunction es).evaluate limits d).isTrue ↔ ∀ e ∈ es, (e.evaluate limits d).isTrue := by
  have hand : (conjunction es).evaluate limits d =
      Logical.junction (.logical .and) false ⟨none, false⟩ (es.map (evaluate limits d)) :=
    evaluate_connective limits d (by decide) h
  rw [hand, Logical.junction_isTrue_iff]
  simp

/-! ### Sorts of documents with distinct keys -/

namespace Document

variable (limits) (keys : List SortKey)

/-- Nothing of an earlier sort survives a later one. -/
theorem sorted_sorted (earlier : List SortKey) (hds : (ds.map key).Nodup) :
    sorted limits keys (sorted limits earlier ds) = sorted limits keys ds :=
  (sorted_congr limits keys hds (sorted_perm limits earlier ds).symm).symm

theorem filter_sorted (p : Document → Bool) (hds : (ds.map key).Nodup) :
    (sorted limits keys ds).filter p = sorted limits keys (ds.filter p) := by
  have hfiltered : ((ds.filter p).map key).Nodup := hds.sublist (List.filter_sublist.map key)
  have hleft : ((sorted limits keys ds).filter p).Pairwise fun a b => sortOrder limits keys a b = .lt :=
    (sorted_increasing limits keys hds).filter p
  refine eq_of_increasing hleft (sorted_increasing limits keys hfiltered) fun d => ?_
  rw [(sorted_perm limits keys (ds.filter p)).mem_iff, List.mem_filter, List.mem_filter,
    (sorted_perm limits keys ds).mem_iff]

end Document

/-! ### Steps in a row -/

namespace Step

theorem runAll_filters (conditions : List Expression) (ds : List Document) :
    runAll limits (conditions.map filter) ds =
      ds.filter fun d => conditions.all fun c => (c.evaluate limits d).isTrue := by
  induction conditions generalizing ds with
  | nil => exact (List.filter_eq_self.mpr fun _ _ => rfl).symm
  | cons c conditions ih =>
      have hcons : runAll limits ((c :: conditions).map filter) ds =
          runAll limits (conditions.map filter) ((filter c).run limits ds) := rfl
      rw [hcons, ih, run, List.filter_filter]
      refine List.filter_congr fun d _ => ?_
      rw [List.all_cons, Bool.and_comm]

/-- Filters in a row are one filter by their conjunction, in any order. -/
theorem runAll_filters_eq_run {conditions reordered : List Expression} (hne : conditions ≠ [])
    (hperm : reordered.Perm conditions) (ds : List Document) :
    runAll limits (conditions.map filter) ds = (filter (.conjunction reordered)).run limits ds := by
  have hne' : reordered ≠ [] := by
    rintro rfl
    exact hne hperm.nil_eq.symm
  rw [runAll_filters, run]
  refine List.filter_congr fun d _ => ?_
  rw [Bool.eq_iff_iff, Expression.conjunction_isTrue_iff hne', List.all_eq_true]
  exact ⟨fun h c hc => h c (hperm.mem_iff.mp hc), fun h c hc => h c (hperm.mem_iff.mpr hc)⟩

end Step

namespace Pipeline

/-- The pipeline with more steps at its end, one after the other. -/
def andThenAll (p : Pipeline) (steps : List Step) : Pipeline := steps.foldl andThen p

theorem run_andThenAll (limits : Limits) (p : Pipeline) (steps : List Step) (ds : List Document) :
    (p.andThenAll steps).run limits ds = Step.runAll limits steps (p.run limits ds) := by
  induction steps generalizing p with
  | nil => rfl
  | cons s steps ih =>
      have hcons : p.andThenAll (s :: steps) = (p.andThen s).andThenAll steps := rfl
      rw [hcons, ih, run_andThen]
      rfl

/-- **Rewrites that keep every run.**  In front of any steps and behind any pipeline, filters in a row may be
replaced by one filter by their conjunction, whatever the order of its operands; a filter behind a sort may stand in
front of it; and of two sorts in a row the later one alone counts. -/
theorem run_rewritten_steps (limits : Limits) (p : Pipeline) (rest : List Step) (ds : List Document) :
    (∀ conditions reordered : List Expression, conditions ≠ [] → reordered.Perm conditions →
      ((p.andThenAll (conditions.map .filter)).andThenAll rest).run limits ds =
        ((p.andThen (.filter (.conjunction reordered))).andThenAll rest).run limits ds) ∧
    (∀ (keys : List SortKey) (condition : Expression),
      (((p.andThen (.sort keys)).andThen (.filter condition)).andThenAll rest).run limits ds =
        (((p.andThen (.filter condition)).andThen (.sort keys)).andThenAll rest).run limits ds) ∧
    ∀ earlier later : List SortKey,
      (((p.andThen (.sort earlier)).andThen (.sort later)).andThenAll rest).run limits ds =
        ((p.andThen (.sort later)).andThenAll rest).run limits ds := by
  have hdistinct : ((p.run limits ds).map Document.key).Nodup := (run_arranged limits p ds).distinct
  refine ⟨fun conditions reordered hne hperm => ?filters, fun keys condition => ?behindSort,
    fun earlier later => ?sorts⟩
  case filters =>
    rw [run_andThenAll, run_andThenAll, run_andThenAll, run_andThen, Step.runAll_filters_eq_run hne hperm]
  case behindSort =>
    rw [run_andThenAll, run_andThenAll, run_andThen, run_andThen, run_andThen, run_andThen]
    exact congrArg _ (Document.filter_sorted limits keys _ hdistinct)
  case sorts =>
    rw [run_andThenAll, run_andThenAll, run_andThen, run_andThen, run_andThen]
    exact congrArg _ (Document.sorted_sorted limits later earlier hdistinct)

/-- Holds of documents with a number above zero at `v`; fails where `v` is not set. -/
def aboveZero : Expression := .call (.comparison .gt) [.field ⟨["v"]⟩, .literal (.integer 0)]

/-- Three documents: one with both fields as the filters want them, one with a null and one without a field. -/
def mixedDocuments : List Document :=
  [⟨⟨["c", "z"]⟩, [("b", .boolean true), ("v", .integer 1)], none⟩,
    ⟨⟨["c", "y"]⟩, [("b", .null), ("v", .integer 2)], none⟩,
    ⟨⟨["c", "x"]⟩, [("b", .boolean true)], none⟩]

/-- Two filters in front of a limit: the first one fails where `v` is missing, and the second one is null where `b`
is.  The conjunction in the other order meets the null first. -/
theorem run_rewritten_steps_with_failing_filters :
    [aboveZero, .field ⟨["b"]⟩] ≠ [] ∧ [.field ⟨["b"]⟩, aboveZero].Perm [aboveZero, .field ⟨["b"]⟩] ∧
    run {} ⟨.collection ⟨["c"]⟩, [.filter aboveZero, .filter (.field ⟨["b"]⟩), .limit 1]⟩ mixedDocuments =
      run {} ⟨.collection ⟨["c"]⟩, [.filter (.conjunction [.field ⟨["b"]⟩, aboveZero]), .limit 1]⟩
        mixedDocuments := by
  have hne : [aboveZero, .field ⟨["b"]⟩] ≠ [] := List.cons_ne_nil _ _
  have hswap : [.field ⟨["b"]⟩, aboveZero].Perm [aboveZero, .field ⟨["b"]⟩] := List.Perm.swap _ _ []
  refine ⟨hne, hswap, ?_⟩
  exact (run_rewritten_steps {} ⟨.collection ⟨["c"]⟩, []⟩ [.limit 1] mixedDocuments).1 _ _ hne hswap

end Pipeline

end DocumentQuery
