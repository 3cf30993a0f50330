import DocumentQuery.Proofs.Completion
import DocumentQuery.Proofs.Connectives

/-! # Membership as a search

Membership in an array and the connectives ask one question in two ways.  Both go through three-valued answers, stop
at one that decides, and are left open by an unknown one.  Membership searches among answers of equality
(`Truth.search`), a connective goes through the outcomes of its operands (`Logical.junction_ofTruth`), and a null is
caught by the rule of strict functions in some places and reaches the search in others.  On literals the two give the
same outcome (`Expression.membership_is_connective_of_equalities`). -/

namespace DocumentQuery

/-! ### The search for a deciding answer -/

/-- The opposite of a search is the search among the opposite answers. -/
theorem Truth.map_not_search (decider unknown : Bool) (answers : List (Option Bool)) :
    (search decider unknown answers).map Bool.not = search (!decider) unknown (answers.map (Option.map Bool.not)) := by
  fun_induction search decider unknown answers with
  | case1 | case2 => simp_all [search]
  | case3 unknown rest => simp [search]
  | case4 unknown b rest hb ih => simp [search, hb, ih]
  | case5 unknown rest ih => exact ih

/-- A connective of answers is the search that stops at its decider. -/
theorem Logical.junction_ofTruth (f : Function) (decider unknown : Bool) (answers : List (Option Bool)) :
    junction f decider ⟨none, unknown⟩ (answers.map .ofTruth) = .ofTruth (Truth.search decider unknown answers) := by
  fun_induction Truth.search decider unknown answers with
  | case1 | case2 => simp_all [junction, Pending.close, Outcome.ofTruth]
  | case3 unknown rest => exact if_pos rfl
  | case4 unknown b rest hb ih => exact (if_neg hb).trans ih
  | case5 unknown rest ih => exact ih

namespace Value

variable {v : Value} {items candidates : List Value}

theorem equals?_of_null {a b : Value} (h : a = null ∨ b = null) : a.equals? b = none := by
  rcases h with rfl | rfl
  · rw [equals?]
  · rw [equals?_comm, equals?]

theorem equals?_eq_none_of_isNull (hv : v.isNull) (c : Value) : v.equals? c = none := by
  cases v with
  | null => exact equals?_of_null (.inl rfl)
  | _ => cases hv

/-- A null is open in every list, since it is equal to nothing. -/
theorem isAnyOf?_null (items : List Value) : null.isAnyOf? items = none := by
  rw [isAnyOf?]
  induction items with
  | nil => rfl
  | cons c rest ih =>
      rw [List.map_cons, equals?_of_null (.inl rfl)]
      exact ih

/-- Among candidates a null need not be caught before the search. -/
theorem search_equals? (decider : Bool) (v : Value) (hne : candidates ≠ []) :
    Truth.search decider v.isNull (candidates.map v.equals?) =
      Truth.search decider false (candidates.map v.equals?) := by
  obtain ⟨c, rest, rfl⟩ := List.exists_cons_of_ne_nil hne
  cases hv : v.isNull with
  | false => rfl
  | true =>
      rw [List.map_cons, equals?_eq_none_of_isNull hv]
      rfl

end Value

namespace Expression

/-- A function of two operands applied to two literals. -/
def onLiterals (f : Function) (a b : Value) : Expression := call f [literal a, literal b]

section

variable (limits : Limits) (d : Document)

/-- A test of equality answers on literals what it answers on values, if its answer about nulls is unknown. -/
theorem evaluate_onLiterals {f : Function} (hf : f ∈ Function.equalityTests) {a b : Value} {answer : Option Bool}
    (hnull : a = .null ∨ b = .null → answer = none) (hvalues : f.onValues limits [a, b] = .ok (.ofTruth answer)) :
    (onLiterals f a b).evaluate limits d = .ofTruth answer := by
  have hcall : (onLiterals f a b).evaluate limits d = f.apply limits [.ofValue a, .ofValue b] := rfl
  rw [hcall, Function.apply_eq_applyStrict limits hf]
  by_cases h : a = .null ∨ b = .null
  · rw [Function.applyStrict_of_null limits f h, hnull h]
    rfl
  · obtain ⟨ha, hb⟩ := not_or.mp h
    rw [Function.applyStrict_of_ne_null limits f ha hb, hvalues]
    rfl

theorem evaluate_eq (a b : Value) :
    (onLiterals (.comparison .eq) a b).evaluate limits d = .ofTruth (a.equals? b) :=
  evaluate_onLiterals limits d (by decide) Value.equals?_of_null rfl

theorem evaluate_neq (a b : Value) :
    (onLiterals (.comparison .neq) a b).evaluate limits d = .ofTruth ((a.equals? b).map Bool.not) :=
  evaluate_onLiterals limits d (by decide) (fun h => by rw [Value.equals?_of_null h, Option.map_none]) rfl

theorem evaluate_eqAny (v : Value) (candidates : List Value) :
    (onLiterals (.comparison .eqAny) v (.array candidates)).evaluate limits d = .ofTruth (v.isAnyOf? candidates) := by
  refine evaluate_onLiterals limits d (by decide) ?_ rfl
  rintro (rfl | h)
  · exact Value.isAnyOf?_null candidates
  · cases h

theorem evaluate_notEqAny (v : Value) (candidates : List Value) :
    (onLiterals (.comparison .notEqAny) v (.array candidates)).evaluate limits d =
      .ofTruth ((v.isAnyOf? candidates).map Bool.not) := by
  refine evaluate_onLiterals limits d (by decide) ?_ rfl
  rintro (rfl | h)
  · rw [Value.isAnyOf?_null, Option.map_none]
  · cases h

theorem evaluate_contains (items : List Value) (v : Value) :
    (onLiterals (.array .contains) (.array items) v).evaluate limits d = .ofTruth (v.isAnyOf? items) := by
  refine evaluate_onLiterals limits d (by decide) ?_ rfl
  rintro (h | rfl)
  · cases h
  · exact Value.isAnyOf?_null items

theorem evaluate_containsAny (items candidates : List Value) :
    (onLiterals (.array .containsAny) (.array items) (.array candidates)).evaluate limits d =
      .ofTruth (ArrayFunction.containsAny? items candidates) :=
  evaluate_onLiterals limits d (by decide) (by simp) rfl

theorem evaluate_containsAll (items candidates : List Value) :
    (onLiterals (.array .containsAll) (.array items) (.array candidates)).evaluate limits d =
      .ofTruth (ArrayFunction.containsAll? items candidates) :=
  evaluate_onLiterals limits d (by decide) (by simp) rfl

variable {candidates : List Value} {test : Value → Expression} {answer : Value → Option Bool}

/-- A conjunction or disjunction of tests searches among their answers. -/
theorem evaluate_junction_of_answers {op : Logical} {decider : Bool} (hop : op ∈ Logical.connectives)
    (hjunction : op.apply = Logical.junction (.logical op) decider ⟨none, false⟩) (hne : candidates ≠ [])
    (htest : ∀ c, (test c).evaluate limits d = .ofTruth (answer c)) :
    (call (.logical op) (candidates.map test)).evaluate limits d =
      .ofTruth (Truth.search decider false (candidates.map answer)) := by
  have houtcomes : (candidates.map test).map (evaluate limits d) = (candidates.map answer).map .ofTruth := by
    rw [List.map_map, List.map_map]
    exact List.map_congr_left fun c _ => htest c
  rw [evaluate_connective limits d hop (mt List.map_eq_nil_iff.mp hne), hjunction, houtcomes,
    Logical.junction_ofTruth]

end

/-- **Membership is a connective of equalities.**  On literals, being equal to one of some candidates is the disjunction
of the equalities, being equal to none the conjunction of the inequalities, and holding one or all of them the
disjunction or conjunction of the memberships; to be in an array is to be equal to one of its items.  These are equal
outcomes, whichever of the values are null or hold nulls.  Without candidates there is nothing to be equal to or to be
held. -/
theorem membership_is_connective_of_equalities (limits : Limits) (d : Document) (v : Value) (items : List Value) :
    (∀ candidates : List Value, candidates ≠ [] →
      (onLiterals (.comparison .eqAny) v (.array candidates)).evaluate limits d =
          (call (.logical .or) (candidates.map (onLiterals (.comparison .eq) v))).evaluate limits d ∧
        (onLiterals (.comparison .notEqAny) v (.array candidates)).evaluate limits d =
          (call (.logical .and) (candidates.map (onLiterals (.comparison .neq) v))).evaluate limits d ∧
        (onLiterals (.array .containsAny) (.array items) (.array candidates)).evaluate limits d =
          (call (.logical .or) (candidates.map (onLiterals (.array .contains) (.array items)))).evaluate limits d ∧
        (onLiterals (.array .containsAll) (.array items) (.array candidates)).evaluate limits d =
          (call (.logical .and) (candidates.map (onLiterals (.array .contains) (.array items)))).evaluate limits d) ∧
      (onLiterals (.array .contains) (.array items) v).evaluate limits d =
        (onLiterals (.comparison .eqAny) v (.array items)).evaluate limits d ∧
      (v ≠ .null → (onLiterals (.comparison .eqAny) v (.array [])).evaluate limits d = .boolean false) ∧
      (onLiterals (.array .containsAny) (.array items) (.array [])).evaluate limits d = .boolean false ∧
      (onLiterals (.array .containsAll) (.array items) (.array [])).evaluate limits d = .boolean true := by
  refine ⟨fun candidates hne => ⟨?_, ?_, ?_, ?_⟩, ?_, fun hv => ?_, ?_, ?_⟩
  · rw [evaluate_eqAny, Value.isAnyOf?, Value.search_equals? true v hne]
    exact (evaluate_junction_of_answers limits d (by decide) rfl hne (evaluate_eq limits d v)).symm
  · rw [evaluate_notEqAny, Value.isAnyOf?, Value.search_equals? true v hne, Truth.map_not_search,
      List.map_map]
    exact (evaluate_junction_of_answers limits d (by decide) rfl hne (evaluate_neq limits d v)).symm
  · rw [evaluate_containsAny, ArrayFunction.containsAny?]
    exact (evaluate_junction_of_answers limits d (by decide) rfl hne (evaluate_contains limits d items)).symm
  · rw [evaluate_containsAll, ArrayFunction.containsAll?]
    exact (evaluate_junction_of_answers limits d (by decide) rfl hne (evaluate_contains limits d items)).symm
  · rw [evaluate_contains, evaluate_eqAny]
  · rw [evaluate_eqAny, Value.isAnyOf?, Value.isNull_eq_false hv]
    rfl
  · rw [evaluate_containsAny]
    rfl
  · rw [evaluate_containsAll]
    rfl

/-- Beside an array that differs, a null among the candidates leaves the search open in both ways, and an array that is
open itself does not decide either.  A candidate that is not held decides over a null, and a value that is not null is
not among no candidates. -/
theorem membership_is_connective_of_equalities_beside_nulls :
    let d : Document := ⟨⟨["c", "d"]⟩, [], none⟩
    let v : Value := .array [.integer 1, .null]
    let candidates : List Value := [.array [.integer 2, .null], .null, v]
    (onLiterals (.comparison .eqAny) v (.array candidates)).evaluate {} d = .null ∧
      (call (.logical .or) (candidates.map (onLiterals (.comparison .eq) v))).evaluate {} d = .null ∧
      (call (.logical .and) (candidates.map (onLiterals (.comparison .neq) v))).evaluate {} d = .null ∧
      (call (.logical .and)
        ([.null, .integer 2].map (onLiterals (.array .contains) (.array [.integer 1])))).evaluate {} d =
          .boolean false ∧
      (onLiterals (.comparison .eqAny) v (.array [])).evaluate {} d = .boolean false := by
  intro d v candidates
  obtain ⟨hsearch, -, hempty, -⟩ := membership_is_connective_of_equalities {} d v [.integer 1]
  obtain ⟨hany, hnone, -, -⟩ := hsearch candidates (List.cons_ne_nil _ _)
  obtain ⟨-, -, -, hall⟩ := hsearch [.null, .integer 2] (List.cons_ne_nil _ _)
  refine ⟨rfl, ?_, ?_, ?_, hempty nofun⟩
  · rw [← hany]
    rfl
  · rw [← hnone]
    rfl
  · rw [← hall]
    rfl

end Expression

end DocumentQuery
