import DocumentQuery.Proofs.QueryEquality

/-! # The order of the inequality operators

The inequality operators compare two values by `Value.compareStrict?`, which has no answer between kinds that do not
compare or where a NaN decides.  Where it has one, it is the answer of the order of all values
(`Value.agrees_compareStrict?`), so that its laws come down to when there is an answer at all: turning the operands
round does not change that (`Value.compareStrict?_swap`), and two steps that do not go down have an answer together
(`Value.compareStrict?_chains`).

Equality is a third recursion over the same two values.  An answer `lt` or `gt` of the inequalities goes with the
answer that the values differ, a tie with any other one, and `Coherent` says so in a form that passes through lists
of items and lists of fields.  A tie goes through both values to the end, so there is no NaN in them
(`Value.everywhere_nanFree_of_tie`), and equality confirms it unless it finds a null there. -/

namespace DocumentQuery

/-! ### Answers that may be missing -/

/-- The answer of a comparison, if there is one, is the one of another comparison. -/
def Agrees (answer? : Option Ordering) (answer : Ordering) : Prop := ∀ o, answer? = some o → answer = o

/-- What transitivity says of answers on a triple that may be missing: two steps that have an answer and do not go
down have an answer together. -/
def ChainsIfKnown (ab bc ac : Option Ordering) : Prop :=
  ∀ o p, ab = some o → bc = some p → o ≠ .gt → p ≠ .gt → ac = some (o.then p)

/-- What equality and the inequalities can answer on the same two values. -/
structure Coherent (equal? : Option Bool) (order? : Option Ordering) : Prop where
  /-- Values in order differ. -/
  differ : ∀ o, order? = some o → o ≠ .eq → equal? = some false
  /-- Values that tie do not differ. -/
  tie : order? = some .eq → equal? ≠ some false
  /-- Equal values tie. -/
  equal : equal? = some true → order? = some .eq

namespace Value

/-- The second answer counts where the first is a tie. -/
theorem thenCompare?_eq_some_iff {x y : Option Ordering} {o : Ordering} :
    thenCompare? x y = some o ↔ x = some .eq ∧ y = some o ∨ x = some o ∧ o ≠ .eq := by
  rcases x with _ | _ | _ | _ <;> cases o <;> simp [thenCompare?]

theorem thenCompare?_map_swap (x y : Option Ordering) :
    thenCompare? (x.map Ordering.swap) (y.map Ordering.swap) = (thenCompare? x y).map Ordering.swap := by
  rcases x with _ | _ | _ | _ <;> rfl

end Value

open Value (thenCompare? thenCompare?_eq_some_iff)

section

variable {x y x' y' x'' y'' : Option Ordering} {o p : Ordering}

theorem Agrees.then (h : Agrees x o) (h' : Agrees y p) : Agrees (thenCompare? x y) (o.then p) := by
  intro q hq
  obtain ⟨hx, hy⟩ | ⟨hx, hne⟩ := thenCompare?_eq_some_iff.mp hq
  · rw [h _ hx, h' _ hy]
    rfl
  · rw [h _ hx]
    cases q <;> first
      | rfl
      | exact absurd rfl hne

theorem chainsIfKnown_of_chains {ab bc ac : Ordering} (h : Chains ab bc ac) :
    ChainsIfKnown (some ab) (some bc) (some ac) := by
  intro o p ho hp hab hbc
  cases ho
  cases hp
  rw [h hab hbc]

theorem chainsIfKnown_eq_left (x : Option Ordering) : ChainsIfKnown (some .eq) x x := by
  intro o p ho hp _ _
  cases ho
  exact hp

theorem chainsIfKnown_lt_left (x : Option Ordering) : ChainsIfKnown (some .lt) x (some .lt) := by
  intro o p ho _ _ _
  cases ho
  rfl

theorem chainsIfKnown_gt_left (x y : Option Ordering) : ChainsIfKnown (some .gt) x y := by
  intro o p ho _ hno _
  cases ho
  exact absurd rfl hno

theorem chainsIfKnown_gt_right (x y : Option Ordering) : ChainsIfKnown x (some .gt) y := by
  intro o p _ hp _ hnp
  cases hp
  exact absurd rfl hnp

/-- The second comparison counts only where the first ties on both steps. -/
theorem ChainsIfKnown.then (h : ChainsIfKnown x x' x'') (h' : ChainsIfKnown y y' y'') :
    ChainsIfKnown (thenCompare? x y) (thenCompare? x' y') (thenCompare? x'' y'') := by
  intro o p ho hp hno hnp
  rw [thenCompare?_eq_some_iff] at ho hp
  obtain ⟨hx, hy⟩ | ⟨hx, hne⟩ := ho
  · obtain ⟨hx', hy'⟩ | ⟨hx', hne'⟩ := hp
    · rw [h _ _ hx hx' (by decide) (by decide)]
      exact h' o p hy hy' hno hnp
    · -- The second step goes up before the first has left the tie.
      have hlt : p = .lt := by cases p <;> simp_all
      have hfirst : o = .lt ∨ o = .eq := by cases o <;> simp_all
      subst hlt
      rw [h _ _ hx hx' (by decide) (by decide)]
      rcases hfirst with rfl | rfl <;> rfl
  · have hlt : o = .lt := by cases o <;> simp_all
    subst hlt
    obtain ⟨hx', -⟩ | ⟨hx', -⟩ := hp
    · rw [h _ _ hx hx' (by decide) (by decide)]
      rfl
    · rw [h _ _ hx hx' (by decide) hnp]
      rfl

theorem Coherent.then {e f : Option Bool} (h : Coherent e x) (h' : Coherent f y) :
    Coherent (Truth.both e f) (thenCompare? x y) where
  differ o ho hne := by
    rw [Truth.both_eq_some_false_iff]
    obtain ⟨-, hy⟩ | ⟨hx, -⟩ := thenCompare?_eq_some_iff.mp ho
    · exact .inr (h'.differ o hy hne)
    · exact .inl (h.differ o hx hne)
  tie ho := by
    rw [ne_eq, Truth.both_eq_some_false_iff]
    obtain ⟨hx, hy⟩ | ⟨-, hne⟩ := thenCompare?_eq_some_iff.mp ho
    · exact not_or.mpr ⟨h.tie hx, h'.tie hy⟩
    · exact absurd rfl hne
  equal he := by
    obtain ⟨he, hf⟩ := Truth.both_eq_some_true_iff.mp he
    exact thenCompare?_eq_some_iff.mpr (.inl ⟨h.equal he, h'.equal hf⟩)

theorem coherent_tie : Coherent (some true) (some .eq) := ⟨by decide, by decide, fun _ => rfl⟩

theorem coherent_of_ne {o : Ordering} (h : o ≠ .eq) : Coherent (some false) (some o) :=
  ⟨fun _ _ _ => rfl, fun ho => absurd (Option.some.inj ho) h, nofun⟩

/-- Keys are equal or in order. -/
theorem coherent_keys (k l : String) : Coherent (some (decide (k = l))) (some (Ord.compare k l)) where
  differ o ho hne := by
    cases ho
    rw [Option.some.injEq, decide_eq_false_iff_not]
    exact fun heq => hne (Std.LawfulEqOrd.compare_eq_iff_eq.mpr heq)
  tie ho := by
    have hkeys : k = l := Std.LawfulEqOrd.compare_eq_iff_eq.mp (Option.some.inj ho)
    simp [hkeys]
  equal he := by
    have hkeys : k = l := of_decide_eq_true (Option.some.inj he)
    rw [hkeys, Std.ReflOrd.compare_self]

end

namespace Value

/-! ### Values without nesting -/

/-- No NaN is among the doubles of a value outside the values nested in it. -/
def NaNFree (v : Value) : Prop := ∀ d ∈ v.ownDoubles, d.isNaN = false

/-- A null is somewhere inside. -/
def HoldsNull (v : Value) : Prop := ∃ w ∈ v.parts, w.isNull

variable {a b : Value} {o : Ordering}

theorem compareStrict?_of_rank_ne (h : a.rank ≠ b.rank) : a.compareStrict? b = none := by
  cases a <;> cases b <;> first
    | exact absurd rfl h
    | simp [compareStrict?, rank, kind, Kind.rank]

theorem eq_null_of_rank (h : a.rank = null.rank) : a = null := by
  cases a <;> cases h
  rfl

theorem rank_eq_of_compareStrict? (h : a.compareStrict? b = some o) : a.rank = b.rank := by
  by_contra hr
  rw [compareStrict?_of_rank_ne hr] at h
  cases h

/-- Values without nesting have an answer if they are of one rank and without NaN, and it is the one of the order of
all values. -/
theorem plain_compareStrict?_iff (ha : a.array? = none) (hm : a.map? = none) :
    a.compareStrict? b = some o ↔ a.rank = b.rank ∧ a.NaNFree ∧ b.NaNFree ∧ a.compare b = o := by
  by_cases hr : a.rank = b.rank
  · rw [and_iff_right hr]
    cases a with
    | array _ => cases ha
    | map _ => cases hm
    | geoPoint _ =>
        cases b <;> cases hr
        simp [compareStrict?, compare, NaNFree, ownDoubles, GeoPoint.hasNaN, and_assoc]
    | vector _ =>
        cases b <;> cases hr
        simp [compareStrict?, compare, NaNFree, ownDoubles, and_assoc]
    | _ =>
        cases b <;> cases hr <;>
          simp [compareStrict?, rank, kind, Kind.rank, NaNFree, ownDoubles, isNaN, and_assoc]
  · rw [compareStrict?_of_rank_ne hr]
    exact iff_of_false (Option.some_ne_none o).symm fun h => hr h.1

theorem array?_eq_none_iff : a.array? = none ↔ a.rank ≠ Kind.array.rank := by
  cases a <;> simp [array?, rank, kind, Kind.rank]

theorem map?_eq_none_iff : a.map? = none ↔ a.rank ≠ Kind.map.rank := by
  cases a <;> simp [map?, rank, kind, Kind.rank]

/-! ### Agreement with the order of all values -/

theorem agrees_compareStrictItems? {as : List Value}
    (h : ∀ a ∈ as, ∀ b, Agrees (a.compareStrict? b) (a.compare b)) :
    ∀ bs, Agrees (compareStrictItems? as bs) (compareItems as bs) := by
  induction as with
  | nil => intro bs; cases bs <;> exact fun _ => Option.some.inj
  | cons a as ih =>
      intro bs
      cases bs with
      | nil => exact fun _ => Option.some.inj
      | cons b bs =>
          have htail := ih (fun x hx => h x (List.mem_cons_of_mem a hx)) bs
          rw [compareStrictItems?, compareItems]
          exact (h a List.mem_cons_self b).then htail

theorem agrees_compareStrictFields? {as : Record}
    (h : ∀ f ∈ as, ∀ b, Agrees (f.2.compareStrict? b) (f.2.compare b)) :
    ∀ bs, Agrees (compareStrictFields? as bs) (compareFields as bs) := by
  induction as with
  | nil => intro bs; cases bs <;> exact fun _ => Option.some.inj
  | cons f as ih =>
      intro bs
      cases bs with
      | nil => exact fun _ => Option.some.inj
      | cons g bs =>
          have htail := ih (fun x hx => h x (List.mem_cons_of_mem f hx)) bs
          have hkeys : Agrees (some (Ord.compare f.1 g.1)) (Ord.compare f.1 g.1) := fun _ => Option.some.inj
          rw [compareStrictFields?, compareFields]
          exact hkeys.then ((h f List.mem_cons_self g.2).then htail)

/-- **What the inequalities answer, the order of all values answers.** -/
theorem agrees_compareStrict? (a b : Value) : Agrees (a.compareStrict? b) (a.compare b) := by
  induction a using nested_induction generalizing b with
  | plain a ha hm => exact fun o h => ((plain_compareStrict?_iff ha hm).mp h).2.2.2
  | array as ih =>
      intro o h
      have hr := rank_eq_of_compareStrict? h
      cases b <;> cases hr
      exact agrees_compareStrictItems? ih _ o h
  | map as ih =>
      intro o h
      have hr := rank_eq_of_compareStrict? h
      cases b <;> cases hr
      exact agrees_compareStrictFields? ih _ o h

/-! ### Turning the operands round -/

theorem compareStrictItems?_swap {as : List Value}
    (h : ∀ a ∈ as, ∀ b, b.compareStrict? a = (a.compareStrict? b).map Ordering.swap) :
    ∀ bs, compareStrictItems? bs as = (compareStrictItems? as bs).map Ordering.swap := by
  induction as with
  | nil => intro bs; cases bs <;> rfl
  | cons a as ih =>
      intro bs
      cases bs with
      | nil => rfl
      | cons b bs =>
          have htail := ih (fun x hx => h x (List.mem_cons_of_mem a hx)) bs
          rw [compareStrictItems?, compareStrictItems?, h a List.mem_cons_self b, htail, thenCompare?_map_swap]

theorem compareStrictFields?_swap {as : Record}
    (h : ∀ f ∈ as, ∀ b, b.compareStrict? f.2 = (f.2.compareStrict? b).map Ordering.swap) :
    ∀ bs, compareStrictFields? bs as = (compareStrictFields? as bs).map Ordering.swap := by
  induction as with
  | nil => intro bs; cases bs <;> rfl
  | cons f as ih =>
      intro bs
      cases bs with
      | nil => rfl
      | cons g bs =>
          have htail := ih (fun x hx => h x (List.mem_cons_of_mem f hx)) bs
          have hkeys : some (Ord.compare g.1 f.1) = (some (Ord.compare f.1 g.1)).map Ordering.swap :=
            congrArg some Std.OrientedOrd.eq_swap
          rw [compareStrictFields?, compareStrictFields?, hkeys, h f List.mem_cons_self g.2, htail,
            thenCompare?_map_swap, thenCompare?_map_swap]

theorem plain_compareStrict?_swap (ha : a.array? = none) (hm : a.map? = none) (hr : a.rank = b.rank) :
    b.compareStrict? a = (a.compareStrict? b).map Ordering.swap := by
  have hb : b.array? = none := array?_eq_none_iff.mpr (hr ▸ array?_eq_none_iff.mp ha)
  have hbm : b.map? = none := map?_eq_none_iff.mpr (hr ▸ map?_eq_none_iff.mp hm)
  ext o
  rw [plain_compareStrict?_iff hb hbm, Option.map_eq_some_iff]
  constructor
  · rintro ⟨-, hnb, hna, hcmp⟩
    refine ⟨o.swap, (plain_compareStrict?_iff ha hm).mpr ⟨hr, hna, hnb, ?_⟩, Ordering.swap_swap⟩
    rw [compare_swap b a, hcmp]
  · rintro ⟨p, hp, rfl⟩
    obtain ⟨-, hna, hnb, hcmp⟩ := (plain_compareStrict?_iff ha hm).mp hp
    exact ⟨hr.symm, hnb, hna, by rw [compare_swap a b, hcmp]⟩

/-- Turning the operands round has to be looked at inside one rank only. -/
theorem swap_of_rank_eq
    (h : a.rank = b.rank → b.compareStrict? a = (a.compareStrict? b).map Ordering.swap) :
    b.compareStrict? a = (a.compareStrict? b).map Ordering.swap := by
  by_cases hr : a.rank = b.rank
  · exact h hr
  · rw [compareStrict?_of_rank_ne hr, compareStrict?_of_rank_ne (Ne.symm hr), Option.map_none]

/-- **Turning the operands round turns the answer round**, and leaves a missing one missing. -/
theorem compareStrict?_swap (a b : Value) : b.compareStrict? a = (a.compareStrict? b).map Ordering.swap := by
  induction a using nested_induction generalizing b with
  | plain a ha hm => exact swap_of_rank_eq (plain_compareStrict?_swap ha hm)
  | array as ih =>
      refine swap_of_rank_eq fun hr => ?_
      cases b <;> cases hr
      exact compareStrictItems?_swap ih _
  | map as ih =>
      refine swap_of_rank_eq fun hr => ?_
      cases b <;> cases hr
      exact compareStrictFields?_swap ih _

/-! ### Transitivity -/

theorem compareStrictItems?_chains {as : List Value}
    (h : ∀ a ∈ as, ∀ b c, ChainsIfKnown (a.compareStrict? b) (b.compareStrict? c) (a.compareStrict? c)) :
    ∀ bs cs, ChainsIfKnown (compareStrictItems? as bs) (compareStrictItems? bs cs)
      (compareStrictItems? as cs) := by
  induction as with
  | nil =>
      intro bs cs
      cases bs with
      | nil => exact chainsIfKnown_eq_left _
      | cons b bs =>
          cases cs with
          | nil => exact chainsIfKnown_gt_right _ _
          | cons c cs => exact chainsIfKnown_lt_left _
  | cons a as ih =>
      intro bs cs
      cases bs with
      | nil => exact chainsIfKnown_gt_left _ _
      | cons b bs =>
          cases cs with
          | nil => exact chainsIfKnown_gt_right _ _
          | cons c cs =>
              have htail := ih (fun x hx => h x (List.mem_cons_of_mem a hx)) bs cs
              simp only [compareStrictItems?]
              exact (h a List.mem_cons_self b c).then htail

theorem compareStrictFields?_chains {as : Record}
    (h : ∀ f ∈ as, ∀ b c, ChainsIfKnown (f.2.compareStrict? b) (b.compareStrict? c) (f.2.compareStrict? c)) :
    ∀ bs cs, ChainsIfKnown (compareStrictFields? as bs) (compareStrictFields? bs cs)
      (compareStrictFields? as cs) := by
  induction as with
  | nil =>
      intro bs cs
      cases bs with
      | nil => exact chainsIfKnown_eq_left _
      | cons g bs =>
          cases cs with
          | nil => exact chainsIfKnown_gt_right _ _
          | cons k cs => exact chainsIfKnown_lt_left _
  | cons f as ih =>
      intro bs cs
      cases bs with
      | nil => exact chainsIfKnown_gt_left _ _
      | cons g bs =>
          cases cs with
          | nil => exact chainsIfKnown_gt_right _ _
          | cons k cs =>
              have htail := ih (fun x hx => h x (List.mem_cons_of_mem f hx)) bs cs
              have hkeys := chainsIfKnown_of_chains
                (chains_of_transCmp (fun x y : String => Ord.compare x y) f.1 g.1 k.1)
              simp only [compareStrictFields?]
              exact hkeys.then ((h f List.mem_cons_self g.2 k.2).then htail)

/-- **The inequalities are transitive**: two steps that have an answer and do not go down have one together. -/
theorem compareStrict?_chains (a b c : Value) :
    ChainsIfKnown (a.compareStrict? b) (b.compareStrict? c) (a.compareStrict? c) := by
  induction a using nested_induction generalizing b c with
  | plain a ha hm =>
      intro o p hab hbc ho hp
      have hchain := compare_chains a b c
      rw [agrees_compareStrict? b c p hbc] at hchain
      obtain ⟨hr, hna, hnb, rfl⟩ := (plain_compareStrict?_iff ha hm).mp hab
      have hb : b.array? = none := array?_eq_none_iff.mpr (hr ▸ array?_eq_none_iff.mp ha)
      have hbm : b.map? = none := map?_eq_none_iff.mpr (hr ▸ map?_eq_none_iff.mp hm)
      obtain ⟨hr', -, hnc, -⟩ := (plain_compareStrict?_iff hb hbm).mp hbc
      exact (plain_compareStrict?_iff ha hm).mpr ⟨hr.trans hr', hna, hnc, hchain ho hp⟩
  | array as ih =>
      intro o p hab hbc
      have hr := rank_eq_of_compareStrict? hab
      have hr' := rank_eq_of_compareStrict? hbc
      cases b <;> cases hr
      cases c <;> cases hr'
      exact compareStrictItems?_chains ih _ _ o p hab hbc
  | map as ih =>
      intro o p hab hbc
      have hr := rank_eq_of_compareStrict? hab
      have hr' := rank_eq_of_compareStrict? hbc
      cases b <;> cases hr
      cases c <;> cases hr'
      exact compareStrictFields?_chains ih _ _ o p hab hbc

/-! ### Coherence with equality -/

theorem coherent_compareStrictItems? {as : List Value}
    (h : ∀ a ∈ as, ∀ b, Coherent (a.equals? b) (a.compareStrict? b)) :
    ∀ bs, Coherent (itemsEqual? as bs) (compareStrictItems? as bs) := by
  induction as with
  | nil =>
      intro bs
      cases bs with
      | nil => exact coherent_tie
      | cons b bs => exact coherent_of_ne (by decide)
  | cons a as ih =>
      intro bs
      cases bs with
      | nil => exact coherent_of_ne (by decide)
      | cons b bs =>
          have htail := ih (fun x hx => h x (List.mem_cons_of_mem a hx)) bs
          rw [itemsEqual?, compareStrictItems?]
          exact (h a List.mem_cons_self b).then htail

theorem coherent_compareStrictFields? {as : Record}
    (h : ∀ f ∈ as, ∀ b, Coherent (f.2.equals? b) (f.2.compareStrict? b)) :
    ∀ bs, Coherent (fieldsEqual? as bs) (compareStrictFields? as bs) := by
  induction as with
  | nil =>
      intro bs
      cases bs with
      | nil => exact coherent_tie
      | cons g bs => exact coherent_of_ne (by decide)
  | cons f as ih =>
      intro bs
      cases bs with
      | nil => exact coherent_of_ne (by decide)
      | cons g bs =>
          have htail := ih (fun x hx => h x (List.mem_cons_of_mem f hx)) bs
          rw [fieldsEqual?, compareStrictFields?]
          exact (coherent_keys f.1 g.1).then ((h f List.mem_cons_self g.2).then htail)

theorem mem_parts_self (v : Value) : v ∈ v.parts := by
  cases v <;> simp [parts]

theorem plain_equals?_ne_none (ha : a.array? = none) (hm : a.map? = none) (hna : a ≠ null) (hnb : b ≠ null) :
    a.equals? b ≠ none := by
  cases a with
  | null => exact absurd rfl hna
  | array _ => cases ha
  | map _ => cases hm
  | _ => cases b <;> first
      | exact absurd rfl hnb
      | simp [equals?]

theorem plain_coherent (ha : a.array? = none) (hm : a.map? = none) (b : Value) :
    Coherent (a.equals? b) (a.compareStrict? b) where
  differ o ho hne := by
    obtain ⟨hr, -, -, hcmp⟩ := (plain_compareStrict?_iff ha hm).mp ho
    -- Two nulls tie, and a null has no order with anything else.
    have hna : a ≠ null := by
      rintro rfl
      cases eq_null_of_rank hr.symm
      exact hne hcmp.symm
    have hnb : b ≠ null := by
      rintro rfl
      exact hna (eq_null_of_rank hr)
    have htrue : a.equals? b ≠ some true := fun he =>
      hne (hcmp.symm.trans ((equals?_eq_some_true_iff a b).mp he).1)
    have hknown := plain_equals?_ne_none ha hm hna hnb
    rcases h : a.equals? b with _ | _ | _
    · exact absurd h hknown
    · rfl
    · exact absurd h htrue
  tie ho := by
    obtain ⟨-, hna, -, hcmp⟩ := (plain_compareStrict?_iff ha hm).mp ho
    cases hnull : a.isNull with
    | true =>
        cases a <;> cases hnull
        exact nofun
    | false =>
        have hdef : a.Definite := (definite_of_plain ha hm).mpr ⟨hnull, hna⟩
        rw [(equals?_eq_some_true_iff a b).mpr ⟨hcmp, hdef⟩]
        decide
  equal he := by
    obtain ⟨hcmp, hdef⟩ := (equals?_eq_some_true_iff a b).mp he
    have hdef' : b.Definite := ((equals?_eq_some_true_iff b a).mp (equals?_comm a b ▸ he)).2
    have hr : a.rank = b.rank := by
      by_contra hr
      exact compare_of_rank_ne hr hcmp
    exact (plain_compareStrict?_iff ha hm).mpr
      ⟨hr, (hdef a a.mem_parts_self).2, (hdef' b b.mem_parts_self).2, hcmp⟩

/-- Values of different rank have no order, and are not equal. -/
theorem coherent_of_rank_eq (h : a.rank = b.rank → Coherent (a.equals? b) (a.compareStrict? b)) :
    Coherent (a.equals? b) (a.compareStrict? b) := by
  by_cases hr : a.rank = b.rank
  · exact h hr
  · rw [compareStrict?_of_rank_ne hr]
    exact ⟨nofun, nofun, fun he => absurd he (equals?_of_rank_ne hr)⟩

/-- **Equality and the inequalities cohere** on every two values. -/
theorem coherent_compareStrict? (a b : Value) : Coherent (a.equals? b) (a.compareStrict? b) := by
  induction a using nested_induction generalizing b with
  | plain a ha hm => exact plain_coherent ha hm b
  | array as ih =>
      refine coherent_of_rank_eq fun hr => ?_
      cases b <;> cases hr
      exact coherent_compareStrictItems? ih _
  | map as ih =>
      refine coherent_of_rank_eq fun hr => ?_
      cases b <;> cases hr
      exact coherent_compareStrictFields? ih _

/-! ### Ties -/

theorem everywhere_nanFree_of_tiedItems {as : List Value}
    (h : ∀ a ∈ as, ∀ b, a.compareStrict? b = some .eq → a.Everywhere NaNFree) :
    ∀ bs, compareStrictItems? as bs = some .eq → ∀ a ∈ as, a.Everywhere NaNFree := by
  induction as with
  | nil => exact fun _ _ => nofun
  | cons a as ih =>
      intro bs htie
      cases bs with
      | nil => cases htie
      | cons b bs =>
          obtain ⟨hhead, htail⟩ | ⟨-, hne⟩ := thenCompare?_eq_some_iff.mp htie
          · exact List.forall_mem_cons.mpr ⟨h a List.mem_cons_self b hhead,
              ih (fun x hx => h x (List.mem_cons_of_mem a hx)) bs htail⟩
          · exact absurd rfl hne

theorem everywhere_nanFree_of_tiedFields {as : Record}
    (h : ∀ f ∈ as, ∀ b, f.2.compareStrict? b = some .eq → f.2.Everywhere NaNFree) :
    ∀ bs, compareStrictFields? as bs = some .eq → ∀ f ∈ as, f.2.Everywhere NaNFree := by
  induction as with
  | nil => exact fun _ _ => nofun
  | cons f as ih =>
      intro bs htie
      cases bs with
      | nil => cases htie
      | cons g bs =>
          obtain ⟨-, hvalues⟩ | ⟨-, hne⟩ := thenCompare?_eq_some_iff.mp htie
          · obtain ⟨hhead, htail⟩ | ⟨-, hne⟩ := thenCompare?_eq_some_iff.mp hvalues
            · exact List.forall_mem_cons.mpr ⟨h f List.mem_cons_self g.2 hhead,
                ih (fun x hx => h x (List.mem_cons_of_mem f hx)) bs htail⟩
            · exact absurd rfl hne
          · exact absurd rfl hne

/-- A tie goes through the values to their ends, and meets no NaN. -/
theorem everywhere_nanFree_of_tie (h : a.compareStrict? b = some .eq) : a.Everywhere NaNFree := by
  induction a using nested_induction generalizing b with
  | plain a ha hm => exact (everywhere_of_plain ha hm).mpr ((plain_compareStrict?_iff ha hm).mp h).2.1
  | array as ih =>
      have hr := rank_eq_of_compareStrict? h
      cases b <;> cases hr
      exact everywhere_array.mpr ⟨nofun, everywhere_nanFree_of_tiedItems (fun a ha _ => ih a ha) _ h⟩
  | map as ih =>
      have hr := rank_eq_of_compareStrict? h
      cases b <;> cases hr
      exact everywhere_map.mpr ⟨nofun, everywhere_nanFree_of_tiedFields (fun f hf _ => ih f hf) _ h⟩

theorem definite_of_tie (h : a.compareStrict? b = some .eq) (hn : ¬ a.HoldsNull) : a.Definite := by
  intro w hw
  refine ⟨?_, everywhere_nanFree_of_tie h w hw⟩
  rw [← Bool.not_eq_true]
  exact fun hnull => hn ⟨w, hw, hnull⟩

theorem not_holdsNull_of_definite (h : a.Definite) : ¬ a.HoldsNull := by
  rintro ⟨w, hw, hnull⟩
  rw [(h w hw).1] at hnull
  cases hnull

/-- **Equality confirms a tie**, unless it meets a null; then both values hold one. -/
theorem equals?_of_tie (h : a.compareStrict? b = some .eq) :
    a.equals? b = some true ∧ ¬ a.HoldsNull ∧ ¬ b.HoldsNull ∨
      a.equals? b = none ∧ a.HoldsNull ∧ b.HoldsNull := by
  have hba : b.compareStrict? a = some .eq := by rw [compareStrict?_swap a b, h]; rfl
  rcases he : a.equals? b with _ | _ | _
  · refine .inr ⟨rfl, ?_, ?_⟩
    · by_contra hn
      have htrue := (equals?_eq_some_true_iff a b).mpr ⟨agrees_compareStrict? a b _ h, definite_of_tie h hn⟩
      rw [he] at htrue
      cases htrue
    · by_contra hn
      have htrue := (equals?_eq_some_true_iff b a).mpr ⟨agrees_compareStrict? b a _ hba, definite_of_tie hba hn⟩
      rw [← equals?_comm, he] at htrue
      cases htrue
  · exact absurd he ((coherent_compareStrict? a b).tie h)
  · have ha := ((equals?_eq_some_true_iff a b).mp he).2
    have hb := ((equals?_eq_some_true_iff b a).mp (equals?_comm a b ▸ he)).2
    exact .inl ⟨rfl, not_holdsNull_of_definite ha, not_holdsNull_of_definite hb⟩

/-! ### The operators -/

/-- A function of comparison answers true on two values. -/
def Holds (limits : Limits) (op : Comparison) (a b : Value) : Prop :=
  (Function.comparison op).apply limits [.ofValue a, .ofValue b] = .boolean true

variable {limits : Limits} {op : Comparison} {accept : Ordering → Bool}

/-- An inequality holds between values that are not null and stand in an order it accepts. -/
theorem holds_iff_of_ordered (hop : ∀ x y, op.apply [x, y] = .ok (Comparison.ordered accept x y)) :
    Holds limits op a b ↔ a ≠ null ∧ ∃ o, a.compareStrict? b = some o ∧ accept o := by
  have hcall (x y : Outcome) : (Function.comparison op).apply limits [x, y] =
      (Function.comparison op).applyStrict limits [x, y] := rfl
  rw [Holds, hcall]
  by_cases hnull : a = null ∨ b = null
  · rw [Function.applyStrict_of_null limits _ hnull]
    refine iff_of_false nofun ?_
    rintro ⟨hna, o, ho, -⟩
    obtain rfl := hnull.resolve_left hna
    exact hna (eq_null_of_rank (rank_eq_of_compareStrict? ho))
  · obtain ⟨hna, hnb⟩ := not_or.mp hnull
    have hresult : (Function.comparison op).onValues limits [a, b] = .ok (Comparison.ordered accept a b) := hop a b
    rw [Function.applyStrict_of_ne_null limits _ hna hnb, hresult, and_iff_right hna]
    show Comparison.ordered accept a b = .boolean true ↔ _
    unfold Comparison.ordered
    cases a.compareStrict? b <;> simp [Outcome.boolean]

theorem holds_lt_iff : Holds limits .lt a b ↔ a.compareStrict? b = some .lt := by
  rw [holds_iff_of_ordered fun _ _ => rfl]
  constructor
  · rintro ⟨-, o, ho, hlt⟩
    rw [ho, Ordering.isLT_iff_eq_lt.mp hlt]
  · intro h
    refine ⟨?_, .lt, h, rfl⟩
    rintro rfl
    cases eq_null_of_rank (rank_eq_of_compareStrict? h).symm
    cases h

theorem holds_lte_iff : Holds limits .lte a b ↔
    Holds limits .lt a b ∨ a ≠ null ∧ a.compareStrict? b = some .eq := by
  rw [holds_iff_of_ordered fun _ _ => rfl, holds_lt_iff]
  constructor
  · rintro ⟨hna, o, ho, hle⟩
    cases o with
    | lt => exact .inl ho
    | eq => exact .inr ⟨hna, ho⟩
    | gt => cases hle
  · rintro (hlt | ⟨hna, htie⟩)
    · have hless : Holds limits .lt a b := holds_lt_iff.mpr hlt
      obtain ⟨hna, -⟩ := (holds_iff_of_ordered fun _ _ => rfl).mp hless
      exact ⟨hna, .lt, hlt, rfl⟩
    · exact ⟨hna, .eq, htie, rfl⟩

/-- An operator that accepts the orders turned round holds between the operands turned round. -/
theorem holds_swap {op' : Comparison} {accept' : Ordering → Bool}
    (hop : ∀ x y, op.apply [x, y] = .ok (Comparison.ordered accept x y))
    (hop' : ∀ x y, op'.apply [x, y] = .ok (Comparison.ordered accept' x y))
    (haccept : ∀ o : Ordering, accept o.swap = accept' o) : Holds limits op a b ↔ Holds limits op' b a := by
  rw [holds_iff_of_ordered hop, holds_iff_of_ordered hop', compareStrict?_swap b a]
  constructor
  · rintro ⟨hna, o, ho, haccepted⟩
    obtain ⟨p, hp, rfl⟩ := Option.map_eq_some_iff.mp ho
    refine ⟨?_, p, hp, haccept p ▸ haccepted⟩
    rintro rfl
    exact hna (eq_null_of_rank (rank_eq_of_compareStrict? hp).symm)
  · rintro ⟨hnb, p, hp, haccepted⟩
    refine ⟨?_, p.swap, by rw [hp, Option.map_some], (haccept p).trans haccepted⟩
    rintro rfl
    exact hnb (eq_null_of_rank (rank_eq_of_compareStrict? hp))

theorem holds_gt_iff : Holds limits .gt a b ↔ Holds limits .lt b a :=
  holds_swap (fun _ _ => rfl) (fun _ _ => rfl) fun o => by cases o <;> rfl

theorem holds_gte_iff : Holds limits .gte a b ↔ Holds limits .lte b a :=
  holds_swap (fun _ _ => rfl) (fun _ _ => rfl) fun o => by cases o <;> rfl

theorem not_holds_lt_self : ¬ Holds limits .lt a a := by
  intro h
  have hcmp := agrees_compareStrict? a a _ (holds_lt_iff.mp h)
  have hself : a.compare a = .eq := Std.ReflCmp.compare_self
  rw [hself] at hcmp
  cases hcmp

theorem holds_lt_trans {c : Value} (hab : Holds limits .lt a b) (hbc : Holds limits .lt b c) :
    Holds limits .lt a c :=
  holds_lt_iff.mpr (compareStrict?_chains a b c _ _ (holds_lt_iff.mp hab) (holds_lt_iff.mp hbc)
    (by decide) (by decide))

/-- **The inequalities are a strict partial order that coheres with equality and with sorting.**  The comparison
behind them is the order of all values where it has an answer, turns round with its operands, and is transitive;
in order means different, equal means tied, and a tie is equal unless a null is inside.  The four operators are read
off it: `lt` is irreflexive and transitive, `gt` and `gte` are `lt` and `lte` with the operands turned round, and
`lte` adds the ties to `lt`. -/
theorem inequalities_are_coherent_partial_order (limits : Limits) :
    (∀ a b : Value, b.compareStrict? a = (a.compareStrict? b).map Ordering.swap) ∧
      (∀ (a b : Value) (o : Ordering), a.compareStrict? b = some o → a.compare b = o) ∧
      (∀ (a b c : Value) (o p : Ordering), a.compareStrict? b = some o → b.compareStrict? c = some p →
        o ≠ .gt → p ≠ .gt → a.compareStrict? c = some (if o = .lt ∨ p = .lt then .lt else .eq)) ∧
      (∀ a b : Value, a.compareStrict? b = some .lt ∨ a.compareStrict? b = some .gt → a.equals? b = some false) ∧
      (∀ a b : Value, a.equals? b = some true → a.compareStrict? b = some .eq) ∧
      (∀ a b : Value, a.compareStrict? b = some .eq →
        a.equals? b = some true ∧ ¬ a.HoldsNull ∧ ¬ b.HoldsNull ∨
          a.equals? b = none ∧ a.HoldsNull ∧ b.HoldsNull) ∧
      (∀ a : Value, ¬ Holds limits .lt a a) ∧
      (∀ a b c : Value, Holds limits .lt a b → Holds limits .lt b c → Holds limits .lt a c) ∧
      (∀ a b : Value, Holds limits .lt a b ↔ a.compareStrict? b = some .lt) ∧
      (∀ a b : Value, Holds limits .lte a b ↔ Holds limits .lt a b ∨ a ≠ null ∧ a.compareStrict? b = some .eq) ∧
      (∀ a b : Value, Holds limits .gt a b ↔ Holds limits .lt b a) ∧
      ∀ a b : Value, Holds limits .gte a b ↔ Holds limits .lte b a := by
  refine ⟨compareStrict?_swap, agrees_compareStrict?, ?_, ?_, fun a b => (coherent_compareStrict? a b).equal,
    fun _ _ => equals?_of_tie, fun _ => not_holds_lt_self, fun _ _ _ => holds_lt_trans, fun _ _ => holds_lt_iff,
    fun _ _ => holds_lte_iff, fun _ _ => holds_gt_iff, fun _ _ => holds_gte_iff⟩
  · intro a b c o p hab hbc ho hp
    rw [compareStrict?_chains a b c o p hab hbc ho hp]
    cases o <;> cases p <;> first
      | rfl
      | exact absurd rfl ho
      | exact absurd rfl hp
  · rintro a b (hlt | hgt)
    · exact (coherent_compareStrict? a b).differ _ hlt (by decide)
    · exact (coherent_compareStrict? a b).differ _ hgt (by decide)

/-- A NaN behind the item that decides does no harm: three arrays are in order, and so differ.  The integer one ties
with the double one beside a null, and equality leaves it open whether the arrays are equal. -/
theorem inequalities_are_coherent_partial_order_beside_nan :
    (array [string "a", double .nan]).compareStrict? (array [string "b", .null]) = some .lt ∧
      (array [string "b", .null]).compareStrict? (array [string "c"]) = some .lt ∧
      (array [string "a", double .nan]).compareStrict? (array [string "c"]) = some .lt ∧
      (array [string "a", double .nan]).equals? (array [string "b", .null]) = some false ∧
      Holds {} .gt (array [string "c"]) (array [string "a", double .nan]) ∧
      (array [integer 1, .null]).compareStrict? (array [double .one, .null]) = some .eq ∧
      (array [integer 1, .null]).equals? (array [double .one, .null]) = none ∧
      (array [integer 1, .null]).HoldsNull ∧ (array [double .one, .null]).HoldsNull := by
  have hab : (array [string "a", double .nan]).compareStrict? (array [string "b", .null]) = some .lt := by decide
  have hbc : (array [string "b", .null]).compareStrict? (array [string "c"]) = some .lt := by decide
  have htie : (array [integer 1, .null]).compareStrict? (array [double .one, .null]) = some .eq := by
    decide +kernel
  obtain ⟨-, -, hchain, hdiffer, -, hconfirm, -, -, hlt, -, hgt, -⟩ := inequalities_are_coherent_partial_order {}
  have hac := hchain _ _ _ _ _ hab hbc (by decide) (by decide)
  have hnull : (array [integer 1, .null]).equals? (array [double .one, .null]) ≠ some true := by decide +kernel
  exact ⟨hab, hbc, hac, hdiffer _ _ (.inl hab), (hgt _ _).mpr ((hlt _ _).mpr hac), htie,
    (hconfirm _ _ htie).resolve_left fun h => hnull h.1⟩

end Value

end DocumentQuery
