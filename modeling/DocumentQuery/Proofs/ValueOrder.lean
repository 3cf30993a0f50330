import DocumentQuery.Outcome
import DocumentQuery.Proofs.NestedValues
import DocumentQuery.Proofs.NumberOrder

/-! # The order of all values is a total preorder

`Value.compare` is put together from an order inside each rank and from itself on items and fields.  Three laws
make it fit for sorting: every value ties with itself, turning the operands round turns the answer round, and
the order is transitive (`TotalPreorder`).

Transitivity is carried through nesting in the form `Chains`, which says what the answer on the ends of a triple
is, not only that it is not `gt`; in this form it passes through `Ordering.then` (`Chains.then`), and so through
lists of items and lists of fields, one position at a time.  Inside a rank without nesting, values compare as
their contents do (`Value.UniformRank`), and the laws come from the order of the contents. -/

namespace DocumentQuery

/-! ### Transitivity of three-way answers -/

/-- What transitivity says of the answers on a triple: two steps that do not go down make one step, and that
goes up as soon as one of the two does. -/
def Chains (ab bc ac : Ordering) : Prop := ab ≠ .gt → bc ≠ .gt → ac = ab.then bc

theorem chains_of_transCmp {α : Type} (cmp : α → α → Ordering) [Std.TransCmp cmp] (a b c : α) :
    Chains (cmp a b) (cmp b c) (cmp a c) := by
  intro hab hbc
  cases h : cmp a b with
  | gt => exact absurd h hab
  | eq => rw [Std.TransCmp.congr_left h]; rfl
  | lt => exact Std.TransCmp.lt_of_lt_of_isLE h (by cases hc : cmp b c <;> simp_all)

/-- The second comparison counts only where the first ties on both steps. -/
theorem Chains.then {ab bc ac ab' bc' ac' : Ordering} (h : Chains ab bc ac)
    (h' : ab = .eq → bc = .eq → Chains ab' bc' ac') :
    Chains (ab.then ab') (bc.then bc') (ac.then ac') := by
  intro hab hbc
  cases ab with
  | gt => exact absurd rfl hab
  | lt =>
      have hac : ac = .lt := h (by decide) (by rintro rfl; exact hbc rfl)
      rw [hac]
      rfl
  | eq =>
      cases bc with
      | gt => exact absurd rfl hbc
      | lt =>
          have hac : ac = .lt := h (by decide) (by decide)
          rw [hac]
          cases ab' with
          | gt => exact absurd rfl hab
          | _ => rfl
      | eq =>
          have hac : ac = .eq := h (by decide) (by decide)
          rw [hac]
          exact h' rfl rfl hab hbc

theorem transCmp_of_chains {α : Type} {cmp : α → α → Ordering} (swap : ∀ a b, cmp b a = (cmp a b).swap)
    (chains : ∀ a b c, Chains (cmp a b) (cmp b c) (cmp a c)) : Std.TransCmp cmp where
  eq_swap {a b} := swap b a
  isLE_trans {a b c} hab hbc := by
    have hab' : cmp a b ≠ .gt := by intro h; simp [h] at hab
    have hbc' : cmp b c ≠ .gt := by intro h; simp [h] at hbc
    rw [chains a b c hab' hbc']
    cases h : cmp a b with
    | lt => rfl
    | eq => exact hbc
    | gt => exact absurd h hab'

/-! ### Orders that go by a rank first -/

/-- Between elements of different rank the ranks decide. -/
def DecidedByRank {α : Type} (rank : α → Nat) (cmp : α → α → Ordering) : Prop :=
  ∀ a b, rank a ≠ rank b → cmp a b = Ord.compare (rank a) (rank b)

namespace DecidedByRank

variable {α : Type} {rank : α → Nat} {cmp : α → α → Ordering}

/-- Turning the operands round has to be looked at inside one rank only. -/
theorem swap (hd : DecidedByRank rank cmp) {a b : α} (h : rank a = rank b → cmp b a = (cmp a b).swap) :
    cmp b a = (cmp a b).swap := by
  by_cases hr : rank a = rank b
  · exact h hr
  · rw [hd a b hr, hd b a (Ne.symm hr)]
    exact Std.OrientedOrd.eq_swap (α := Nat)

theorem rank_le (hd : DecidedByRank rank cmp) {a b : α} (h : cmp a b ≠ .gt) : rank a ≤ rank b := by
  by_contra hlt
  apply h
  rw [hd a b (by omega)]
  exact Nat.compare_eq_gt.mpr (by omega)

theorem eq_lt (hd : DecidedByRank rank cmp) {a b : α} (h : rank a < rank b) : cmp a b = .lt := by
  rw [hd a b (by omega)]
  exact Nat.compare_eq_lt.mpr h

/-- A step to a higher rank decides, so transitivity is due inside one rank only. -/
theorem chains (hd : DecidedByRank rank cmp) {a b c : α}
    (h : rank a = rank b → rank b = rank c → Chains (cmp a b) (cmp b c) (cmp a c)) :
    Chains (cmp a b) (cmp b c) (cmp a c) := by
  intro hab hbc
  have hle₁ := hd.rank_le hab
  have hle₂ := hd.rank_le hbc
  by_cases h₁ : rank a = rank b
  · by_cases h₂ : rank b = rank c
    · exact h h₁ h₂ hab hbc
    · rw [hd.eq_lt (show rank a < rank c by omega), hd.eq_lt (show rank b < rank c by omega)]
      cases hx : cmp a b with
      | gt => exact absurd hx hab
      | _ => rfl
  · rw [hd.eq_lt (show rank a < rank c by omega), hd.eq_lt (show rank a < rank b by omega)]
    rfl

end DecidedByRank

/-! ### The orders inside a rank -/

instance : Std.TransOrd Timestamp :=
  inferInstanceAs (Std.TransCmp (compareLex (compareOn Timestamp.seconds) (compareOn Timestamp.nanos)))

instance : Std.TransCmp GeoPoint.compare :=
  inferInstanceAs (Std.TransCmp (compareLex (compareOn fun g : GeoPoint => g.latitude.rank)
    (compareOn fun g => g.longitude.rank)))

instance : Std.TransCmp Value.compareVectors :=
  inferInstanceAs (Std.TransCmp (compareLex (compareOn List.length) (List.compareLex Double.compare)))

namespace Value

theorem decidedByRank_compare : DecidedByRank rank compare := by
  intro a b h
  cases a <;> cases b <;> first
    | exact absurd rfl h
    | simp [compare, compareNumeric]

theorem compare_of_isNumber {a b : Value} (ha : a.isNumber) (hb : b.isNumber) :
    a.compare b = Ord.compare a.numericRank b.numericRank := by
  rw [← compareNumeric_eq ha hb]
  cases a <;> cases b <;> simp_all [isNumber, compare, rank, kind, Kind.rank]

/-! ### Ranks without nesting -/

/-- The values of a rank are made of contents in one way, and compare as the contents do. -/
def UniformRank (r : Nat) : Prop :=
  ∃ (β : Type) (cmp : β → β → Ordering) (_ : Std.TransCmp cmp) (make : β → Value),
    (∀ v : Value, v.rank = r → ∃ x, make x = v) ∧ ∀ x y, (make x).compare (make y) = cmp x y

namespace UniformRank

variable {r : Nat} {a b c : Value}

theorem swap (h : UniformRank r) (ha : a.rank = r) (hb : b.rank = r) : b.compare a = (a.compare b).swap := by
  obtain ⟨β, cmp, _, make, hmake, hcmp⟩ := h
  obtain ⟨x, rfl⟩ := hmake a ha
  obtain ⟨y, rfl⟩ := hmake b hb
  rw [hcmp, hcmp]
  exact Std.OrientedCmp.eq_swap

theorem chains (h : UniformRank r) (ha : a.rank = r) (hb : b.rank = r) (hc : c.rank = r) :
    Chains (a.compare b) (b.compare c) (a.compare c) := by
  obtain ⟨β, cmp, _, make, hmake, hcmp⟩ := h
  obtain ⟨x, rfl⟩ := hmake a ha
  obtain ⟨y, rfl⟩ := hmake b hb
  obtain ⟨z, rfl⟩ := hmake c hc
  rw [hcmp, hcmp, hcmp]
  exact chains_of_transCmp cmp x y z

end UniformRank

/-- Numbers of both kinds are one rank, in the order of their places on the line. -/
theorem uniformRank_number : UniformRank Kind.integer.rank := by
  refine ⟨{ v : Value // v.isNumber }, compareOn fun x => x.1.numericRank, inferInstance, Subtype.val,
    fun v hv => ⟨⟨v, ?_⟩, rfl⟩, fun x y => compare_of_isNumber x.2 y.2⟩
  cases v <;> first
    | rfl
    | cases hv

/-- Every rank but those of arrays and maps is uniform. -/
theorem uniformRank_of_plain {v : Value} (ha : v.array? = none) (hm : v.map? = none) : UniformRank v.rank := by
  cases v with
  | null =>
      refine ⟨Unit, fun x y => Ord.compare x y, inferInstance, fun _ => null, fun w hw => ?_, fun _ _ => rfl⟩
      cases w <;> cases hw
      exact ⟨(), rfl⟩
  | integer _ => exact uniformRank_number
  | double _ => exact uniformRank_number
  | boolean _ =>
      refine ⟨Bool, fun x y => Ord.compare x y, inferInstance, boolean, fun w hw => ?_, fun _ _ => rfl⟩
      cases w <;> cases hw
      exact ⟨_, rfl⟩
  | timestamp _ =>
      refine ⟨Timestamp, fun x y => Ord.compare x y, inferInstance, timestamp, fun w hw => ?_, fun _ _ => rfl⟩
      cases w <;> cases hw
      exact ⟨_, rfl⟩
  | string _ =>
      refine ⟨String, fun x y => Ord.compare x y, inferInstance, string, fun w hw => ?_, fun _ _ => rfl⟩
      cases w <;> cases hw
      exact ⟨_, rfl⟩
  | bytes _ =>
      refine ⟨List UInt8, fun x y => Ord.compare x y, inferInstance, bytes, fun w hw => ?_, fun _ _ => rfl⟩
      cases w <;> cases hw
      exact ⟨_, rfl⟩
  | reference _ =>
      refine ⟨ResourcePath, fun x y => Ord.compare x y, inferInstance, reference, fun w hw => ?_, fun _ _ => rfl⟩
      cases w <;> cases hw
      exact ⟨_, rfl⟩
  | geoPoint _ =>
      refine ⟨GeoPoint, GeoPoint.compare, inferInstance, geoPoint, fun w hw => ?_, fun _ _ => rfl⟩
      cases w <;> cases hw
      exact ⟨_, rfl⟩
  | vector _ =>
      refine ⟨List Double, compareVectors, inferInstance, vector, fun w hw => ?_, fun _ _ => rfl⟩
      cases w <;> cases hw
      exact ⟨_, rfl⟩
  | array _ => cases ha
  | map _ => cases hm

/-! ### Turning the operands round -/

theorem compareItems_swap {as : List Value} (h : ∀ a ∈ as, ∀ b, b.compare a = (a.compare b).swap) :
    ∀ bs, compareItems bs as = (compareItems as bs).swap := by
  induction as with
  | nil => intro bs; cases bs <;> rfl
  | cons a as ih =>
      intro bs
      cases bs with
      | nil => rfl
      | cons b bs =>
          have htail := ih (fun x hx => h x (List.mem_cons_of_mem a hx)) bs
          simp only [compareItems]
          rw [h a List.mem_cons_self b, htail, Ordering.swap_then]

theorem compareFields_swap {as : Record} (h : ∀ f ∈ as, ∀ b, b.compare f.2 = (f.2.compare b).swap) :
    ∀ bs, compareFields bs as = (compareFields as bs).swap := by
  induction as with
  | nil => intro bs; cases bs <;> rfl
  | cons f as ih =>
      intro bs
      cases bs with
      | nil => rfl
      | cons g bs =>
          have htail := ih (fun x hx => h x (List.mem_cons_of_mem f hx)) bs
          have hkey : Ord.compare g.1 f.1 = (Ord.compare f.1 g.1).swap := Std.OrientedOrd.eq_swap
          simp only [compareFields]
          rw [hkey, h f List.mem_cons_self g.2, htail, Ordering.swap_then, Ordering.swap_then]

theorem compare_swap (a b : Value) : b.compare a = (a.compare b).swap := by
  induction a using nested_induction generalizing b with
  | plain a ha hm =>
      exact decidedByRank_compare.swap fun hr => (uniformRank_of_plain ha hm).swap rfl hr.symm
  | array as ih =>
      refine decidedByRank_compare.swap fun hr => ?_
      cases b <;> cases hr
      exact compareItems_swap ih _
  | map as ih =>
      refine decidedByRank_compare.swap fun hr => ?_
      cases b <;> cases hr
      exact compareFields_swap ih _

/-! ### Transitivity -/

theorem compareItems_chains {as : List Value}
    (h : ∀ a ∈ as, ∀ b c, Chains (a.compare b) (b.compare c) (a.compare c)) :
    ∀ bs cs, Chains (compareItems as bs) (compareItems bs cs) (compareItems as cs) := by
  induction as with
  | nil =>
      intro bs cs hab hbc
      cases bs <;> cases cs <;> first | rfl | exact absurd rfl hbc
  | cons a as ih =>
      intro bs cs
      cases bs with
      | nil => exact fun hab _ => absurd rfl hab
      | cons b bs =>
          cases cs with
          | nil => exact fun _ hbc => absurd rfl hbc
          | cons c cs =>
              have htail := ih (fun x hx => h x (List.mem_cons_of_mem a hx)) bs cs
              simp only [compareItems]
              exact (h a List.mem_cons_self b c).then fun _ _ => htail

theorem compareFields_chains {as : Record}
    (h : ∀ f ∈ as, ∀ b c, Chains (f.2.compare b) (b.compare c) (f.2.compare c)) :
    ∀ bs cs, Chains (compareFields as bs) (compareFields bs cs) (compareFields as cs) := by
  induction as with
  | nil =>
      intro bs cs hab hbc
      cases bs <;> cases cs <;> first | rfl | exact absurd rfl hbc
  | cons f as ih =>
      intro bs cs
      cases bs with
      | nil => exact fun hab _ => absurd rfl hab
      | cons g bs =>
          cases cs with
          | nil => exact fun _ hbc => absurd rfl hbc
          | cons k cs =>
              have htail := ih (fun x hx => h x (List.mem_cons_of_mem f hx)) bs cs
              have hvalue := h f List.mem_cons_self g.2 k.2
              simp only [compareFields]
              exact (chains_of_transCmp (fun x y : String => Ord.compare x y) f.1 g.1 k.1).then fun _ _ =>
                hvalue.then fun _ _ => htail

/-- **The order of values is transitive**, at every depth. -/
theorem compare_chains (a b c : Value) : Chains (a.compare b) (b.compare c) (a.compare c) := by
  induction a using nested_induction generalizing b c with
  | plain a ha hm =>
      exact decidedByRank_compare.chains fun h₁ h₂ =>
        (uniformRank_of_plain ha hm).chains rfl h₁.symm (h₁.trans h₂).symm
  | array as ih =>
      refine decidedByRank_compare.chains fun h₁ h₂ => ?_
      cases b <;> cases h₁
      cases c <;> cases h₂
      exact compareItems_chains ih _ _
  | map as ih =>
      refine decidedByRank_compare.chains fun h₁ h₂ => ?_
      cases b <;> cases h₁
      cases c <;> cases h₂
      exact compareFields_chains ih _ _

instance : Std.TransCmp compare := transCmp_of_chains compare_swap compare_chains

end Value

/-! ### Outcomes -/

namespace Outcome

theorem decidedByRank_compare : DecidedByRank classRank compare := by
  intro a b h
  cases a <;> cases b <;> first
    | exact absurd rfl h
    | rfl

theorem compare_swap (a b : Outcome) : b.compare a = (a.compare b).swap := by
  cases a <;> cases b <;> first
    | rfl
    | exact Value.compare_swap _ _

theorem compare_chains (a b c : Outcome) : Chains (a.compare b) (b.compare c) (a.compare c) := by
  refine decidedByRank_compare.chains fun h₁ h₂ => ?_
  cases a <;> cases b <;> cases h₁ <;> cases c <;> cases h₂ <;> first
    | exact fun _ _ => rfl
    | exact Value.compare_chains _ _ _

instance : Std.TransCmp compare := transCmp_of_chains compare_swap compare_chains

end Outcome

/-! ### The laws together -/

/-- The laws that make a three-way comparison fit for sorting. -/
structure TotalPreorder {α : Type} (cmp : α → α → Ordering) : Prop where
  /-- Everything ties with itself. -/
  self : ∀ a, cmp a a = .eq
  /-- Turning the operands round turns the answer round. -/
  swap : ∀ a b, cmp b a = (cmp a b).swap
  /-- Two steps that do not go down do not go down together. -/
  trans : ∀ a b c, cmp a b ≠ .gt → cmp b c ≠ .gt → cmp a c ≠ .gt
  /-- They go up together as soon as one of them does. -/
  trans_lt : ∀ a b c, cmp a b ≠ .gt → cmp b c ≠ .gt → cmp a b = .lt ∨ cmp b c = .lt → cmp a c = .lt

theorem totalPreorder_of_transCmp {α : Type} (cmp : α → α → Ordering) [Std.TransCmp cmp] :
    TotalPreorder cmp where
  self _ := Std.ReflCmp.compare_self
  swap _ _ := Std.OrientedCmp.eq_swap
  trans a b c hab hbc := by
    rw [chains_of_transCmp cmp a b c hab hbc]
    cases h : cmp a b <;> simp_all
  trans_lt a b c hab hbc hlt := by
    rw [chains_of_transCmp cmp a b c hab hbc]
    rcases hlt with h | h
    · rw [h]; rfl
    · rw [h]
      cases hx : cmp a b <;> simp_all

/-- **Values and outcomes are totally preordered.**  Among outcomes a missing one ties with an error, and both
lie below null, which lies below every value. -/
theorem totalPreorder_value_outcome :
    TotalPreorder Value.compare ∧ TotalPreorder Outcome.compare ∧
      ∀ (e : EvalError) (v : Value),
        Outcome.compare .unset (.error e) = .eq ∧ Outcome.compare .unset .null = .lt ∧
          Outcome.compare (.error e) .null = .lt ∧ Outcome.compare .null (.value v) = .lt :=
  ⟨totalPreorder_of_transCmp _, totalPreorder_of_transCmp _, fun _ _ => ⟨rfl, rfl, rfl, rfl⟩⟩

/-- Past two to the 53rd, where doubles leave out integers, the order goes up inside arrays as it should. -/
theorem totalPreorder_past_exact_doubles :
    Value.compare (.array [.double ⟨0x4340000000000000⟩]) (.array [.integer 9007199254740993]) ≠ .gt ∧
      Value.compare (.array [.integer 9007199254740993]) (.array [.integer 9007199254740993, .null]) ≠ .gt ∧
        Value.compare (.array [.double ⟨0x4340000000000000⟩]) (.array [.integer 9007199254740993, .null]) = .lt :=
  have hab : Value.compare (.array [.double ⟨0x4340000000000000⟩]) (.array [.integer 9007199254740993]) = .lt := by
    decide +kernel
  have hbc : Value.compare (.array [.integer 9007199254740993])
      (.array [.integer 9007199254740993, .null]) = .lt := by
    decide +kernel
  ⟨by simp [hab], by simp [hbc],
    totalPreorder_value_outcome.1.trans_lt _ _ _ (by simp [hab]) (by simp [hbc]) (Or.inl hab)⟩

end DocumentQuery
