import DocumentQuery.BuiltinEngine.Build
import DocumentQuery.Proofs.Sorting
import Mathlib.Data.List.Basic

/-! # Directions of a sort

Turning the direction of every sort key round turns the order of the outcomes round
(`Document.outcomeOrder_flipped`), while ties of all outcomes still go by ascending document key.  So the flipped sort
is not the reversed one: it reverses the pairs that some outcome tells apart and keeps the others
(`Document.precedes_sorted_flipped_iff`).

The outcomes of one key go by class before they go by value, missing or failed ones next to null and null next to the
values.  The class of the first key never falls along a sort (`Document.sorted_classRank_le`), where a descending
direction counts the classes from above (`Direction.classRank`); so each class is one block (`Document.InBlocks`). -/

namespace DocumentQuery

/-! ### Positions in increasing lists -/

section positions

variable {α : Type} {cmp : α → α → Ordering} {l : List α} {x y : α}

/-- The first element stands in the list somewhere in front of the second one. -/
def Precedes (x y : α) (l : List α) : Prop := [x, y].Sublist l

/-- In a strictly increasing list the lesser of two elements stands in front. -/
theorem precedes_iff_of_increasing [Std.TransCmp cmp] (h : l.Pairwise fun a b => cmp a b = .lt) (hx : x ∈ l)
    (hy : y ∈ l) : Precedes x y l ↔ cmp x y = .lt := by
  constructor
  · intro hsub
    have hpair : [x, y].Pairwise fun a b => cmp a b = .lt := h.sublist hsub
    simpa using hpair
  · intro hlt
    obtain ⟨front, rest, rfl⟩ := List.append_of_mem hx
    rcases List.mem_append.mp hy with hfront | hrest
    · have hgt : cmp y x = .lt := (List.pairwise_append.mp h).2.2 y hfront x List.mem_cons_self
      exact absurd hgt (Std.OrientedCmp.not_lt_of_lt hlt)
    · rcases List.mem_cons.mp hrest with rfl | hrest
      · have hself : cmp y y = .eq := Std.ReflCmp.compare_self
        rw [hself] at hlt
        cases hlt
      · have hpair : [x, y].Sublist (x :: rest) := (List.singleton_sublist.mpr hrest).cons_cons x
        exact hpair.trans (List.sublist_append_right front _)

section blocks

variable {rank : α → ℕ} {n : ℕ}

/-- Where a number never falls, the elements below its greatest value stand in front of those that have it. -/
theorem filter_lt_append_filter_eq (h : l.Pairwise fun a b => rank a ≤ rank b) (hbound : ∀ a ∈ l, rank a < n + 1) :
    l.filter (rank · < n) ++ l.filter (rank · = n) = l := by
  have hlower : l.Pairwise fun a b => decide (rank b < n) → decide (rank a < n) :=
    h.imp fun {a b} hab hb => decide_eq_true (Nat.lt_of_le_of_lt hab (of_decide_eq_true hb))
  have hlast : l.filter (rank · = n) = l.filter fun a => !decide (rank a < n) := by
    refine List.filter_congr fun a ha => ?_
    have := hbound a ha
    rw [← decide_not, decide_eq_decide]
    omega
  rw [hlast, ← takeWhile_eq_filter hlower, ← dropWhile_eq_filter hlower, List.takeWhile_append_dropWhile]

theorem filter_eq_filter_lt {k : ℕ} (hk : k < n) (l : List α) :
    (l.filter (rank · < n)).filter (rank · = k) = l.filter (rank · = k) := by
  rw [List.filter_filter]
  refine List.filter_congr fun a _ => ?_
  rw [← Bool.decide_and, decide_eq_decide]
  omega

/-- A list along which a number below `n` never falls is made of one block for each number. -/
theorem eq_flatMap_blocks (h : l.Pairwise fun a b => rank a ≤ rank b) (hbound : ∀ a ∈ l, rank a < n) :
    l = (List.range n).flatMap fun k => l.filter (rank · = k) := by
  induction n generalizing l with
  | zero => exact List.eq_nil_iff_forall_not_mem.mpr fun a ha => Nat.not_lt_zero _ (hbound a ha)
  | succ n ih =>
      have hfront := ih (h.filter (rank · < n)) fun a ha => of_decide_eq_true (List.mem_filter.mp ha).2
      rw [List.flatMap_congr fun k hk => filter_eq_filter_lt (List.mem_range.mp hk) l] at hfront
      rw [List.range_succ, List.flatMap_append, ← hfront, List.flatMap_singleton,
        filter_lt_append_filter_eq h hbound]

end blocks

end positions

/-! ### Flipped keys -/

def Direction.flipped : Direction → Direction
  | .ascending => .descending
  | .descending => .ascending

/-- The key in the other direction. -/
def SortKey.flipped (key : SortKey) : SortKey := { key with direction := key.direction.flipped }

theorem Direction.compare_flipped (direction : Direction) (a b : Outcome) :
    direction.flipped.compare a b = (direction.compare a b).swap := by
  cases direction with
  | ascending => exact Outcome.compare_swap a b
  | descending => exact Outcome.compare_swap b a

theorem Direction.compare_eq_eq_iff (direction : Direction) (a b : Outcome) :
    direction.compare a b = .eq ↔ a.compare b = .eq := by
  cases direction with
  | ascending => exact Iff.rfl
  | descending => exact Std.OrientedCmp.eq_comm

namespace Document

variable (limits : Limits) (keys : List SortKey) (x y : Document)

theorem outcomeOrder_cons (key : SortKey) :
    outcomeOrder limits (key :: keys) x y =
      (key.direction.compare (key.expression.evaluate limits x) (key.expression.evaluate limits y)).then
        (outcomeOrder limits keys x y) := rfl

theorem sortOrder_eq_then :
    sortOrder limits keys x y = (outcomeOrder limits keys x y).then (Ord.compare x.key y.key) := rfl

/-- The outcomes tie as a whole if they tie key by key. -/
theorem outcomeOrder_eq_eq_iff :
    outcomeOrder limits keys x y = .eq ↔
      ∀ key ∈ keys, (key.expression.evaluate limits x).compare (key.expression.evaluate limits y) = .eq := by
  induction keys with
  | nil => exact iff_of_true rfl nofun
  | cons key keys ih =>
      rw [outcomeOrder_cons, Ordering.then_eq_eq, Direction.compare_eq_eq_iff, ih, List.forall_mem_cons]

theorem outcomeOrder_flipped :
    outcomeOrder limits (keys.map SortKey.flipped) x y = (outcomeOrder limits keys x y).swap := by
  induction keys with
  | nil => rfl
  | cons key keys ih =>
      rw [List.map_cons, outcomeOrder_cons, outcomeOrder_cons, ih, Ordering.swap_then]
      exact congrArg (Ordering.then · _) (key.direction.compare_flipped _ _)

variable {x y} {ds : List Document}

/-! ### Pairs in the two sorts -/

theorem precedes_sorted_iff (h : (ds.map key).Nodup) (hx : x ∈ ds) (hy : y ∈ ds) :
    Precedes x y (sorted limits keys ds) ↔ sortOrder limits keys x y = .lt := by
  have hperm := sorted_perm limits keys ds
  exact precedes_iff_of_increasing (sorted_increasing limits keys h) (hperm.mem_iff.mpr hx) (hperm.mem_iff.mpr hy)

/-- A pair that some outcome tells apart stands the other way round in the flipped sort. -/
theorem precedes_sorted_flipped_iff (h : (ds.map key).Nodup) (hx : x ∈ ds) (hy : y ∈ ds)
    (hdecided : outcomeOrder limits keys x y ≠ .eq) :
    Precedes x y (sorted limits keys ds) ↔ Precedes y x (sorted limits (keys.map SortKey.flipped) ds) := by
  have := transCmp_outcomeOrder limits keys
  have hturned : outcomeOrder limits (keys.map SortKey.flipped) y x = outcomeOrder limits keys x y := by
    rw [outcomeOrder_flipped]
    exact Std.OrientedCmp.eq_swap.symm
  rw [precedes_sorted_iff _ _ h hx hy, precedes_sorted_iff _ _ h hy hx, sortOrder_eq_then, sortOrder_eq_then, hturned]
  cases ho : outcomeOrder limits keys x y with
  | eq => exact absurd ho hdecided
  | lt | gt => rfl

/-- A pair that no outcome tells apart stands in the order of its keys. -/
theorem precedes_sorted_iff_of_tie (h : (ds.map key).Nodup) (hx : x ∈ ds) (hy : y ∈ ds)
    (htie : outcomeOrder limits keys x y = .eq) :
    Precedes x y (sorted limits keys ds) ↔ Ord.compare x.key y.key = .lt := by
  rw [precedes_sorted_iff _ _ h hx hy, sortOrder_eq_then, htie]
  rfl

end Document

/-! ### Blocks of the first key -/

namespace Outcome

theorem classRank_lt (o : Outcome) : o.classRank < 3 := by
  cases o <;> simp [classRank]

theorem isUnset_or_isError_of_classRank {o : Outcome} (h : o.classRank = 0) : o.isUnset ∨ o.isError := by
  cases o with
  | unset => exact .inl rfl
  | error e => exact .inr rfl
  | value _ | null => cases h

theorem isNull_of_classRank {o : Outcome} (h : o.classRank = 1) : o.isNull := by
  cases o with
  | null => rfl
  | value _ | unset | error _ => cases h

theorem isValue_of_classRank {o : Outcome} (h : o.classRank = 2) : o.isValue := by
  cases o with
  | value _ => rfl
  | null | unset | error _ => cases h

end Outcome

/-- The class of an outcome in the order of a direction. -/
def Direction.classRank (direction : Direction) (o : Outcome) : ℕ :=
  match direction with
  | .ascending => o.classRank
  | .descending => 2 - o.classRank

theorem Direction.classRank_lt (direction : Direction) (o : Outcome) : direction.classRank o < 3 := by
  cases direction with
  | ascending => exact o.classRank_lt
  | descending => exact Nat.lt_succ_of_le (Nat.sub_le 2 _)

theorem Direction.classRank_le {direction : Direction} {a b : Outcome} (h : direction.compare a b ≠ .gt) :
    direction.classRank a ≤ direction.classRank b := by
  cases direction with
  | ascending => exact Outcome.decidedByRank_compare.rank_le h
  | descending => exact Nat.sub_le_sub_left (Outcome.decidedByRank_compare.rank_le h) 2

/-- From above, the classes are counted the other way round. -/
theorem Direction.classRank_of_descending {o : Outcome} {k : ℕ} (h : Direction.descending.classRank o = k) :
    o.classRank = 2 - k := by
  have hdef : Direction.descending.classRank o = 2 - o.classRank := rfl
  have := o.classRank_lt
  omega

namespace Document

/-- The class of a document by the outcome of a sort key. -/
def classRank (limits : Limits) (key : SortKey) (d : Document) : ℕ :=
  key.direction.classRank (key.expression.evaluate limits d)

/-- The documents stand in blocks by the outcome of a sort key: where it is not set or failed, where it is null, and
where it has a value, in the direction of the key. -/
def InBlocks (limits : Limits) (key : SortKey) (ds : List Document) : Prop :=
  ∃ missing nulls values : List Document,
    (∀ d ∈ missing, (key.expression.evaluate limits d).isUnset ∨ (key.expression.evaluate limits d).isError) ∧
    (∀ d ∈ nulls, (key.expression.evaluate limits d).isNull) ∧
    (∀ d ∈ values, (key.expression.evaluate limits d).isValue) ∧
    ds = match key.direction with
      | .ascending => missing ++ nulls ++ values
      | .descending => values ++ nulls ++ missing

theorem inBlocks_of_classRank_le {limits : Limits} {key : SortKey} {ds : List Document}
    (h : ds.Pairwise fun x y => x.classRank limits key ≤ y.classRank limits key) : InBlocks limits key ds := by
  have hblocks := eq_flatMap_blocks h fun d _ => key.direction.classRank_lt (key.expression.evaluate limits d)
  simp only [List.range_succ, List.range_zero, List.nil_append, List.flatMap_append, List.flatMap_singleton] at hblocks
  have hclass {k : ℕ} {d : Document} (hd : d ∈ ds.filter (classRank limits key · = k)) : d.classRank limits key = k :=
    of_decide_eq_true (List.mem_filter.mp hd).2
  obtain ⟨e, direction⟩ := key
  cases direction with
  | ascending =>
      refine ⟨_, _, _, fun d hd => ?_, fun d hd => ?_, fun d hd => ?_, hblocks⟩
      · exact Outcome.isUnset_or_isError_of_classRank (hclass hd)
      · exact Outcome.isNull_of_classRank (hclass hd)
      · exact Outcome.isValue_of_classRank (hclass hd)
  | descending =>
      refine ⟨_, _, _, fun d hd => ?_, fun d hd => ?_, fun d hd => ?_, hblocks⟩
      · exact Outcome.isUnset_or_isError_of_classRank (Direction.classRank_of_descending (hclass hd))
      · exact Outcome.isNull_of_classRank (Direction.classRank_of_descending (hclass hd))
      · exact Outcome.isValue_of_classRank (Direction.classRank_of_descending (hclass hd))

/-- The class by the first key does not fall along a sort. -/
theorem sorted_classRank_le (limits : Limits) (first : SortKey) (rest : List SortKey) (ds : List Document) :
    (sorted limits (first :: rest) ds).Pairwise fun x y => x.classRank limits first ≤ y.classRank limits first := by
  refine (sorted_nondecreasing limits (first :: rest) ds).imp fun {x y} hle => ?_
  rw [sortOrder_eq_then, outcomeOrder_cons, Ordering.isLE_then_iff_and, Ordering.isLE_then_iff_and] at hle
  exact Direction.classRank_le (Ordering.isLE_iff_ne_gt.mp hle.1.1)

/-- **Flipping every direction reverses the decided pairs.**  Of documents with distinct keys, two whose outcomes differ
for some sort key stand the other way round in the flipped sort, and two whose outcomes all tie stand in both sorts in
the order of their document keys.  By the outcomes of the first key a sort falls into blocks: those that are not set or
failed, then nulls, then values, and the other way round where the first key descends. -/
theorem flipping_reverses_decided_pairs (limits : Limits) (keys : List SortKey) {ds : List Document}
    (h : (ds.map key).Nodup) :
    (∀ x ∈ ds, ∀ y ∈ ds,
      ((∃ key ∈ keys,
          (key.expression.evaluate limits x).compare (key.expression.evaluate limits y) ≠ .eq) →
        (Precedes x y (sorted limits keys ds) ↔
          Precedes y x (sorted limits (keys.map SortKey.flipped) ds))) ∧
      ((∀ key ∈ keys, (key.expression.evaluate limits x).compare (key.expression.evaluate limits y) = .eq) →
        (Precedes x y (sorted limits keys ds) ↔ Ord.compare x.key y.key = .lt) ∧
        (Precedes x y (sorted limits (keys.map SortKey.flipped) ds) ↔ Ord.compare x.key y.key = .lt))) ∧
    ∀ first rest, keys = first :: rest → InBlocks limits first (sorted limits keys ds) := by
  refine ⟨fun x hx y hy => ⟨fun hdecided => ?_, fun htie => ?_⟩, ?_⟩
  · refine precedes_sorted_flipped_iff limits keys h hx hy fun htie => ?_
    obtain ⟨key, hkey, hne⟩ := hdecided
    exact hne ((outcomeOrder_eq_eq_iff limits keys x y).mp htie key hkey)
  · have horder := (outcomeOrder_eq_eq_iff limits keys x y).mpr htie
    have hflipped : outcomeOrder limits (keys.map SortKey.flipped) x y = .eq := by
      rw [outcomeOrder_flipped, horder]
      rfl
    exact ⟨precedes_sorted_iff_of_tie limits keys h hx hy horder,
      precedes_sorted_iff_of_tie limits _ h hx hy hflipped⟩
  · rintro first rest rfl
    exact inBlocks_of_classRank_le (sorted_classRank_le limits first rest ds)

/-- Ten as an integer and as a double tie, so that the keys decide in both directions; a document without the field is
told apart from them. -/
theorem flipping_reverses_decided_pairs_beside_ties :
    let keys : List SortKey := [⟨.field ⟨["v"]⟩, .descending⟩]
    let ten : Document := ⟨⟨["c", "b"]⟩, [("v", .integer 10)], none⟩
    let tenAsDouble : Document := ⟨⟨["c", "a"]⟩, [("v", .double ⟨0x4024000000000000⟩)], none⟩
    let missing : Document := ⟨⟨["c", "c"]⟩, [], none⟩
    let ds := [ten, missing, tenAsDouble]
    (ds.map key).Nodup ∧
      (Precedes ten missing (sorted {} keys ds) ↔ Precedes missing ten (sorted {} (keys.map SortKey.flipped) ds)) ∧
      Precedes tenAsDouble ten (sorted {} keys ds) ∧
      Precedes tenAsDouble ten (sorted {} (keys.map SortKey.flipped) ds) ∧
      InBlocks {} ⟨.field ⟨["v"]⟩, .descending⟩ (sorted {} keys ds) := by
  intro keys ten tenAsDouble missing ds
  have hdistinct : (ds.map key).Nodup := by decide +kernel
  have hten : ten ∈ ds := List.mem_cons_self
  have hmissing : missing ∈ ds := List.mem_cons_of_mem _ List.mem_cons_self
  have hdouble : tenAsDouble ∈ ds := List.mem_cons_of_mem _ (List.mem_cons_of_mem _ List.mem_cons_self)
  have hdecided : ∃ key ∈ keys,
      (key.expression.evaluate {} ten).compare (key.expression.evaluate {} missing) ≠ .eq :=
    ⟨_, List.mem_cons_self, by decide +kernel⟩
  have htie : ∀ key ∈ keys,
      (key.expression.evaluate {} tenAsDouble).compare (key.expression.evaluate {} ten) = .eq :=
    List.forall_mem_singleton.mpr (by decide +kernel)
  have hkey : Ord.compare tenAsDouble.key ten.key = .lt := by decide +kernel
  obtain ⟨hpairs, hblocks⟩ := flipping_reverses_decided_pairs {} keys hdistinct
  obtain ⟨hfirst, hsecond⟩ := (hpairs _ hdouble _ hten).2 htie
  exact ⟨hdistinct, (hpairs _ hten _ hmissing).1 hdecided, hfirst.mpr hkey, hsecond.mpr hkey, hblocks _ _ rfl⟩

end Document

end DocumentQuery
