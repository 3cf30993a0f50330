import DocumentQuery.BuiltinEngine.Build
import DocumentQuery.Proofs.Sorting

/-! # The sort is stable

Sorting permutes the documents, never goes down, and keeps the documents that tie with any given one as they stood in
the input (`Document.tiedWith_sorted`).  No other list does the last two: under a total preorder, a list that does not
go down is determined by the order of its elements inside each class of ties (`eq_of_tiedWith`), since the heads of
two such lists lie in one class and lead it in both.  So a list that is in order is its own sort
(`Document.sorted_eq_self`). -/

namespace DocumentQuery

/-! ### Ties -/

section ties

variable {α : Type} {cmp : α → α → Ordering} {a b : α} {l l₁ l₂ : List α}

/-- The elements that tie with one of them, in the order of the list. -/
def tiedWith (cmp : α → α → Ordering) (a : α) (l : List α) : List α := l.filter fun b => cmp a b = .eq

theorem tiedWith_cons_of_tie (h : cmp a b = .eq) : tiedWith cmp a (b :: l) = b :: tiedWith cmp a l :=
  List.filter_cons_of_pos (by simpa using h)

theorem tiedWith_cons_of_ne (h : cmp a b ≠ .eq) : tiedWith cmp a (b :: l) = tiedWith cmp a l :=
  List.filter_cons_of_neg (by simpa using h)

theorem tiedWith_of_cons {c : α} (h : tiedWith cmp c (a :: l₁) = tiedWith cmp c (a :: l₂)) :
    tiedWith cmp c l₁ = tiedWith cmp c l₂ := by
  by_cases hca : cmp c a = .eq
  · rw [tiedWith_cons_of_tie hca, tiedWith_cons_of_tie hca] at h
    exact (List.cons.inj h).2
  · rwa [tiedWith_cons_of_ne hca, tiedWith_cons_of_ne hca] at h

theorem compare_eq_of_mem_tiedWith (h : b ∈ tiedWith cmp a l) : cmp a b = .eq := by
  simpa using (List.mem_filter.mp h).2

theorem tiedWith_tiedWith : tiedWith cmp a (tiedWith cmp a l) = tiedWith cmp a l :=
  List.filter_eq_self.mpr fun _ hb => (List.mem_filter.mp hb).2

variable [Std.TransCmp cmp]

theorem mem_tiedWith_self : a ∈ tiedWith cmp a l ↔ a ∈ l := by
  have hself : cmp a a = .eq := Std.ReflCmp.compare_self
  simp [tiedWith, hself]

theorem mem_iff_of_tiedWith (h : ∀ a, tiedWith cmp a l₁ = tiedWith cmp a l₂) (a : α) : a ∈ l₁ ↔ a ∈ l₂ := by
  have hclass : a ∈ tiedWith cmp a l₁ ↔ a ∈ l₁ := mem_tiedWith_self
  rw [← hclass, h, mem_tiedWith_self]

/-- A class of ties is a list in order, so that merging keeps it. -/
theorem tiedWith_mergeSort (a : α) (l : List α) :
    tiedWith cmp a (l.mergeSort fun b c => (cmp b c).isLE) = tiedWith cmp a l := by
  have hordered : (tiedWith cmp a l).Pairwise fun b c => (cmp b c).isLE := by
    refine List.pairwise_of_forall_mem_list fun b hb c hc => ?_
    rw [← Std.TransCmp.congr_left (compare_eq_of_mem_tiedWith hb), compare_eq_of_mem_tiedWith hc]
    rfl
  have hkept : (tiedWith cmp a l).Sublist (l.mergeSort fun b c => (cmp b c).isLE) := by
    refine List.sublist_mergeSort (fun b c d hbc hcd => ?_) isLE_or_isLE hordered List.filter_sublist
    exact Std.TransCmp.isLE_trans hbc hcd
  have hclass : (tiedWith cmp a l).Sublist (tiedWith cmp a (l.mergeSort fun b c => (cmp b c).isLE)) := by
    rw [← tiedWith_tiedWith]
    exact hkept.filter _
  have hperm : (tiedWith cmp a (l.mergeSort fun b c => (cmp b c).isLE)).Perm (tiedWith cmp a l) :=
    (List.mergeSort_perm l _).filter _
  exact (hclass.eq_of_length hperm.length_eq.symm).symm

theorem isLE_head_of_mem (h : (a :: l).Pairwise fun a b => (cmp a b).isLE) (hb : b ∈ a :: l) : (cmp a b).isLE := by
  rcases List.mem_cons.mp hb with rfl | hb
  · exact Std.ReflCmp.isLE_rfl
  · exact List.rel_of_pairwise_cons h hb

/-- A list that does not go down is determined by its classes of ties. -/
theorem eq_of_tiedWith (h₁ : l₁.Pairwise fun a b => (cmp a b).isLE) (h₂ : l₂.Pairwise fun a b => (cmp a b).isLE)
    (h : ∀ a, tiedWith cmp a l₁ = tiedWith cmp a l₂) : l₁ = l₂ := by
  have hmem := mem_iff_of_tiedWith h
  induction l₁ generalizing l₂ with
  | nil => exact (List.eq_nil_iff_forall_not_mem.mpr fun b hb => List.not_mem_nil ((hmem b).mpr hb)).symm
  | cons a l₁ ih =>
      cases l₂ with
      | nil => exact absurd ((hmem a).mp List.mem_cons_self) List.not_mem_nil
      | cons b l₂ =>
          -- The heads tie, and each of them leads the class of both.
          have htie : cmp a b = .eq := Std.OrientedCmp.isLE_antisymm
            (isLE_head_of_mem h₁ ((hmem b).mpr List.mem_cons_self))
            (isLE_head_of_mem h₂ ((hmem a).mp List.mem_cons_self))
          have hheads := h a
          rw [tiedWith_cons_of_tie Std.ReflCmp.compare_self, tiedWith_cons_of_tie htie] at hheads
          obtain rfl : a = b := (List.cons.inj hheads).1
          have htails (c : α) : tiedWith cmp c l₁ = tiedWith cmp c l₂ := tiedWith_of_cons (h c)
          rw [ih h₁.of_cons h₂.of_cons htails (mem_iff_of_tiedWith htails)]

end ties

namespace Document

variable (limits : Limits) (keys : List SortKey)

/-- Documents that tie stand in the sort as they stood before. -/
theorem tiedWith_sorted (d : Document) (ds : List Document) :
    tiedWith (sortOrder limits keys) d (sorted limits keys ds) = tiedWith (sortOrder limits keys) d ds := by
  rw [sorted_eq_mergeSort, tiedWith_mergeSort]

variable {ds es : List Document}

/-- Only the sort is in order and keeps the documents that tie as they stood. -/
theorem eq_sorted (hordered : es.Pairwise fun a b => (sortOrder limits keys a b).isLE)
    (hties : ∀ d, tiedWith (sortOrder limits keys) d es = tiedWith (sortOrder limits keys) d ds) :
    es = sorted limits keys ds :=
  eq_of_tiedWith hordered (sorted_nondecreasing limits keys ds) fun d => by rw [hties, tiedWith_sorted]

theorem sorted_eq_self (h : ds.Pairwise fun a b => (sortOrder limits keys a b).isLE) : sorted limits keys ds = ds :=
  (eq_sorted limits keys h fun _ => rfl).symm

/-- **Sorting is stable.**  Of any documents, with any keys, it gives a permutation that never goes down by the outcomes
of the sort keys and the document keys, and the documents that tie with any given one stand in it as they stood in the
input.  A list in order, such as a sort, is left as it is; and where no two documents have one key, the order in which
they come does not matter. -/
theorem sort_is_stable (limits : Limits) (keys : List SortKey) (ds : List Document) :
    (sorted limits keys ds).Perm ds ∧
    ((sorted limits keys ds).Pairwise fun a b =>
      compareBy keys (SortKey.outcomes limits keys a, a) (SortKey.outcomes limits keys b, b) ≠ .gt) ∧
    (∀ d, tiedWith (sortOrder limits keys) d (sorted limits keys ds) = tiedWith (sortOrder limits keys) d ds) ∧
    ((ds.map key).Nodup → ∀ es, es.Perm ds → sorted limits keys es = sorted limits keys ds) ∧
    sorted limits keys (sorted limits keys ds) = sorted limits keys ds ∧
    ((ds.Pairwise fun a b => (sortOrder limits keys a b).isLE) → sorted limits keys ds = ds) := by
  have hordered := sorted_nondecreasing limits keys ds
  refine ⟨sorted_perm limits keys ds, hordered.imp ?_, fun d => tiedWith_sorted limits keys d ds,
    fun hdistinct es hperm => ?_, sorted_eq_self limits keys hordered, sorted_eq_self limits keys⟩
  · intro a b hab
    exact Ordering.isLE_iff_ne_gt.mp hab
  · exact (sorted_congr limits keys hdistinct hperm.symm).symm

/-- Two copies of one document, with a number kept as an integer and as a double, tie and stay as they stood; a document
without the field comes last in descending order, although its own key comes first. -/
theorem sort_is_stable_among_copies :
    let keys : List SortKey := [⟨.field ⟨["v"]⟩, .descending⟩]
    let ten : Document := ⟨⟨["c", "b"]⟩, [("v", .integer 10)], none⟩
    let tenAsDouble : Document := ⟨⟨["c", "b"]⟩, [("v", .double ⟨0x4024000000000000⟩)], none⟩
    let missing : Document := ⟨⟨["c", "a"]⟩, [], none⟩
    tiedWith (sortOrder {} keys) ten (sorted {} keys [tenAsDouble, missing, ten]) = [tenAsDouble, ten] ∧
      ([ten, missing].map key).Nodup ∧ [missing, ten].Perm [ten, missing] ∧
      ([ten, missing].Pairwise fun a b => (sortOrder {} keys a b).isLE) ∧
      sorted {} keys [missing, ten] = [ten, missing] := by
  intro keys ten tenAsDouble missing
  have hdistinct : ([ten, missing].map key).Nodup := by decide +kernel
  have hperm : [missing, ten].Perm [ten, missing] := List.Perm.swap _ _ []
  have hordered : [ten, missing].Pairwise fun a b => (sortOrder {} keys a b).isLE :=
    List.pairwise_pair.mpr (by decide +kernel)
  obtain ⟨-, -, hties, -⟩ := sort_is_stable {} keys [tenAsDouble, missing, ten]
  obtain ⟨-, -, -, hany, -, hself⟩ := sort_is_stable {} keys [ten, missing]
  refine ⟨?_, hdistinct, hperm, hordered, (hany hdistinct _ hperm).trans (hself hordered)⟩
  have hcopy : sortOrder {} keys ten tenAsDouble = .eq := by decide +kernel
  have hmissing : sortOrder {} keys ten missing ≠ .eq := by decide +kernel
  rw [hties, tiedWith_cons_of_tie hcopy, tiedWith_cons_of_ne hmissing, tiedWith_cons_of_tie Std.ReflCmp.compare_self]
  rfl

end Document

end DocumentQuery
