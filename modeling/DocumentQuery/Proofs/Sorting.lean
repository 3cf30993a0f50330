import DocumentQuery.Pipeline.Run
import DocumentQuery.Proofs.ValueOrder

/-! # Sorting documents

A sort goes by the order `Document.sortOrder`: the outcomes of the sort keys first, each in its direction, then
the document key.  It is a total preorder, so a sort never goes down (`Document.sorted_nondecreasing`).  Only documents
with one key tie (`Document.key_eq_of_sortOrder_eq`), so the sort of documents with distinct keys is strictly increasing
(`Document.sorted_increasing`), and since a strictly increasing list is determined by its elements
(`eq_of_increasing`), it does not depend on the order of the input (`Document.sorted_congr`). -/

namespace DocumentQuery

/-! ### Increasing lists -/

section increasing

variable {α : Type} {cmp : α → α → Ordering} [Std.TransCmp cmp]

theorem isLE_or_isLE (a b : α) : (cmp a b).isLE || (cmp b a).isLE := by
  have hswap : cmp b a = (cmp a b).swap := Std.OrientedCmp.eq_swap
  rw [hswap]
  cases cmp a b <;> rfl

theorem mergeSort_pairwise_isLE (l : List α) :
    (l.mergeSort fun a b => (cmp a b).isLE).Pairwise fun a b => (cmp a b).isLE := by
  apply List.pairwise_mergeSort
  · intro a b c hab hbc
    exact Std.TransCmp.isLE_trans hab hbc
  · exact isLE_or_isLE

theorem nodup_of_increasing {l : List α} (h : l.Pairwise fun a b => cmp a b = .lt) : l.Nodup := by
  refine h.imp fun {a b} hab he => ?_
  have hself : cmp b b = .eq := Std.ReflCmp.compare_self
  rw [he, hself] at hab
  cases hab

/-- A strictly increasing list is determined by its elements. -/
theorem eq_of_increasing {l₁ l₂ : List α} (h₁ : l₁.Pairwise fun a b => cmp a b = .lt)
    (h₂ : l₂.Pairwise fun a b => cmp a b = .lt) (h : ∀ a, a ∈ l₁ ↔ a ∈ l₂) : l₁ = l₂ := by
  have hperm : l₁.Perm l₂ := (List.perm_ext_iff_of_nodup (nodup_of_increasing h₁) (nodup_of_increasing h₂)).mpr h
  refine hperm.eq_of_pairwise (fun a b _ _ hab hba => ?_) h₁ h₂
  exact absurd hba (Std.OrientedCmp.not_lt_of_lt hab)

end increasing

/-! ### Stretches of a list -/

section stretch

variable {α : Type} {p : α → Bool}

/-- A property that holds on a first stretch and nowhere later is read off that stretch. -/
theorem takeWhile_eq_filter {l : List α} (h : l.Pairwise fun a b => p b → p a) : l.takeWhile p = l.filter p := by
  induction l with
  | nil => rfl
  | cons a l ih =>
      obtain ⟨hhead, htail⟩ := List.pairwise_cons.mp h
      by_cases ha : p a
      · rw [List.takeWhile_cons_of_pos ha, List.filter_cons_of_pos ha, ih htail]
      · rw [List.takeWhile_cons_of_neg ha, List.filter_cons_of_neg ha]
        exact (List.filter_eq_nil_iff.mpr fun b hb hpb => ha (hhead b hb hpb)).symm

/-- What is left behind that stretch is where the property fails. -/
theorem dropWhile_eq_filter {l : List α} (h : l.Pairwise fun a b => p b → p a) :
    l.dropWhile p = l.filter fun a => !p a := by
  induction l with
  | nil => rfl
  | cons a l ih =>
      obtain ⟨hhead, htail⟩ := List.pairwise_cons.mp h
      by_cases ha : p a
      · rw [List.dropWhile_cons_of_pos ha, List.filter_cons_of_neg (by simpa using ha), ih htail]
      · have hnone : ∀ b ∈ l, !p b := fun b hb => by simpa using fun hpb => ha (hhead b hb hpb)
        rw [List.dropWhile_cons_of_neg ha, List.filter_cons_of_pos (by simpa using ha),
          List.filter_eq_self.mpr hnone]

end stretch

/-- Elements compared through a view of them. -/
theorem transCmp_comap {α β : Type} (f : α → β) {cmp : β → β → Ordering} [Std.TransCmp cmp] :
    Std.TransCmp fun a b => cmp (f a) (f b) where
  eq_swap := Std.OrientedCmp.eq_swap (α := β)
  isLE_trans := Std.TransCmp.isLE_trans (α := β)

instance (direction : Direction) : Std.TransCmp direction.compare :=
  match direction with
  | .ascending => inferInstanceAs (Std.TransCmp Outcome.compare)
  | .descending => inferInstanceAs (Std.TransCmp fun a b => Outcome.compare b a)

namespace Document

/-! ### The order of a sort -/

/-- The order of two documents by the outcomes of the sort keys alone. -/
def outcomeOrder (limits : Limits) (keys : List SortKey) (a b : Document) : Ordering :=
  compareTuples keys (SortKey.outcomes limits keys a) (SortKey.outcomes limits keys b)

/-- The order in which a sort puts two documents. -/
def sortOrder (limits : Limits) (keys : List SortKey) (a b : Document) : Ordering :=
  compareBy keys (SortKey.outcomes limits keys a, a) (SortKey.outcomes limits keys b, b)

variable (limits : Limits) (keys : List SortKey)

theorem transCmp_outcomeOrder : Std.TransCmp (outcomeOrder limits keys) := by
  induction keys with
  | nil => exact { eq_swap := rfl, isLE_trans := fun _ _ => rfl }
  | cons key keys ih =>
      have hfirst : Std.TransCmp fun a b => key.direction.compare (key.expression.evaluate limits a)
          (key.expression.evaluate limits b) := transCmp_comap fun d => key.expression.evaluate limits d
      exact inferInstanceAs (Std.TransCmp (compareLex _ (outcomeOrder limits keys)))

instance : Std.TransCmp (sortOrder limits keys) :=
  have := transCmp_outcomeOrder limits keys
  inferInstanceAs (Std.TransCmp (compareLex (outcomeOrder limits keys) (compareOn key)))

variable {limits keys}

/-- Only documents with one key tie. -/
theorem key_eq_of_sortOrder_eq {a b : Document} (h : sortOrder limits keys a b = .eq) : a.key = b.key :=
  Std.LawfulEqOrd.eq_of_compare (Ordering.then_eq_eq.mp h).2

variable (limits keys)

/-! ### What a sort gives -/

theorem sorted_eq_mergeSort (ds : List Document) :
    sorted limits keys ds = ds.mergeSort fun a b => (sortOrder limits keys a b).isLE := by
  unfold sorted
  dsimp only
  rw [← List.map_mergeSort (r := fun a b => (sortOrder limits keys a b).isLE) (fun _ _ _ _ => rfl),
    List.map_map]
  exact List.map_id _

theorem sorted_perm (ds : List Document) : (sorted limits keys ds).Perm ds := by
  rw [sorted_eq_mergeSort]
  exact List.mergeSort_perm ds _

/-- The sort never goes down, whatever keys the documents have. -/
theorem sorted_nondecreasing (ds : List Document) :
    (sorted limits keys ds).Pairwise fun a b => (sortOrder limits keys a b).isLE := by
  rw [sorted_eq_mergeSort]
  exact mergeSort_pairwise_isLE ds

variable {ds es : List Document}

/-- The sort of documents with distinct keys is strictly increasing: no two of them tie. -/
theorem sorted_increasing (h : (ds.map key).Nodup) :
    (sorted limits keys ds).Pairwise fun a b => sortOrder limits keys a b = .lt := by
  have hle := sorted_nondecreasing limits keys ds
  have hne : (sorted limits keys ds).Pairwise fun a b => a.key ≠ b.key :=
    List.pairwise_map.mp (((sorted_perm limits keys ds).map key).nodup_iff.mpr h)
  refine (hle.and hne).imp fun {a b} hab => ?_
  cases ho : sortOrder limits keys a b with
  | lt => rfl
  | eq => exact absurd (key_eq_of_sortOrder_eq ho) hab.2
  | gt => rw [ho] at hab; cases hab.1

/-- A sort sees which documents there are, and not their order. -/
theorem sorted_congr (hds : (ds.map key).Nodup) (h : ds.Perm es) :
    sorted limits keys ds = sorted limits keys es := by
  have hes : (es.map key).Nodup := (h.map key).nodup_iff.mp hds
  refine eq_of_increasing (sorted_increasing limits keys hds) (sorted_increasing limits keys hes) fun d => ?_
  rw [(sorted_perm limits keys ds).mem_iff, (sorted_perm limits keys es).mem_iff, h.mem_iff]

end Document

end DocumentQuery
