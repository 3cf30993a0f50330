import DocumentQuery.Proofs.FirstCopies
import DocumentQuery.Store

/-! # What a store shows

A store keeps the document that was inserted last under a key, so its look-up is the look-up of first copies in
the reversed list of insertions (`Store.get?_ofList`), and the list of its documents answers the same look-up
(`Store.firstWith?_documents`).

A collection is scanned as one stretch of the key order.  The stretch misses nothing because the paths below a
path stand together: what lies between a path and something below it is below it too
(`ResourcePath.isBelow_of_between`).  So the scan is a filter of all documents (`Store.inCollection_eq_filter`). -/

namespace DocumentQuery

/-! ### Paths below a path stand together -/

theorem prefix_of_between {α : Type} [Ord α] [Std.TransOrd α] [Std.LawfulEqOrd α] {xs ys zs : List α}
    (hxy : (compare xs ys).isLE) (hyz : (compare ys zs).isLE) (h : xs <+: zs) : xs <+: ys := by
  induction xs generalizing ys zs with
  | nil => exact List.nil_prefix
  | cons x xs ih =>
      obtain ⟨rest, rfl⟩ := h
      cases ys with
      | nil => cases hxy
      | cons y ys =>
          rw [List.cons_append] at hyz
          rw [List.compare_cons_cons, Ordering.isLE_then_iff_and] at hxy hyz
          have hyx : compare x y = .eq := Std.OrientedCmp.isLE_antisymm hxy.1 hyz.1
          obtain rfl := Std.LawfulEqOrd.eq_of_compare hyx
          simp only [Std.ReflOrd.compare_self, reduceCtorEq, false_or] at hxy hyz
          exact List.prefix_cons_inj x |>.mpr (ih hxy.2 hyz.2 (List.prefix_append xs rest))

namespace ResourcePath

theorem isBelow_of_between {c k l : ResourcePath} (hck : (compare c k).isLE) (hkl : (compare k l).isLE)
    (h : l.IsBelow c) : k.IsBelow c :=
  prefix_of_between hck hkl h

theorem isLE_of_isBelow {c k : ResourcePath} (h : k.IsBelow c) : (compare c k).isLE := by
  obtain ⟨rest, hrest⟩ := h
  show (compare c.segments k.segments).isLE
  rw [← hrest]
  induction c.segments with
  | nil => exact List.isLE_compare_nil_left
  | cons x xs ih =>
      rw [List.cons_append, List.compare_cons_cons, Std.ReflOrd.compare_self]
      exact ih

end ResourcePath

namespace Store

/-! ### Look-ups in a store -/

theorem firstWith?_values {entries : List (ResourcePath × Document)} (h : ∀ e ∈ entries, e.2.key = e.1)
    (key : ResourcePath) :
    Document.firstWith? key (entries.map Prod.snd) = Keyed.find? key entries := by
  induction entries with
  | nil => rfl
  | cons e rest ih =>
      obtain ⟨he, hrest⟩ := List.forall_mem_cons.mp h
      rw [List.map_cons, Document.firstWith?_cons, ih hrest, he, Keyed.find?]
      by_cases hk : e.1 = key
      · rw [if_pos hk, if_pos (hk ▸ Std.ReflOrd.compare_self)]
      · rw [if_neg hk, if_neg fun hc => hk (Std.LawfulEqOrd.eq_of_compare hc).symm]

/-- The list of all documents answers look-ups as the store does. -/
theorem firstWith?_documents (s : Store) (key : ResourcePath) :
    Document.firstWith? key s.documents = s.get? key :=
  firstWith?_values s.keyed key

theorem get?_insert (s : Store) (d : Document) (key : ResourcePath) :
    (s.insert d).get? key = if d.key = key then some d else s.get? key := by
  by_cases h : d.key = key
  · rw [if_pos h, ← h, get?_insert_self]
  · rw [if_neg h, get?_insert_of_ne s d (Ne.symm h)]

/-- Of the documents put into a store the last one with a key counts, and what was there before only if there
is none. -/
theorem get?_foldl_insert (ds : List Document) (s : Store) (key : ResourcePath) :
    (ds.foldl insert s).get? key = (Document.firstWith? key ds.reverse).or (s.get? key) := by
  induction ds generalizing s with
  | nil => rfl
  | cons d ds ih =>
      rw [List.foldl_cons, ih, get?_insert, List.reverse_cons, Document.firstWith?_append, Option.or_assoc,
        Document.firstWith?_cons]
      split_ifs <;> rfl

theorem get?_ofList (ds : List Document) (key : ResourcePath) :
    (ofList ds).get? key = Document.firstWith? key ds.reverse := by
  have hempty : empty.get? key = none := rfl
  unfold ofList
  rw [get?_foldl_insert, hempty, Option.or_none]

/-! ### The scan of a collection -/

/-- **The stretch of a collection holds all its documents**, in the order of the store. -/
theorem inCollection_eq_filter (s : Store) (c : ResourcePath) :
    s.inCollection c = s.documents.filter fun d => d.key.IsChildOf c := by
  have hdrop : (s.entries.dropWhile fun e => compare e.1 c = .lt) =
      s.entries.filter fun e => !decide (compare e.1 c = .lt) := by
    refine dropWhile_eq_filter (s.ascending.imp fun {a b} hab hb => ?_)
    simp only [decide_eq_true_eq] at hb ⊢
    exact Std.TransCmp.lt_trans hab hb
  have htake : ((s.entries.filter fun e => !decide (compare e.1 c = .lt)).takeWhile fun e => e.1.IsBelow c) =
      (s.entries.filter fun e => !decide (compare e.1 c = .lt)).filter fun e => e.1.IsBelow c := by
    refine takeWhile_eq_filter (List.pairwise_filter.mpr (s.ascending.imp fun {a b} hab ha _ hb => ?_))
    simp only [decide_eq_true_eq] at hb ⊢
    have hle : (compare c a.1).isLE := by
      rw [← Std.OrientedCmp.isGE_eq_isLE]
      cases h : compare a.1 c <;> simp_all
    exact ResourcePath.isBelow_of_between hle (Ordering.isLE_of_eq_lt hab) hb
  unfold inCollection documents
  dsimp only
  rw [hdrop, htake, List.filter_filter, List.filter_filter, List.filter_map]
  congr 1
  refine List.filter_congr fun e he => ?_
  have hkey := s.keyed e he
  -- A child is below the collection, and so not in front of it.
  by_cases hc : e.1.IsChildOf c
  · have hnot : compare e.1 c ≠ .lt :=
      fun hlt => Std.OrientedCmp.not_lt_of_isLE (ResourcePath.isLE_of_isBelow hc.2) hlt
    simp [hkey, hc, hc.2, hnot]
  · simp [hkey, hc]

end Store

end DocumentQuery
