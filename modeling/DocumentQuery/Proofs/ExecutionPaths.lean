import DocumentQuery.Proofs.StoreScan

/-! # The ways of executing a pipeline agree

A pipeline is executed over what an access hands out for its source: a scan of one collection, of all collections
with an id, of everything, or one look-up for every wanted key, with repeats.  An access is `Faithful` when all
of these are read off the list of its documents.  Then each of them shows the first copies of the admitted keys
(`DocumentAccess.Faithful.firstWith?_candidates`), which is all that a run sees, so that execution is a run over
that list (`DocumentAccess.Faithful.execute_eq`). -/

namespace DocumentQuery

namespace DocumentAccess

/-- The look-up and the scans of an access are read off the list of its documents. -/
structure Faithful (access : DocumentAccess) : Prop where
  get?_eq : ∀ key, access.get? key = Document.firstWith? key access.documents
  inCollection_eq : ∀ c, access.inCollection c = access.documents.filter fun d => d.key.IsChildOf c
  inGroup_eq : ∀ id, access.inGroup id = access.documents.filter fun d => d.collectionId? = some id

theorem faithful_ofList (ds : List Document) : (ofList ds).Faithful where
  get?_eq _ := rfl
  inCollection_eq _ := rfl
  inGroup_eq _ := rfl

theorem faithful_toAccess (s : Store) : s.toAccess.Faithful where
  get?_eq key := (s.firstWith?_documents key).symm
  inCollection_eq := s.inCollection_eq_filter
  inGroup_eq _ := rfl

namespace Faithful

variable {access : DocumentAccess}

/-- Looking up wanted keys one by one finds the documents of the wanted keys, however often a key is wanted. -/
theorem firstWith?_filterMap_get? (h : access.Faithful) (keys : List ResourcePath) {key : ResourcePath}
    (hkey : key ∈ keys) :
    Document.firstWith? key (keys.filterMap access.get?) = Document.firstWith? key access.documents := by
  induction keys with
  | nil => cases hkey
  | cons k keys ih =>
      rw [List.filterMap_cons, h.get?_eq]
      by_cases hk : k = key
      · subst hk
        cases hx : Document.firstWith? k access.documents with
        | some d =>
            rw [Document.firstWith?_cons, if_pos (Document.key_of_firstWith? hx)]
        | none =>
            -- No document has the key, and the look-ups of the other keys find none with it.
            rw [Document.firstWith?_eq_none_iff] at hx ⊢
            intro hmem
            obtain ⟨d, hd, hdk⟩ := List.mem_map.mp hmem
            obtain ⟨l, _, hl⟩ := List.mem_filterMap.mp hd
            rw [h.get?_eq] at hl
            exact hx (hdk ▸ List.mem_map_of_mem (Document.mem_of_firstWith? hl))
      · have hrest := ih ((List.mem_cons.mp hkey).resolve_left (Ne.symm hk))
        cases hx : Document.firstWith? k access.documents with
        | some d =>
            rw [Document.firstWith?_cons, if_neg fun he => hk ((Document.key_of_firstWith? hx).symm.trans he)]
            exact hrest
        | none => exact hrest

/-- Whatever the source, its documents show the first copies of the admitted keys. -/
theorem firstWith?_candidates (h : access.Faithful) (s : Source) {key : ResourcePath} (hkey : s.Admits key) :
    Document.firstWith? key (access.candidates s) = Document.firstWith? key access.documents := by
  cases s with
  | collection path =>
      show Document.firstWith? key (access.inCollection path) = _
      rw [h.inCollection_eq]
      have hfilter := Document.firstWith?_filter (fun k => k.IsChildOf path) key access.documents
      exact hfilter.trans (if_pos (decide_eq_true hkey))
  | collectionGroup id =>
      show Document.firstWith? key (access.inGroup id) = _
      rw [h.inGroup_eq]
      have hfilter := Document.firstWith?_filter (fun k => k.collectionId? = some id) key access.documents
      exact hfilter.trans (if_pos (decide_eq_true hkey))
  | database => rfl
  | documents keys => exact h.firstWith?_filterMap_get? keys hkey

/-- Execution over a faithful access is a run over its documents. -/
theorem execute_eq (h : access.Faithful) (limits : Limits) (p : Pipeline) :
    access.execute limits p = p.run limits access.documents :=
  p.run_congr limits fun _ hkey => h.firstWith?_candidates p.source hkey

end Faithful

/-- **The ways of executing a pipeline agree.**  Over a store filled in order, execution is a run over the
insertions in reverse, since the store keeps the last copy of a key and a run the first; over a list kept as it
is, execution is a run over the list. -/
theorem execute_store_and_list (limits : Limits) (p : Pipeline) (ds : List Document) :
    (Store.ofList ds).toAccess.execute limits p = p.run limits ds.reverse ∧
      (ofList ds).execute limits p = p.run limits ds := by
  refine ⟨?_, (faithful_ofList ds).execute_eq limits p⟩
  rw [(faithful_toAccess (Store.ofList ds)).execute_eq limits p]
  refine p.run_congr limits fun key _ => ?_
  exact ((Store.ofList ds).firstWith?_documents key).trans (Store.get?_ofList ds key)

end DocumentAccess

end DocumentQuery
