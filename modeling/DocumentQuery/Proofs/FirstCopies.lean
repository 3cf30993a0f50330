import DocumentQuery.BuiltinEngine.Build
import DocumentQuery.Proofs.Sorting

/-! # First copies

What enters the steps of a pipeline is settled by one look-up: the first document with a key
(`Document.firstWith?`).  Admission, the sort by key and the removal of later copies together give the strictly
increasing list of the admitted first copies (`Pipeline.admitted_increasing`, `Pipeline.mem_admitted_iff`).
Two inputs that agree on the look-up of every admitted key are therefore the same input to every run
(`Pipeline.run_congr`). -/

namespace DocumentQuery

namespace Document

/-- The first document with a key. -/
def firstWith? (key : ResourcePath) (ds : List Document) : Option Document :=
  ds.find? fun d => d.key = key

@[simp] theorem firstWith?_nil (key : ResourcePath) : firstWith? key [] = none := rfl

theorem firstWith?_cons (key : ResourcePath) (d : Document) (ds : List Document) :
    firstWith? key (d :: ds) = if d.key = key then some d else firstWith? key ds := by
  unfold firstWith?
  by_cases h : d.key = key <;> simp [h]

theorem firstWith?_append (key : ResourcePath) (ds es : List Document) :
    firstWith? key (ds ++ es) = (firstWith? key ds).or (firstWith? key es) :=
  List.find?_append

theorem key_of_firstWith? {key : ResourcePath} {ds : List Document} {d : Document}
    (h : firstWith? key ds = some d) : d.key = key := by
  simpa using List.find?_some h

theorem mem_of_firstWith? {key : ResourcePath} {ds : List Document} {d : Document}
    (h : firstWith? key ds = some d) : d ∈ ds :=
  List.mem_of_find?_eq_some h

theorem firstWith?_eq_none_iff {key : ResourcePath} {ds : List Document} :
    firstWith? key ds = none ↔ key ∉ ds.map Document.key := by
  simp [firstWith?]

/-- Where keys are distinct, every document is the first with its key. -/
theorem firstWith?_of_mem {ds : List Document} (h : (ds.map Document.key).Nodup) {d : Document} (hd : d ∈ ds) :
    firstWith? d.key ds = some d := by
  induction ds with
  | nil => cases hd
  | cons e ds ih =>
      obtain ⟨hnot, hrest⟩ := List.nodup_cons.mp h
      rw [firstWith?_cons]
      rcases List.mem_cons.mp hd with rfl | hd
      · rw [if_pos rfl]
      · rw [if_neg, ih hrest hd]
        intro he
        exact hnot (he ▸ List.mem_map_of_mem hd)

/-- Where keys are distinct, the order does not matter to the look-up. -/
theorem firstWith?_perm {ds es : List Document} (h : ds.Perm es) (hd : (ds.map Document.key).Nodup)
    (key : ResourcePath) : firstWith? key ds = firstWith? key es := by
  have he : (es.map Document.key).Nodup := (h.map Document.key).nodup_iff.mp hd
  cases hx : firstWith? key ds with
  | none =>
      rw [firstWith?_eq_none_iff] at hx
      refine (firstWith?_eq_none_iff.mpr fun hmem => hx ?_).symm
      exact (h.map Document.key).mem_iff.mpr hmem
  | some d =>
      rw [← key_of_firstWith? hx]
      exact (firstWith?_of_mem he (h.mem_iff.mp (mem_of_firstWith? hx))).symm

/-! ### What the look-up sees of a list -/

theorem firstWith?_filter (p : ResourcePath → Bool) (key : ResourcePath) (ds : List Document) :
    firstWith? key (ds.filter fun d => p d.key) = if p key then firstWith? key ds else none := by
  unfold firstWith?
  rw [List.find?_filter]
  by_cases hp : p key
  · rw [if_pos hp]
    congr 1
    funext d
    by_cases hd : d.key = key <;> simp [hd, hp]
  · rw [if_neg hp, List.find?_eq_none]
    intro d _
    by_cases hd : d.key = key <;> simp [hd, hp]

/-- The sort by key is stable: it leaves the documents of one key as they were. -/
theorem filter_sortedByKey (key : ResourcePath) (ds : List Document) :
    ((sortedByKey ds).filter fun d => d.key = key) = ds.filter fun d => d.key = key := by
  have hperm : (sortedByKey ds).Perm ds := List.mergeSort_perm ds _
  have hsub : (ds.filter fun d => d.key = key).Sublist (sortedByKey ds) := by
    apply List.sublist_mergeSort
    · intro a b c hab hbc
      exact Std.TransOrd.isLE_trans hab hbc
    · intro a b
      exact isLE_or_isLE a.key b.key
    · refine List.pairwise_of_forall_mem_list fun a ha b hb => ?_
      have hak : a.key = key := by simpa using (List.mem_filter.mp ha).2
      have hbk : b.key = key := by simpa using (List.mem_filter.mp hb).2
      rw [hak, hbk]
      exact Std.ReflOrd.isLE_rfl
    · exact List.filter_sublist
  have hsub' := hsub.filter fun d => d.key = key
  rw [List.filter_filter] at hsub'
  simp only [Bool.and_self] at hsub'
  exact (hsub'.eq_of_length (hperm.filter _).length_eq.symm).symm

theorem firstWith?_sortedByKey (key : ResourcePath) (ds : List Document) :
    firstWith? key (sortedByKey ds) = firstWith? key ds := by
  unfold firstWith?
  rw [← List.head?_filter, ← List.head?_filter, filter_sortedByKey]

theorem firstOfRuns_cons (d : Document) (rest : List Document) :
    firstOfRuns (d :: rest) = match firstOfRuns rest with
      | [] => [d]
      | e :: es => if d.key = e.key then d :: es else d :: e :: es :=
  rfl

/-- A document that is removed stands behind one with its key. -/
theorem firstWith?_firstOfRuns (key : ResourcePath) (ds : List Document) :
    firstWith? key (firstOfRuns ds) = firstWith? key ds := by
  induction ds with
  | nil => rfl
  | cons d rest ih =>
      rw [firstWith?_cons, ← ih, firstOfRuns_cons]
      cases firstOfRuns rest with
      | nil => exact firstWith?_cons key d []
      | cons e es =>
          dsimp only
          by_cases hde : d.key = e.key
          · rw [if_pos hde, firstWith?_cons key d, firstWith?_cons key e, ← hde]
            split_ifs <;> rfl
          · rw [if_neg hde, firstWith?_cons key d]

theorem mem_of_mem_firstOfRuns {ds : List Document} {d : Document} (h : d ∈ firstOfRuns ds) : d ∈ ds := by
  induction ds with
  | nil => exact h
  | cons e rest ih =>
      rw [firstOfRuns_cons] at h
      cases hr : firstOfRuns rest with
      | nil =>
          rw [hr] at h
          rw [List.mem_singleton.mp h]
          exact List.mem_cons_self
      | cons f fs =>
          rw [hr] at h ih
          have hmem : d = e ∨ d ∈ f :: fs := by
            dsimp only at h
            split_ifs at h
            · exact (List.mem_cons.mp h).imp id (List.mem_cons_of_mem f)
            · exact List.mem_cons.mp h
          rcases hmem with rfl | hd
          · exact List.mem_cons_self
          · exact List.mem_cons_of_mem e (ih hd)

/-- In key order, one document of every run makes the keys strictly increasing. -/
theorem firstOfRuns_increasing {ds : List Document}
    (h : ds.Pairwise fun a b => (compareOn Document.key a b).isLE) :
    (firstOfRuns ds).Pairwise fun a b => compareOn Document.key a b = .lt := by
  induction ds with
  | nil => exact List.Pairwise.nil
  | cons d rest ih =>
      obtain ⟨hhead, hrest⟩ := List.pairwise_cons.mp h
      have hinc := ih hrest
      rw [firstOfRuns_cons]
      cases hr : firstOfRuns rest with
      | nil => exact List.pairwise_singleton _ d
      | cons e es =>
          rw [hr] at hinc
          obtain ⟨he, hes⟩ := List.pairwise_cons.mp hinc
          have hle : (compareOn Document.key d e).isLE :=
            hhead e (mem_of_mem_firstOfRuns (hr ▸ List.mem_cons_self))
          have hlt : ∀ x ∈ es, compareOn Document.key d x = .lt := fun x hx =>
            Std.TransCmp.lt_of_isLE_of_lt hle (he x hx)
          dsimp only
          split_ifs with hde
          · exact List.pairwise_cons.mpr ⟨hlt, hes⟩
          · have hne : compareOn Document.key d e ≠ .eq := fun heq =>
              hde (Std.LawfulEqOrd.eq_of_compare heq)
            have hde' : compareOn Document.key d e = .lt := by
              rcases Ordering.isLE_iff_eq_lt_or_eq_eq.mp hle with h | h
              · exact h
              · exact absurd h hne
            refine List.pairwise_cons.mpr ⟨fun x hx => ?_, hinc⟩
            rcases List.mem_cons.mp hx with rfl | hx
            · exact hde'
            · exact hlt x hx

theorem keys_nodup_of_increasing {ds : List Document}
    (h : ds.Pairwise fun a b => compareOn Document.key a b = .lt) : (ds.map Document.key).Nodup := by
  have hkeys : (ds.map Document.key).Pairwise fun k l => Ord.compare k l = .lt := List.pairwise_map.mpr h
  exact nodup_of_increasing hkeys

end Document

namespace Pipeline

variable {s : Source}

/-! ### Admission -/

/-- The admitted documents are in strict key order. -/
theorem admitted_increasing (s : Source) (ds : List Document) :
    (admitted s ds).Pairwise fun a b => compareOn Document.key a b = .lt :=
  Document.firstOfRuns_increasing (mergeSort_pairwise_isLE _)

theorem firstWith?_admitted (s : Source) (ds : List Document) (key : ResourcePath) :
    Document.firstWith? key (admitted s ds) = if s.Admits key then Document.firstWith? key ds else none := by
  unfold admitted
  rw [Document.firstWith?_firstOfRuns, Document.firstWith?_sortedByKey,
    Document.firstWith?_filter fun k => s.Admits k]
  simp

/-- **The admitted documents are the first copies of the admitted keys.** -/
theorem mem_admitted_iff {ds : List Document} {d : Document} :
    d ∈ admitted s ds ↔ s.Admits d.key ∧ Document.firstWith? d.key ds = some d := by
  have hlook := firstWith?_admitted s ds d.key
  constructor
  · intro h
    rw [Document.firstWith?_of_mem (Document.keys_nodup_of_increasing (admitted_increasing s ds)) h] at hlook
    split_ifs at hlook with ha
    exact ⟨ha, hlook.symm⟩
  · rintro ⟨ha, hd⟩
    rw [if_pos ha, hd] at hlook
    exact Document.mem_of_firstWith? hlook

/-- Documents that are all admitted and stand in strict key order enter as they are. -/
theorem admitted_eq_self {ds : List Document} (hs : ∀ d ∈ ds, s.Admits d.key)
    (h : ds.Pairwise fun a b => compareOn Document.key a b = .lt) : admitted s ds = ds := by
  refine eq_of_increasing (admitted_increasing s ds) h fun d => ?_
  rw [mem_admitted_iff]
  constructor
  · rintro ⟨-, hd⟩
    exact Document.mem_of_firstWith? hd
  · intro hd
    exact ⟨hs d hd, Document.firstWith?_of_mem (Document.keys_nodup_of_increasing h) hd⟩

/-- Admission sees of a list only the first copies of the admitted keys. -/
theorem admitted_congr {ds es : List Document}
    (h : ∀ key, s.Admits key → Document.firstWith? key ds = Document.firstWith? key es) :
    admitted s ds = admitted s es := by
  refine eq_of_increasing (admitted_increasing s ds) (admitted_increasing s es) fun d => ?_
  rw [mem_admitted_iff, mem_admitted_iff]
  constructor
  · rintro ⟨ha, hd⟩
    exact ⟨ha, h d.key ha ▸ hd⟩
  · rintro ⟨ha, hd⟩
    exact ⟨ha, (h d.key ha).trans hd⟩

/-- Inputs that agree on the first copies of the admitted keys give the same run. -/
theorem run_congr (limits : Limits) (p : Pipeline) {ds es : List Document}
    (h : ∀ key, p.source.Admits key → Document.firstWith? key ds = Document.firstWith? key es) :
    p.run limits ds = p.run limits es := by
  unfold run
  rw [admitted_congr h]

/-! ### Order and surplus of the input -/

theorem firstWith?_surplus {s : Source} {ds extra : List Document} (es : List Document)
    (h : ∀ d ∈ extra, d.key ∈ ds.map Document.key ∨ ¬ s.Admits d.key) {key : ResourcePath}
    (hkey : s.Admits key) :
    Document.firstWith? key (ds ++ extra ++ es) = Document.firstWith? key (ds ++ es) := by
  simp only [Document.firstWith?_append]
  cases hx : Document.firstWith? key ds with
  | some d => rfl
  | none =>
      have hextra : Document.firstWith? key extra = none := by
        rw [Document.firstWith?_eq_none_iff] at hx ⊢
        intro hmem
        obtain ⟨d, hd, rfl⟩ := List.mem_map.mp hmem
        rcases h d hd with hin | hnot
        · exact hx hin
        · exact hnot hkey
      rw [hextra]
      rfl

/-- **The order and the surplus of the input never show.**  A run depends on the first copies of the admitted
keys alone: documents with distinct keys may stand in any order, and later copies of a key and documents that
the source does not admit may be put in anywhere. -/
theorem run_ignores_order_and_surplus (limits : Limits) (p : Pipeline) :
    (∀ ds es : List Document,
      (∀ key, p.source.Admits key → Document.firstWith? key ds = Document.firstWith? key es) →
        p.run limits ds = p.run limits es) ∧
    (∀ ds es : List Document, ds.Perm es → (ds.map Document.key).Nodup →
        p.run limits ds = p.run limits es) ∧
    ∀ ds extra es : List Document,
      (∀ d ∈ extra, d.key ∈ ds.map Document.key ∨ ¬ p.source.Admits d.key) →
        p.run limits (ds ++ extra ++ es) = p.run limits (ds ++ es) :=
  ⟨fun _ _ h => run_congr limits p h,
    fun _ _ h hd => run_congr limits p fun key _ => Document.firstWith?_perm h hd key,
    fun _ _ es h => run_congr limits p fun _ hkey => firstWith?_surplus es h hkey⟩

/-- A limit of one cuts both lists at `c/a`, whatever stands in front of its first copy. -/
theorem run_ignores_order_and_surplus_under_limit :
    (∀ key, (Source.collection ⟨["c"]⟩).Admits key →
      Document.firstWith? key [⟨⟨["c", "b"]⟩, [], none⟩, ⟨⟨["c", "a"]⟩, [("v", .null)], none⟩,
          ⟨⟨["c", "a"]⟩, [], none⟩] =
        Document.firstWith? key [⟨⟨["x", "a"]⟩, [], none⟩, ⟨⟨["c", "a"]⟩, [("v", .null)], none⟩,
          ⟨⟨["c", "b"]⟩, [], none⟩]) ∧
    run {} ⟨.collection ⟨["c"]⟩, [.limit 1]⟩ [⟨⟨["c", "b"]⟩, [], none⟩,
        ⟨⟨["c", "a"]⟩, [("v", .null)], none⟩, ⟨⟨["c", "a"]⟩, [], none⟩] =
      run {} ⟨.collection ⟨["c"]⟩, [.limit 1]⟩ [⟨⟨["x", "a"]⟩, [], none⟩,
        ⟨⟨["c", "a"]⟩, [("v", .null)], none⟩, ⟨⟨["c", "b"]⟩, [], none⟩] := by
  have hlook : ∀ key, (Source.collection ⟨["c"]⟩).Admits key →
      Document.firstWith? key [⟨⟨["c", "b"]⟩, [], none⟩, ⟨⟨["c", "a"]⟩, [("v", .null)], none⟩,
          ⟨⟨["c", "a"]⟩, [], none⟩] =
        Document.firstWith? key [⟨⟨["x", "a"]⟩, [], none⟩, ⟨⟨["c", "a"]⟩, [("v", .null)], none⟩,
          ⟨⟨["c", "b"]⟩, [], none⟩] := by
    intro key hkey
    have hx : (⟨["x", "a"]⟩ : ResourcePath) ≠ key := by
      rintro rfl
      exact absurd hkey (by decide)
    simp only [Document.firstWith?_cons, Document.firstWith?_nil, if_neg hx]
    by_cases hb : (⟨["c", "b"]⟩ : ResourcePath) = key
    · subst hb
      simp
    · simp only [if_neg hb]
      split_ifs <;> rfl
  exact ⟨hlook, (run_ignores_order_and_surplus {} ⟨.collection ⟨["c"]⟩, [.limit 1]⟩).1 _ _ hlook⟩

end Pipeline

end DocumentQuery
