import DocumentQuery.Json.DocumentForm
import DocumentQuery.Proofs.StoreScan
import Mathlib.Data.Finset.Card

/-! # The history of a store

A store is changed by three calls: a document is inserted, a document is built from a path and plain data and
inserted, or the document of a key is removed (`Store.Change`).  One call updates the finite map at the key that it is
about (`Store.get?_apply`).  By induction on the calls a key holds the document that was put there last, unless it
was removed since (`Store.get?_after_eq_some_iff`).

The rest is read off the look-up in any store: the documents in key order are those that the look-ups give, each under
its own key (`Store.get?_eq_some_iff_mem`), and the size counts the keys that hold one (`Store.size_eq_card`).  The scan
of a collection gives those that stand directly in it (`Store.collection_scan_misses_nothing`). -/

namespace DocumentQuery

/-! ### Documents of plain data -/

theorem ResourcePath.isDocumentKey_of_parseDocument? {text : String} {key : ResourcePath}
    (h : parseDocument? text = some key) : key.IsDocumentKey := by
  unfold parseDocument? at h
  rw [Option.filter_eq_some_iff] at h
  exact of_decide_eq_true h.2

namespace Document

theorem ofValue_of_kind_ne (key : ResourcePath) {v : Value} (h : v.kind ≠ .map) :
    ofValue key v = .error (.unsupportedData v.kind) := by
  cases v with
  | map fields => exact absurd rfl h
  | _ => rfl

/-- What a path and plain data give: the path must name a document, and the data must be an object. -/
theorem ofJson_eq (path : String) (data : Json) :
    ofJson path data =
      match ResourcePath.parseDocument? path, data with
      | none, _ => .error (.invalidDocumentPath path)
      | some key, .object fields => .ok ⟨key, Value.ofJsonFields fields, none⟩
      | some _, other => .error (.unsupportedData (Value.ofJson other).kind) := by
  unfold ofJson ResourcePath.documentOfText
  cases hpath : ResourcePath.parseDocument? path with
  | none => rfl
  | some key =>
      have hparts (fields : Record) : ofParts? key fields none = some ⟨key, fields, none⟩ :=
        if_pos (ResourcePath.isDocumentKey_of_parseDocument? hpath)
      show ofValue key (Value.ofJson data) = _
      cases data with
      | object fields =>
          rw [Value.ofJson, ofValue, ofParts, hparts]
          rfl
      | number n =>
          have hkind : (Value.ofJson (.number n)).kind ≠ .map := by
            rw [Value.ofJson, Value.ofJsonNumber]
            cases n.toInt64? <;> exact fun h => by cases h
          exact ofValue_of_kind_ne key hkind
      | _ => rfl

end Document

namespace Store

/-! ### The look-up and what is read off it -/

theorem get?_erase (s : Store) (key other : ResourcePath) :
    (s.erase key).get? other = if other = key then none else s.get? other := by
  by_cases h : other = key
  · rw [if_pos h, h, get?_erase_self]
  · rw [if_neg h, get?_erase_of_ne s h]

/-- The documents stand in strict key order. -/
theorem documents_increasing (s : Store) :
    s.documents.Pairwise fun a b => compareOn Document.key a b = .lt := by
  refine List.pairwise_map.mpr ((List.Pairwise.and_mem.mp s.ascending).imp fun {a b} hab => ?_)
  obtain ⟨ha, hb, hlt⟩ := hab
  show compare a.2.key b.2.key = .lt
  rw [s.keyed a ha, s.keyed b hb, hlt]

theorem keys_nodup (s : Store) : (s.documents.map Document.key).Nodup :=
  Document.keys_nodup_of_increasing s.documents_increasing

/-- The documents are those that the look-ups give, and each stands under its own key. -/
theorem get?_eq_some_iff_mem (s : Store) (key : ResourcePath) (d : Document) :
    s.get? key = some d ↔ d ∈ s.documents ∧ d.key = key := by
  rw [← s.firstWith?_documents key]
  constructor
  · intro h
    exact ⟨Document.mem_of_firstWith? h, Document.key_of_firstWith? h⟩
  · rintro ⟨hd, rfl⟩
    exact Document.firstWith?_of_mem s.keys_nodup hd

/-- The keys that hold a document. -/
def keys (s : Store) : Finset ResourcePath := (s.documents.map Document.key).toFinset

theorem mem_keys_iff (s : Store) (key : ResourcePath) : key ∈ s.keys ↔ s.get? key ≠ none := by
  have hnone : s.get? key = none ↔ key ∉ s.documents.map Document.key := by
    rw [← s.firstWith?_documents key]
    exact Document.firstWith?_eq_none_iff
  unfold keys
  rw [List.mem_toFinset, ne_eq, hnone, not_not]

theorem size_eq_card (s : Store) : s.size = s.keys.card := by
  have hlength : s.size = (s.documents.map Document.key).length := by
    unfold size documents
    rw [List.length_map, List.length_map]
  unfold keys
  rw [hlength, List.toFinset_card_of_nodup s.keys_nodup]

/-! ### The scan of a collection -/

/-- Access to the same documents with every scan left to go through all of them. -/
def toFullScan (s : Store) : DocumentAccess where
  documents := s.documents
  get? := s.get?

/-- **The scan of a collection misses nothing.**  For any path the stretch of the key order gives what going through all
documents gives, in the same order: the documents that the look-ups give one level below the path, in strict key
order. -/
theorem collection_scan_misses_nothing (s : Store) (c : ResourcePath) :
    s.toAccess.inCollection c = s.toFullScan.inCollection c ∧
      ((s.toAccess.inCollection c).Pairwise fun a b => compare a.key b.key = .lt) ∧
      ∀ d, d ∈ s.toAccess.inCollection c ↔ s.get? d.key = some d ∧ d.key.IsChildOf c := by
  have hscan : s.toAccess.inCollection c = s.documents.filter fun d => d.key.IsChildOf c :=
    s.inCollection_eq_filter c
  refine ⟨hscan, ?_, fun d => ?_⟩
  · rw [hscan]
    exact s.documents_increasing.filter _
  · rw [hscan, List.mem_filter, decide_eq_true_iff, get?_eq_some_iff_mem, and_iff_left (rfl : d.key = d.key)]

/-! ### One call -/

/-- Inserts the document that a path and plain data give, if they give one. -/
def insertJson (s : Store) (path : String) (data : Json) : Except BuildError Unit × Store :=
  match Document.ofJson path data with
  | .ok d => (.ok (), s.insert d)
  | .error e => (.error e, s)

/-- The calls that may change a store. -/
inductive Change where
  | insert (d : Document)
  | insertJson (path : String) (data : Json)
  | remove (key : ResourcePath)

/-- The store behind a call. -/
def apply (s : Store) : Change → Store
  | .insert d => s.insert d
  | .insertJson path data => (s.insertJson path data).2
  | .remove key => (s.remove key).2

/-- The document that a call puts into the store. -/
def Change.document? : Change → Option Document
  | .insert d => some d
  | .insertJson path data => (Document.ofJson path data).toOption
  | .remove _ => none

/-- The key that a call is about.  Plain data that gives no document is about none. -/
def Change.key? : Change → Option ResourcePath
  | .remove key => some key
  | c => c.document?.map Document.key

/-- **One call**: the key that the call is about holds what the call puts there, and any other what it held before. -/
theorem get?_apply (s : Store) (c : Change) (key : ResourcePath) :
    (s.apply c).get? key = if c.key? = some key then c.document? else s.get? key := by
  have hinsert (d : Document) :
      (s.insert d).get? key = if some d.key = some key then some d else s.get? key := by
    rw [get?_insert]
    simp only [Option.some_inj]
  cases c with
  | insert d => exact hinsert d
  | insertJson path data =>
      have happly : s.apply (.insertJson path data) = (s.insertJson path data).2 := rfl
      have hkey : (Change.insertJson path data).key? = (Document.ofJson path data).toOption.map Document.key := rfl
      rw [happly, hkey, Change.document?]
      unfold insertJson
      cases Document.ofJson path data with
      | ok d => exact hinsert d
      | error e =>
          have hnone : (none : Option ResourcePath) ≠ some key := fun h => by cases h
          exact (if_neg hnone).symm
  | remove k =>
      have happly : s.apply (.remove k) = s.erase k := rfl
      have hkey : (Change.remove k).key? = some k := rfl
      rw [happly, hkey, get?_erase, Change.document?]
      simp only [Option.some_inj, eq_comm]

/-! ### All calls -/

/-- The store after the calls, from the empty store on. -/
def after (cs : List Change) : Store := cs.foldl apply empty

theorem after_concat (cs : List Change) (c : Change) : after (cs ++ [c]) = (after cs).apply c := by
  unfold after
  rw [List.foldl_append, List.foldl_cons, List.foldl_nil]

/-- One of the calls put the document under the key, and no later one was about the key. -/
def LastPut (cs : List Change) (key : ResourcePath) (d : Document) : Prop :=
  ∃ before c later, cs = before ++ c :: later ∧ c.key? = some key ∧ c.document? = some d ∧
    ∀ c' ∈ later, c'.key? ≠ some key

theorem lastPut_concat_iff (cs : List Change) (c : Change) (key : ResourcePath) (d : Document) :
    LastPut (cs ++ [c]) key d ↔ if c.key? = some key then c.document? = some d else LastPut cs key d := by
  constructor
  · rintro ⟨before, c', later, hcs, hkey, hput, hlater⟩
    rcases List.eq_nil_or_concat' later with rfl | ⟨later', last, rfl⟩
    · -- The put is the call at the end.
      obtain ⟨-, hc⟩ := List.append_inj' hcs rfl
      obtain rfl := List.singleton_inj.mp hc
      rw [if_pos hkey]
      exact hput
    · rw [← List.cons_append, ← List.append_assoc] at hcs
      obtain ⟨hbefore, hc⟩ := List.append_inj' hcs rfl
      obtain rfl := List.singleton_inj.mp hc
      have hlast : c.key? ≠ some key := hlater c (List.mem_append_right later' List.mem_cons_self)
      rw [if_neg hlast]
      exact ⟨before, c', later', hbefore, hkey, hput,
        fun c'' hc'' => hlater c'' (List.mem_append_left [c] hc'')⟩
  · intro h
    split_ifs at h with hkey
    · exact ⟨cs, c, [], rfl, hkey, h, fun _ hnil => absurd hnil List.not_mem_nil⟩
    · obtain ⟨before, c', later, rfl, hkey', hput, hlater⟩ := h
      refine ⟨before, c', later ++ [c], by rw [List.append_assoc, List.cons_append], hkey', hput, ?_⟩
      intro c'' hc''
      rcases List.mem_append.mp hc'' with hc | hc
      · exact hlater c'' hc
      · rw [List.mem_singleton.mp hc]
        exact hkey

/-- A key holds the document that was put there last, unless a later call was about the key. -/
theorem get?_after_eq_some_iff (cs : List Change) (key : ResourcePath) (d : Document) :
    (after cs).get? key = some d ↔ LastPut cs key d := by
  induction cs using List.reverseRecOn with
  | nil =>
      have hnone : (after []).get? key = none := rfl
      rw [hnone]
      constructor
      · intro h
        cases h
      · rintro ⟨before, c, later, h, -⟩
        exact absurd h.symm (List.append_ne_nil_of_right_ne_nil before (List.cons_ne_nil c later))
  | append_singleton cs c ih =>
      rw [after_concat, get?_apply, lastPut_concat_iff, ← ih]
      split_ifs <;> rfl

/-- **A store is a finite map.**  After any calls, a key holds the document that was put there last and not removed
since; a removal answers with what the key held and leaves the other keys as they were; the size counts the keys that
hold a document; the scan lists the documents that the look-ups give, in strict key order and each under its own key;
and an insertion of plain data changes nothing unless the path names a document and the data is an object. -/
theorem finite_map_after_calls (cs : List Change) :
    (∀ key d, (after cs).get? key = some d ↔ LastPut cs key d) ∧
    (∀ key other, ((after cs).remove key).1 = (after cs).get? key ∧
      ((after cs).remove key).2.get? other = if other = key then none else (after cs).get? other) ∧
    (∃ keys : Finset ResourcePath, (∀ key, key ∈ keys ↔ (after cs).get? key ≠ none) ∧
      (after cs).size = keys.card) ∧
    ((after cs).documents.Pairwise fun a b => compare a.key b.key = .lt) ∧
    (∀ key d, (after cs).get? key = some d ↔ d ∈ (after cs).documents ∧ d.key = key) ∧
    ∀ path data, (after cs).insertJson path data =
      match ResourcePath.parseDocument? path, data with
      | none, _ => (.error (.invalidDocumentPath path), after cs)
      | some key, .object fields => (.ok (), (after cs).insert ⟨key, Value.ofJsonFields fields, none⟩)
      | some _, other => (.error (.unsupportedData (Value.ofJson other).kind), after cs) := by
  have hkeys : ∃ keys : Finset ResourcePath, (∀ key, key ∈ keys ↔ (after cs).get? key ≠ none) ∧
      (after cs).size = keys.card := ⟨(after cs).keys, (after cs).mem_keys_iff, (after cs).size_eq_card⟩
  refine ⟨get?_after_eq_some_iff cs, fun key other => ⟨rfl, get?_erase (after cs) key other⟩, hkeys,
    (after cs).documents_increasing, (after cs).get?_eq_some_iff_mem, fun path data => ?_⟩
  unfold insertJson
  rw [Document.ofJson_eq]
  cases ResourcePath.parseDocument? path with
  | none => rfl
  | some key => cases data <;> rfl

end Store

end DocumentQuery
