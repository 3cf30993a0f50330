import DocumentQuery.Pipeline.Run

/-!
# Document stores

A `DocumentAccess` is what a pipeline can be executed over: all documents, the document of a key, and the
documents of a collection or of all collections with an id. A `Store` keeps documents in key order, one for
every key, and scans a collection as one stretch of that order; `DocumentAccess.ofList` keeps a list as it is.
-/

namespace DocumentQuery

/-- Access to documents. An answer may hold more documents than asked for, in any order. -/
structure DocumentAccess where
  documents : List Document
  get? : ResourcePath → Option Document
  inCollection : ResourcePath → List Document :=
    fun collection => documents.filter fun d => d.key.IsChildOf collection
  inGroup : String → List Document :=
    fun id => documents.filter fun d => d.collectionId? = some id

namespace DocumentAccess

/-- A list of documents as it is; the first copy of a key is its document. -/
def ofList (ds : List Document) : DocumentAccess where
  documents := ds
  get? key := ds.find? (·.key = key)

/-- The documents that a pipeline's source asks for. -/
def candidates (access : DocumentAccess) : Source → List Document
  | .collection path => access.inCollection path
  | .collectionGroup id => access.inGroup id
  | .database => access.documents
  | .documents keys => keys.filterMap access.get?

/-- The documents of a pipeline. -/
def execute (limits : Limits) (access : DocumentAccess) (p : Pipeline) : List Document :=
  p.run limits (access.candidates p.source)

end DocumentAccess

/-- Documents in key order, one for every key. -/
structure Store where
  entries : List (ResourcePath × Document)
  ascending : Keyed.Ascending entries
  /-- Every document stands under its own key. -/
  keyed : ∀ e ∈ entries, e.2.key = e.1

namespace Store

/-- The store without documents. -/
def empty : Store where
  entries := []
  ascending := List.Pairwise.nil
  keyed _ h := absurd h List.not_mem_nil

instance : Inhabited Store := ⟨empty⟩

/-- Keeps a document under its key; one that was there before is replaced. -/
def insert (s : Store) (d : Document) : Store where
  entries := Keyed.insert d.key d s.entries
  ascending := Keyed.ascending_insert s.ascending
  keyed e h := by
    rcases Keyed.mem_insert h with rfl | h
    · rfl
    · exact s.keyed e h

/-- The store without the document of a key. -/
def erase (s : Store) (key : ResourcePath) : Store where
  entries := Keyed.erase key s.entries
  ascending := Keyed.ascending_erase s.ascending
  keyed e h := s.keyed e (List.mem_filter.1 h).1

/-- The store filled with documents in order. -/
def ofList (ds : List Document) : Store := ds.foldl insert empty

def get? (s : Store) (key : ResourcePath) : Option Document := Keyed.find? key s.entries

/-- The document under a key, and the store without it. -/
def remove (s : Store) (key : ResourcePath) : Option Document × Store := (s.get? key, s.erase key)

def size (s : Store) : Nat := s.entries.length

def isEmpty (s : Store) : Bool := s.entries.isEmpty

/-- All documents in key order. -/
def documents (s : Store) : List Document := s.entries.map Prod.snd

/-- The documents directly in a collection. Everything below a path stands in one stretch that starts where
the path itself would stand. -/
def inCollection (s : Store) (collection : ResourcePath) : List Document :=
  let start := s.entries.dropWhile fun e => compare e.1 collection = .lt
  let below := start.takeWhile fun e => e.1.IsBelow collection
  (below.filter fun e => e.1.IsChildOf collection).map Prod.snd

/-- Access to the documents of a store. -/
def toAccess (s : Store) : DocumentAccess where
  documents := s.documents
  get? := s.get?
  inCollection := s.inCollection

@[simp] theorem get?_insert_self (s : Store) (d : Document) : (s.insert d).get? d.key = some d :=
  Keyed.find?_insert_self _ _ _

theorem get?_insert_of_ne (s : Store) (d : Document) {key : ResourcePath} (h : key ≠ d.key) :
    (s.insert d).get? key = s.get? key :=
  Keyed.find?_insert_of_ne _ _ h

@[simp] theorem get?_erase_self (s : Store) (key : ResourcePath) : (s.erase key).get? key = none :=
  Keyed.find?_erase_self _ _

theorem get?_erase_of_ne (s : Store) {key other : ResourcePath} (h : other ≠ key) :
    (s.erase key).get? other = s.get? other :=
  Keyed.find?_erase_of_ne _ h

end Store

end DocumentQuery
