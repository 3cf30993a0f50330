import DocumentQuery.Path.Field
import DocumentQuery.Value.Basic

/-!
# Documents

A document is a map of fields stored under a document key, with an update time that nothing but its own
encoding reads. `Document.ofParts?` refuses a key that names a collection or nothing (`Document.HasKey`).
-/

namespace DocumentQuery

structure Document where
  key : ResourcePath
  data : Record
  updateTime : Option Timestamp := none
deriving Repr, Inhabited

namespace Document

/-- The key names a document. -/
def HasKey (d : Document) : Prop := d.key.IsDocumentKey

instance (d : Document) : Decidable d.HasKey := inferInstanceAs (Decidable d.key.IsDocumentKey)

/-- The document of a key and its fields, if the key names a document. -/
def ofParts? (key : ResourcePath) (data : Record) (updateTime : Option Timestamp) : Option Document :=
  if key.IsDocumentKey then some ⟨key, data, updateTime⟩ else none

theorem hasKey_of_ofParts? {key : ResourcePath} {data : Record} {time : Option Timestamp}
    {d : Document} (h : ofParts? key data time = some d) : d.HasKey := by
  unfold ofParts? at h
  split at h
  next hk =>
    obtain rfl := Option.some.inj h
    exact hk
  next => cases h

/-- The id of the collection that holds the document. -/
def collectionId? (d : Document) : Option String := d.key.collectionId?

/-- The value at the end of a way through nested maps. -/
def lookUp : Record → List String → Option Value
  | _, [] => none
  | fields, [segment] => Keyed.find? segment fields
  | fields, segment :: next :: rest =>
    match Keyed.find? segment fields with
    | some (.map inner) => lookUp inner (next :: rest)
    | _ => none

/-- The value of a field. There is none where a key on the way is missing or its value is not a map. -/
def field? (d : Document) (path : FieldPath) : Option Value := lookUp d.data path.segments

/-- Identity of key, fields and update time. -/
def same (a b : Document) : Bool :=
  a.key = b.key && Value.sameFields a.data b.data && a.updateTime = b.updateTime

end Document

end DocumentQuery
