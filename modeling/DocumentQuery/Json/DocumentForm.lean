import DocumentQuery.Json.ValueForm

/-!
# Documents as JSON

A document is written as an object of its key, its data and, if it has one, its update time. Reading refuses a
key that names no document. `Document.ofJson` builds a document from a path and plain data instead.
-/

namespace DocumentQuery.Document

def toJson (d : Document) : Json :=
  .record ([("key", d.key.toJson), ("data", Record.toJson d.data)] ++
    match d.updateTime with
    | some t => [("update_time", t.toJson)]
    | none => [])

/-- The document of its parts. -/
def checkParts (key : ResourcePath) (data : Record) (updateTime : Option Timestamp) : Decoded Document :=
  (ofParts key data updateTime).mapError .build

def decode : Json → Decoded Document
  | .object fields => do
    let data ← Json.member? fields "data" Record.decode
    let key ← Json.member? fields "key" ResourcePath.decode
    let time ← Json.member? fields "update_time" (Json.toOption Timestamp.decode)
    checkParts (← Json.orShape key) (← Json.orShape data) time.join
  | .array [key, data] => do
    let key ← ResourcePath.decode key
    let data ← Record.decode data
    checkParts key data none
  | .array (key :: data :: time :: rest) => do
    let key ← ResourcePath.decode key
    let data ← Record.decode data
    let time ← time.toOption Timestamp.decode
    if rest.isEmpty then checkParts key data time else .error .shape
  | _ => .error .shape

/-- The document of a path and a tree of plain data. -/
def ofJson (path : String) (data : Json) : Except BuildError Document := do
  let key ← ResourcePath.documentOfText path
  ofValue key (Value.ofJson data)

end DocumentQuery.Document
