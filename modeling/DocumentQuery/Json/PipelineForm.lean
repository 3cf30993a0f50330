import DocumentQuery.Json.ValueForm
import DocumentQuery.BuiltinEngine.Build
import DocumentQuery.Pipeline.Basic

/-!
# Expressions and pipelines as JSON

A choice is written as an object with its name alone, or as the bare name if it has no content. Paths, field
paths and numbers of arguments are read as they are; a list of stages has to make a pipeline.
-/

namespace DocumentQuery

namespace Json

/-- A choice with content. -/
def choice (name : String) (content : Json) : Json := object [(name, content)]

end Json

namespace Function

def toJson (f : Function) : Json := .string f.name

def decode (j : Json) : Decoded Function := do Json.orShape (ofOwnName? (← j.toUnit))

end Function

namespace Expression

mutual

def toJson : Expression → Json
  | field path => .choice "field" path.toJson
  | literal v => .choice "literal" v.toJson
  | call f args =>
    .choice "function" (.record [("function", f.toJson), ("args", .array (toJsonAll args))])

def toJsonAll : List Expression → List Json
  | [] => []
  | e :: rest => toJson e :: toJsonAll rest

end

/-- The call of a function whose name stands among some members. -/
def decodeCall (fields : List (String × Json)) (args : Option (List Expression)) : Decoded Expression := do
  let f ← Json.member? fields "function" Function.decode
  let args ← Json.orShape args
  return call (← Json.orShape f) args

mutual

def decode : Json → Decoded Expression
  | .object [("field", j)] => (FieldPath.decode j).map field
  | .object [("literal", j)] => (Value.decode j).map literal
  | .object [("function", .object fields)] =>
    match decodeArgs fields with
    | .ok args => decodeCall fields args
    | .error e => .error e
  | _ => .error .shape

/-- The arguments among the members of a call. -/
def decodeArgs : List (String × Json) → Decoded (Option (List Expression))
  | [] => .ok none
  | (name, .array items) :: rest =>
    if name = "args" then
      match decodeAll items with
      | .ok args => .ok (some args)
      | .error e => .error e
    else decodeArgs rest
  | (name, _) :: rest => if name = "args" then .error .shape else decodeArgs rest

def decodeAll : List Json → Decoded (List Expression)
  | [] => .ok []
  | j :: rest =>
    match decode j with
    | .error e => .error e
    | .ok e =>
      match decodeAll rest with
      | .error e => .error e
      | .ok es => .ok (e :: es)

end

end Expression

namespace Direction

def name : Direction → String
  | ascending => "ascending"
  | descending => "descending"

def toJson (d : Direction) : Json := .string d.name

def decode (j : Json) : Decoded Direction := do
  match ← j.toUnit with
  | "ascending" => return ascending
  | "descending" => return descending
  | _ => .error .shape

end Direction

namespace SortKey

def toJson (k : SortKey) : Json :=
  .record [("expression", k.expression.toJson), ("direction", k.direction.toJson)]

def decode : Json → Decoded SortKey
  | .object fields => do
    let direction ← Json.member? fields "direction" Direction.decode
    let expression ← Json.member? fields "expression" Expression.decode
    return ⟨← Json.orShape expression, ← Json.orShape direction⟩
  | .array (expression :: direction :: rest) => do
    let expression ← Expression.decode expression
    let direction ← Direction.decode direction
    if rest.isEmpty then return ⟨expression, direction⟩ else .error .shape
  | .array [expression] => do
    let _ ← Expression.decode expression
    .error .shape
  | _ => .error .shape

end SortKey

namespace Source

def toJson : Source → Json
  | collection path => .choice "collection" path.toJson
  | collectionGroup id => .choice "collection_group" (.string id)
  | database => .string "database"
  | documents keys => .choice "documents" (.array (keys.map ResourcePath.toJson))

def decode : Json → Decoded Source
  | .object [("collection", j)] => (ResourcePath.decode j).map collection
  | .object [("collection_group", j)] => j.toText.map collectionGroup
  | .object [("documents", j)] => (j.toListOf ResourcePath.decode).map documents
  | .object [("database", .null)] => .ok database
  | .string "database" => .ok database
  | _ => .error .shape

end Source

namespace Stage

def toJson : Stage → Json
  | source s => .choice "source" s.toJson
  | step (.filter condition) => .choice "where" condition.toJson
  | step (.sort keys) => .choice "sort" (.array (keys.map SortKey.toJson))
  | step (.offset count) => .choice "offset" (.ofUInt64 count)
  | step (.limit count) => .choice "limit" (.ofUInt64 count)

def decode : Json → Decoded Stage
  | .object [("source", j)] => (Source.decode j).map source
  | .object [("where", j)] => (Expression.decode j).map fun e => step (.filter e)
  | .object [("sort", j)] => (j.toListOf SortKey.decode).map fun keys => step (.sort keys)
  | .object [("offset", j)] => j.toUInt64.map fun n => step (.offset n)
  | .object [("limit", j)] => j.toUInt64.map fun n => step (.limit n)
  | _ => .error .shape

end Stage

namespace Pipeline

def toJson (p : Pipeline) : Json := .array (p.stages.map Stage.toJson)

def decode (j : Json) : Decoded Pipeline := do
  let stages ← j.toListOf Stage.decode
  (ofStages stages).mapError .build

end Pipeline

namespace Limits

def toJson (l : Limits) : Json :=
  .record [("max_regex_pattern_len", .ofUInt64 l.patternLength), ("regex_size_limit", .ofUInt64 l.patternSize)]

/-- Limits; a missing one is the default. -/
def decode : Json → Decoded Limits
  | .object fields => do
    let length ← Json.member? fields "max_regex_pattern_len" Json.toUInt64
    let size ← Json.member? fields "regex_size_limit" Json.toUInt64
    return ⟨length.getD ({} : Limits).patternLength, size.getD ({} : Limits).patternSize⟩
  | .array [] => .ok {}
  | .array [length] => do return { patternLength := ← length.toUInt64 }
  | .array [length, size] => do return ⟨← length.toUInt64, ← size.toUInt64⟩
  | _ => .error .shape

end Limits

end DocumentQuery
