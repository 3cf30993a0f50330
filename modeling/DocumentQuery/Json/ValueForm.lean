import DocumentQuery.Json.Shape

/-!
# Values as JSON

A value is written as an object of its kind's tag (`type`) and its content (`value`); null has no content.
`Value.toJson` writes values, and `Value.decode` reads them, with a timestamp out of range refused. Doubles that
are not finite are written as null and are not read back.
-/

namespace DocumentQuery

namespace Timestamp

def toJson (t : Timestamp) : Json :=
  .record [("seconds", .ofInt64 (Int64.ofInt t.seconds)), ("nanos", .ofInt64 (Int64.ofInt t.nanos))]

/-- The timestamp of its parts; nanoseconds are a 32-bit word. -/
def checkParts (seconds nanos : Int64) : Decoded Timestamp :=
  match ofParts? seconds.toInt nanos.toInt with
  | some t => .ok t
  | none => .error (.timestampRange seconds.toInt nanos.toInt)

def decodeNanos (j : Json) : Decoded Int64 := do
  let n ← j.toInt64
  if -0x80000000 ≤ n.toInt ∧ n.toInt < 0x80000000 then return n else .error .shape

def decode : Json → Decoded Timestamp
  | .object fields => do
    let nanos ← Json.member? fields "nanos" decodeNanos
    let seconds ← Json.member? fields "seconds" Json.toInt64
    checkParts (← Json.orShape seconds) (← Json.orShape nanos)
  | .array [seconds, nanos] => do
    let seconds ← seconds.toInt64
    let nanos ← decodeNanos nanos
    checkParts seconds nanos
  | _ => .error .shape

end Timestamp

namespace ResourcePath

def toJson (p : ResourcePath) : Json := .array (p.segments.map .string)

def decode (j : Json) : Decoded ResourcePath := (j.toListOf Json.toText).map mk

end ResourcePath

namespace FieldPath

def toJson (p : FieldPath) : Json := .array (p.segments.map .string)

def decode (j : Json) : Decoded FieldPath := (j.toListOf Json.toText).map mk

end FieldPath

namespace GeoPoint

def toJson (g : GeoPoint) : Json :=
  .record [("latitude", .ofDouble g.latitude), ("longitude", .ofDouble g.longitude)]

def decode : Json → Decoded GeoPoint
  | .object fields => do
    let latitude ← Json.member? fields "latitude" Json.toDouble
    let longitude ← Json.member? fields "longitude" Json.toDouble
    return ⟨← Json.orShape latitude, ← Json.orShape longitude⟩
  | .array [latitude, longitude] => do return ⟨← latitude.toDouble, ← longitude.toDouble⟩
  | _ => .error .shape

end GeoPoint

namespace Kind

/-- The tag of a kind. -/
def tag : Kind → String
  | geoPoint => "geo_point"
  | k => k.name

def ofTag? : String → Option Kind
  | "null" => some null
  | "boolean" => some boolean
  | "integer" => some integer
  | "double" => some double
  | "string" => some string
  | "bytes" => some bytes
  | "timestamp" => some timestamp
  | "reference" => some reference
  | "geo_point" => some geoPoint
  | "array" => some array
  | "vector" => some vector
  | "map" => some map
  | _ => none

theorem ofTag?_tag (k : Kind) : ofTag? k.tag = some k := by
  cases k <;> rfl

/-- The kind that a tree names. -/
def decode (j : Json) : Decoded Kind := do Json.orShape (ofTag? (← j.toUnit))

end Kind

namespace Value

/-- A tag and its content. -/
def tagged (k : Kind) (content : Json) : Json := .record [("type", .string k.tag), ("value", content)]

mutual

def toJson : Value → Json
  | null => .record [("type", .string Kind.null.tag)]
  | boolean b => tagged .boolean (.bool b)
  | integer i => tagged .integer (.ofInt64 i)
  | double d => tagged .double (.ofDouble d)
  | string s => tagged .string (.string s)
  | bytes b => tagged .bytes (.array (b.map fun n => .ofUInt64 n.toUInt64))
  | timestamp t => tagged .timestamp t.toJson
  | reference p => tagged .reference p.toJson
  | geoPoint g => tagged .geoPoint g.toJson
  | array items => tagged .array (.array (toJsonItems items))
  | vector entries => tagged .vector (.array (entries.map Json.ofDouble))
  | map fields => tagged .map (.object (toJsonFields fields))

def toJsonItems : List Value → List Json
  | [] => []
  | v :: rest => toJson v :: toJsonItems rest

def toJsonFields : List (String × Value) → List (String × Json)
  | [] => []
  | (k, v) :: rest => (k, toJson v) :: toJsonFields rest

end

/-- The value of a kind that holds no other values, by its content. -/
def decodeScalar (k : Kind) (content : Json) : Decoded Value :=
  match k, content with
  | .null, .null => .ok null
  | .boolean, j => j.toBool.map boolean
  | .integer, j => j.toInt64.map integer
  | .double, j => j.toDouble.map double
  | .string, j => j.toText.map string
  | .bytes, j => j.toBytes.map bytes
  | .timestamp, j => (Timestamp.decode j).map timestamp
  | .reference, j => (ResourcePath.decode j).map reference
  | .geoPoint, j => (GeoPoint.decode j).map geoPoint
  | .vector, j => (j.toListOf Json.toDouble).map vector
  | _, _ => .error .shape

mutual

/-- A value: an object with tag and content, or an array of the two, where the tag is a plain string. -/
def decode : Json → Decoded Value
  | .object fields =>
    match Keyed.find? "type" fields with
    | some t =>
      match Kind.decode t with
      | .ok k => decodeMember k fields
      | .error e => .error e
    | none => .error .shape
  | .array (.string tag :: content :: rest) =>
    match Kind.ofTag? tag with
    | some k =>
      match decodeContent k content with
      | .ok v => if rest.isEmpty then .ok v else .error .shape
      | .error e => .error e
    | none => .error .shape
  | _ => .error .shape

/-- The content among the members of an object; only null has none. -/
def decodeMember (k : Kind) : List (String × Json) → Decoded Value
  | [] => if k = .null then .ok null else .error .shape
  | (name, j) :: rest => if name = "value" then decodeContent k j else decodeMember k rest

/-- The value of a kind by its content. -/
def decodeContent (k : Kind) : Json → Decoded Value
  | .array items =>
    if k = .array then
      match decodeItems items with
      | .ok vs => .ok (array vs)
      | .error e => .error e
    else decodeScalar k (.array items)
  | .object fields =>
    if k = .map then
      match decodeFields fields with
      | .ok fs => .ok (map fs)
      | .error e => .error e
    else decodeScalar k (.object fields)
  | j => decodeScalar k j

def decodeItems : List Json → Decoded (List Value)
  | [] => .ok []
  | j :: rest =>
    match decode j with
    | .error e => .error e
    | .ok v =>
      match decodeItems rest with
      | .error e => .error e
      | .ok vs => .ok (v :: vs)

def decodeFields : List (String × Json) → Decoded (List (String × Value))
  | [] => .ok []
  | (k, j) :: rest =>
    match decode j with
    | .error e => .error e
    | .ok v =>
      match decodeFields rest with
      | .error e => .error e
      | .ok fs => .ok ((k, v) :: fs)

end

end Value

/-- A map from names to values. -/
def Record.decode : Json → Decoded Record
  | .object fields => Value.decodeFields fields
  | _ => .error .shape

def Record.toJson (fields : Record) : Json := .object (Value.toJsonFields fields)

end DocumentQuery
