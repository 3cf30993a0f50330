import DocumentQuery.Double.Basic
import DocumentQuery.Keyed
import DocumentQuery.Path.Resource
import DocumentQuery.Timestamp

/-!
# Values

What a document field holds and what an expression yields: a `Value` of one of twelve kinds, nested through
arrays and maps. A map is a list of bindings in key order (`Keyed`). `Kind.rank` is the place of a kind in the
order of all values; integers and doubles share one.
-/

namespace DocumentQuery

/-- A latitude and a longitude. -/
structure GeoPoint where
  latitude : Double
  longitude : Double
deriving DecidableEq, Repr, Inhabited

inductive Value where
  | null
  | boolean (b : Bool)
  | integer (i : Int64)
  | double (d : Double)
  | string (s : String)
  | bytes (b : List UInt8)
  | timestamp (t : Timestamp)
  | reference (p : ResourcePath)
  | geoPoint (g : GeoPoint)
  | array (items : List Value)
  | vector (entries : List Double)
  | map (fields : List (String × Value))
deriving Repr, Inhabited

/-- A map from field names, in the order of the names. -/
abbrev Record := List (String × Value)

inductive Kind where
  | null | boolean | integer | double | string | bytes | timestamp | reference | geoPoint | array | vector
  | map
deriving DecidableEq, Repr

namespace Kind

/-- The word for a kind in messages. -/
def name : Kind → String
  | null => "null"
  | boolean => "boolean"
  | integer => "integer"
  | double => "double"
  | string => "string"
  | bytes => "bytes"
  | timestamp => "timestamp"
  | reference => "reference"
  | geoPoint => "geo point"
  | array => "array"
  | vector => "vector"
  | map => "map"

/-- Place in the order of all values. -/
def rank : Kind → Nat
  | null => 0
  | boolean => 1
  | integer | double => 2
  | timestamp => 3
  | string => 4
  | bytes => 5
  | reference => 6
  | geoPoint => 7
  | array => 8
  | vector => 9
  | map => 10

end Kind

namespace Value

def kind : Value → Kind
  | null => .null
  | boolean _ => .boolean
  | integer _ => .integer
  | double _ => .double
  | string _ => .string
  | bytes _ => .bytes
  | timestamp _ => .timestamp
  | reference _ => .reference
  | geoPoint _ => .geoPoint
  | array _ => .array
  | vector _ => .vector
  | map _ => .map

def rank (v : Value) : Nat := v.kind.rank

def isNull : Value → Bool
  | null => true
  | _ => false

def isNumber : Value → Bool
  | integer _ | double _ => true
  | _ => false

def isNaN : Value → Bool
  | double d => d.isNaN
  | _ => false

def boolean? : Value → Option Bool
  | boolean b => some b
  | _ => none

def integer? : Value → Option Int64
  | integer i => some i
  | _ => none

/-- A number as a double; an integer goes to the nearest one. -/
def number? : Value → Option Double
  | integer i => some (.ofInt64 i)
  | double d => some d
  | _ => none

def string? : Value → Option String
  | string s => some s
  | _ => none

def timestamp? : Value → Option Timestamp
  | timestamp t => some t
  | _ => none

def array? : Value → Option (List Value)
  | array items => some items
  | _ => none

def vector? : Value → Option (List Double)
  | vector entries => some entries
  | _ => none

def map? : Value → Option Record
  | map fields => some fields
  | _ => none

mutual

/-- Structural identity: an integer is never identical to a double, and doubles follow the arithmetic
equality, so that a NaN inside makes a value differ from itself. -/
def same : Value → Value → Bool
  | null, null => true
  | boolean a, boolean b => a = b
  | integer a, integer b => a = b
  | double a, double b => a.equals b
  | string a, string b => a = b
  | bytes a, bytes b => a = b
  | timestamp a, timestamp b => a = b
  | reference a, reference b => a = b
  | geoPoint a, geoPoint b => a.latitude.equals b.latitude && a.longitude.equals b.longitude
  | array a, array b => sameItems a b
  | vector a, vector b => a.length = b.length && (a.zip b).all fun p => p.1.equals p.2
  | map a, map b => sameFields a b
  | _, _ => false

def sameItems : List Value → List Value → Bool
  | [], [] => true
  | a :: as, b :: bs => same a b && sameItems as bs
  | _, _ => false

def sameFields : List (String × Value) → List (String × Value) → Bool
  | [], [] => true
  | (k, a) :: as, (l, b) :: bs => k = l && same a b && sameFields as bs
  | _, _ => false

end

end Value

end DocumentQuery
