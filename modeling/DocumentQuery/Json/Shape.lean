import DocumentQuery.BuildError
import DocumentQuery.Json.Basic

/-!
# Reading typed data off JSON trees

What the readers of typed data share: their errors, scalars, lists, the members of an object, and the two ways
to write a choice. Members that are not asked for are passed over. Where several things are wrong, the first one
in the order of the tree is reported.
-/

namespace DocumentQuery

/-- Why a tree is not the wanted data: its shape, or a rule of the data itself. -/
inductive DecodeError where
  | shape
  | timestampRange (seconds nanos : Int)
  | build (e : BuildError)
deriving DecidableEq, Repr

namespace DecodeError

/-- The words of this library for the error; a wrong shape has none. -/
def message? : DecodeError → Option String
  | shape => none
  | timestampRange seconds nanos =>
    some ("timestamp out of range: seconds=" ++ toString seconds ++ ", nanos=" ++ toString nanos)
  | build e => some e.message

end DecodeError

/-- Data read off a tree, or the reason why there is none. -/
abbrev Decoded (α : Type) := Except DecodeError α

namespace Json

def orShape {α : Type} : Option α → Decoded α
  | some a => .ok a
  | none => .error .shape

def toBool : Json → Decoded Bool
  | bool b => .ok b
  | _ => .error .shape

def toText : Json → Decoded String
  | string s => .ok s
  | _ => .error .shape

def toDouble : Json → Decoded Double
  | number n => .ok n.toDouble
  | _ => .error .shape

def toInt64 : Json → Decoded Int64
  | number n => orShape n.toInt64?
  | _ => .error .shape

def toUInt64 : Json → Decoded UInt64
  | number n => orShape n.toUInt64?
  | _ => .error .shape

def toByte (j : Json) : Decoded UInt8 := do
  let n ← j.toUInt64
  if n.toNat < 256 then return n.toUInt8 else .error .shape

/-- An array, item by item. -/
def toListOf {α : Type} (item : Json → Decoded α) : Json → Decoded (List α)
  | array items => items.mapM item
  | _ => .error .shape

/-- Bytes as an array of numbers, or as a text. -/
def toBytes : Json → Decoded (List UInt8)
  | string s => .ok s.toUTF8.toList
  | j => j.toListOf toByte

/-- A member that may be missing. -/
def member? {α : Type} (fields : List (String × Json)) (name : String) (read : Json → Decoded α) :
    Decoded (Option α) :=
  match Keyed.find? name fields with
  | some j => (read j).map some
  | none => .ok none

/-- Null stands for a missing value. -/
def toOption {α : Type} (read : Json → Decoded α) : Json → Decoded (Option α)
  | null => .ok none
  | j => (read j).map some

/-- A choice without content: its name, or an object with the name alone and null. -/
def toUnit : Json → Decoded String
  | string name => .ok name
  | object [(name, null)] => .ok name
  | _ => .error .shape

end Json

end DocumentQuery
