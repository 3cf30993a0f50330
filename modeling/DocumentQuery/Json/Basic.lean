import DocumentQuery.Value.Basic

/-!
# JSON trees

A tree of objects, arrays and scalars. The members of an object stand in key order, and a number is a natural
number, a negative integer or a double, as it was written. `Value.ofJson` reads a tree as plain data.
-/

namespace DocumentQuery

inductive JsonNumber where
  | natural (n : UInt64)
  | negative (i : Int64)
  | double (d : Double)
deriving DecidableEq, Repr

inductive Json where
  | null
  | bool (b : Bool)
  | number (n : JsonNumber)
  | string (s : String)
  | array (items : List Json)
  | object (fields : List (String × Json))
deriving Repr, Inhabited

namespace JsonNumber

/-- The number as a stored integer, if it is integral and in range. -/
def toInt64? : JsonNumber → Option Int64
  | natural n => Integer.ofInt? n.toNat
  | negative i => some i
  | double _ => none

def toUInt64? : JsonNumber → Option UInt64
  | natural n => some n
  | negative _ | double _ => none

/-- The nearest double. -/
def toDouble : JsonNumber → Double
  | natural n => .ofUInt64 n
  | negative i => .ofInt64 i
  | double d => d

def ofInt64 (i : Int64) : JsonNumber :=
  if 0 ≤ i.toInt then natural (UInt64.ofNat i.toInt.toNat) else negative i

end JsonNumber

namespace Json

/-- An object of members in any order. -/
def record (fields : List (String × Json)) : Json := object (Keyed.ofList fields)

def ofInt64 (i : Int64) : Json := number (.ofInt64 i)

def ofUInt64 (n : UInt64) : Json := number (.natural n)

/-- A number, or null for what JSON cannot write. -/
def ofDouble (d : Double) : Json := if d.isFinite then number (.double d) else null

end Json

namespace Value

/-- The value of a number: an integer if it is one in range, and a double otherwise. -/
def ofJsonNumber (n : JsonNumber) : Value :=
  match n.toInt64? with
  | some i => integer i
  | none => double n.toDouble

mutual

/-- The value of a tree as plain data. -/
def ofJson : Json → Value
  | .null => null
  | .bool b => boolean b
  | .number n => ofJsonNumber n
  | .string s => string s
  | .array items => array (ofJsonItems items)
  | .object fields => map (ofJsonFields fields)

def ofJsonItems : List Json → List Value
  | [] => []
  | j :: rest => ofJson j :: ofJsonItems rest

def ofJsonFields : List (String × Json) → List (String × Value)
  | [] => []
  | (k, j) :: rest => (k, ofJson j) :: ofJsonFields rest

end

end Value

end DocumentQuery
