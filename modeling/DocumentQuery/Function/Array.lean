import DocumentQuery.Function.Operand
import DocumentQuery.Value.Equality

/-!
# Arrays

Membership in an array, its length, concatenation and reversal, and access by position, where a negative
position counts from the end and a position outside the array is unset, like a missing field.
-/

namespace DocumentQuery.ArrayFunction

/-- An array of the operands; a null is kept, an unset operand or an error fails. -/
def ofItems (f : Function) (items : List Value) : List Outcome → Outcome
  | [] => .value (.array items.reverse)
  | o :: rest =>
    match o.argumentError? f with
    | some e => .error e
    | none => ofItems f ((o.stored?.getD .null) :: items) rest

/-- Whether some candidate is in the array. -/
def containsAny? (items candidates : List Value) : Option Bool :=
  Truth.search true false (candidates.map fun c => c.isAnyOf? items)

/-- Whether every candidate is in the array. -/
def containsAll? (items candidates : List Value) : Option Bool :=
  Truth.search false false (candidates.map fun c => c.isAnyOf? items)

/-- The position that an index names in a sequence of some length: from the end if it is negative. -/
def position? (size : Nat) (index : Int) : Option Nat :=
  let resolved := if index < 0 then size + index else index
  if 0 ≤ resolved ∧ resolved < size then some resolved.toNat else none

/-- The item at an index. -/
def itemAt (items : List Value) (index : Int) : Outcome :=
  match (position? items.length index).bind (items[·]?) with
  | some v => .ofValue v
  | none => .unset

/-- The arrays of all operands, one after the other. -/
def concatenated : List Value → Except Cause (List Value)
  | [] => .ok []
  | v :: rest => do
    let items ← v.toArray
    let others ← concatenated rest
    return items ++ others

def apply : ArrayFunction → List Value → Except Cause Outcome
  | contains, [a, b] => a.toArray.map fun items => .ofTruth (b.isAnyOf? items)
  | containsAny, [a, b] => do
    let items ← a.toArray
    let candidates ← b.toArray
    return .ofTruth (containsAny? items candidates)
  | containsAll, [a, b] => do
    let items ← a.toArray
    let candidates ← b.toArray
    return .ofTruth (containsAll? items candidates)
  | length, [a] => a.toArray.map fun items => .value (.integer (Int64.ofNat items.length))
  | concat, args => (concatenated args).map fun items => .value (.array items)
  | reverse, [a] => a.toArray.map fun items => .value (.array items.reverse)
  | get, [a, b] => do
    let items ← a.toArray
    let index ← b.toInteger
    return itemAt items index.toInt
  | _, args => wrongCount args

end DocumentQuery.ArrayFunction
