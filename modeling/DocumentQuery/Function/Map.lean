import DocumentQuery.Function.Operand

/-!
# Maps

Building a map from keys and values, looking up, merging and removing. A later binding of a key replaces an
earlier one everywhere.
-/

namespace DocumentQuery.MapFunction

/-- The text of a key operand. -/
def keyOf (f : Function) : Outcome → Except EvalError String
  | .value (.string key) => .ok key
  | .value v => .error ⟨f, .typeMismatch .string v.kind⟩
  | _ => .error ⟨f, .typeMismatch .string .null⟩

/-- A map of keys and values in turn. Of a pair that fails, an error of the key or the value comes before a
complaint about the kind of the key; a null is kept as a value. -/
def ofPairs (f : Function) (fields : Record) : List Outcome → Outcome
  | key :: value :: rest =>
    match (key.argumentError? f).or (value.argumentError? f) with
    | some e => .error e
    | none =>
      match keyOf f key with
      | .error e => .error e
      | .ok k => ofPairs f (Keyed.insert k (value.stored?.getD .null) fields) rest
  | _ => .value (.map fields)

/-- The value of a key; a missing key is unset. -/
def look (fields : Record) (key : String) : Outcome :=
  match Keyed.find? key fields with
  | some v => .ofValue v
  | none => .unset

/-- All maps together, from left to right. -/
def merged (fields : Record) : List Value → Except Cause Record
  | [] => .ok fields
  | v :: rest => do
    let others ← v.toMap
    merged (Keyed.merge fields others) rest

def apply : MapFunction → List Value → Except Cause Outcome
  | get, [a, b] => do
    let fields ← a.toMap
    let key ← b.toText
    return look fields key
  | merge, args => (merged [] args).map fun fields => .value (.map fields)
  | remove, [a, b] => do
    let fields ← a.toMap
    let key ← b.toText
    return .value (.map (Keyed.erase key fields))
  | _, args => wrongCount args

end DocumentQuery.MapFunction
