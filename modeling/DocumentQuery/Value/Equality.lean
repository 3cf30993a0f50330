import DocumentQuery.Value.Order

/-!
# Equality with nulls

`Value.equals?` is the equality of queries, with three answers: equal, different, and unknown (`none`) where a
null decides. Numbers are equal across integers and doubles by exact value, NaN equals nothing, values of
different rank are different, and inside arrays and maps one difference decides over any unknown.
`Truth.both` is the conjunction of such answers, and `Truth.search` goes through them for one that decides.
-/

namespace DocumentQuery

namespace Truth

/-- Conjunction of two answers: a false one decides, then an unknown one. -/
def both : Option Bool → Option Bool → Option Bool
  | some false, _ => some false
  | some true, b => b
  | none, some false => some false
  | none, _ => none

/-- Goes through answers for one that decides.  If there is none, an unknown answer leaves the search open, and
`unknown` says whether one was met before; otherwise the opposite is found. -/
def search (decider unknown : Bool) : List (Option Bool) → Option Bool
  | [] => if unknown then none else some !decider
  | some b :: rest => if b = decider then some decider else search decider unknown rest
  | none :: rest => search decider true rest

end Truth

namespace Value

/-- Equality of numbers by exact value; NaN equals nothing. -/
def equalNumbers (a b : Value) : Bool :=
  !a.isNaN && !b.isNaN && compareNumeric a b = .eq

mutual

def equals? : Value → Value → Option Bool
  | null, _ => none
  | _, null => none
  | boolean a, boolean b => some (a = b)
  | string a, string b => some (a = b)
  | bytes a, bytes b => some (a = b)
  | timestamp a, timestamp b => some (a = b)
  | reference a, reference b => some (a = b)
  | geoPoint a, geoPoint b => some (a.latitude.equals b.latitude && a.longitude.equals b.longitude)
  | array a, array b => itemsEqual? a b
  | vector a, vector b => some (a.length = b.length && (a.zip b).all fun p => p.1.equals p.2)
  | map a, map b => fieldsEqual? a b
  | a, b => some (a.rank = b.rank && equalNumbers a b)

/-- Equal length and equal items. -/
def itemsEqual? : List Value → List Value → Option Bool
  | [], [] => some true
  | a :: as, b :: bs => Truth.both (equals? a b) (itemsEqual? as bs)
  | _, _ => some false

/-- The same keys and equal values. -/
def fieldsEqual? : List (String × Value) → List (String × Value) → Option Bool
  | [], [] => some true
  | (k, a) :: as, (l, b) :: bs =>
    Truth.both (some (k = l)) (Truth.both (equals? a b) (fieldsEqual? as bs))
  | _, _ => some false

end

/-- Whether a list holds a value: an equal item decides, then an unknown one; a null is unknown in every
list, also in the empty one. -/
def isAnyOf? (needle : Value) (items : List Value) : Option Bool :=
  Truth.search true needle.isNull (items.map (equals? needle))

end Value

end DocumentQuery
