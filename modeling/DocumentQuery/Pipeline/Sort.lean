import DocumentQuery.Expression.Evaluate
import DocumentQuery.Pipeline.Basic

/-!
# Sorting documents

Documents are sorted by the outcomes of sort keys, each ascending or descending, and where all of those tie by
document key, always ascending. The sort is stable and evaluates each key once for every document.
-/

namespace DocumentQuery

/-- The outcomes of all sort keys on a document. -/
def SortKey.outcomes (limits : Limits) (keys : List SortKey) (d : Document) : List Outcome :=
  keys.map fun key => key.expression.evaluate limits d

/-- The order of two outcomes in a direction. -/
def Direction.compare (direction : Direction) (a b : Outcome) : Ordering :=
  match direction with
  | .ascending => a.compare b
  | .descending => b.compare a

namespace Document

/-- The order of lists of outcomes, key by key. -/
def compareTuples : List SortKey → List Outcome → List Outcome → Ordering
  | key :: keys, a :: as, b :: bs => (key.direction.compare a b).then (compareTuples keys as bs)
  | _, _, _ => .eq

/-- The order of documents with their outcomes; a tie is broken by document key. -/
def compareBy (keys : List SortKey) (a b : List Outcome × Document) : Ordering :=
  (compareTuples keys a.1 b.1).then (Ord.compare a.2.key b.2.key)

/-- The documents in the order of the sort keys. -/
def sorted (limits : Limits) (keys : List SortKey) (ds : List Document) : List Document :=
  let decorated := ds.map fun d => (SortKey.outcomes limits keys d, d)
  (decorated.mergeSort fun a b => (compareBy keys a b).isLE).map Prod.snd

/-- The documents in the order of their keys. -/
def sortedByKey (ds : List Document) : List Document :=
  ds.mergeSort fun a b => (Ord.compare a.key b.key).isLE

/-- The first document of every run with one key. -/
def firstOfRuns : List Document → List Document
  | [] => []
  | d :: rest =>
    match firstOfRuns rest with
    | [] => [d]
    | e :: es => if d.key = e.key then d :: es else d :: e :: es

end Document

end DocumentQuery
