import DocumentQuery.Pipeline.Sort

/-!
# Running a pipeline

A run keeps the documents that the source admits, puts them in key order, keeps the first copy of every key,
and takes them through the steps in order. A document matches a pipeline if its source admits it and every
filter is true of it; sorts and cuts do not count.
-/

namespace DocumentQuery

namespace Step

/-- The documents after one step. -/
def run (limits : Limits) : Step → List Document → List Document
  | filter condition, ds => ds.filter fun d => (condition.evaluate limits d).isTrue
  | sort keys, ds => Document.sorted limits keys ds
  | offset count, ds => ds.drop count.toNat
  | limit count, ds => ds.take count.toNat

/-- Whether a filter is true of a document; other steps let every document pass. -/
def passes (limits : Limits) (d : Document) : Step → Bool
  | filter condition => (condition.evaluate limits d).isTrue
  | _ => true

end Step

namespace Pipeline

/-- The documents that enter the first step: admitted ones, in key order, one for every key. -/
def admitted (s : Source) (ds : List Document) : List Document :=
  Document.firstOfRuns (Document.sortedByKey (ds.filter fun d => s.Admits d.key))

/-- The documents of a pipeline out of the given ones. -/
def run (limits : Limits) (p : Pipeline) (ds : List Document) : List Document :=
  p.steps.foldl (fun ds s => s.run limits ds) (admitted p.source ds)

/-- Whether a document passes the source and every filter. -/
def accepts (limits : Limits) (p : Pipeline) (d : Document) : Bool :=
  p.source.Admits d.key && p.steps.all (Step.passes limits d)

@[simp] theorem run_andThen (limits : Limits) (p : Pipeline) (s : Step) (ds : List Document) :
    (p.andThen s).run limits ds = s.run limits (p.run limits ds) := by
  simp [run, andThen]

end Pipeline

end DocumentQuery
