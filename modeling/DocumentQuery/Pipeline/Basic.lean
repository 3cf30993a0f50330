import DocumentQuery.Expression.Basic

/-!
# Pipelines

A pipeline draws documents from a source and takes them through steps: filters, sorts and cuts. Written as a
list of stages, the source comes first and nowhere else (`Pipeline.ofStages`).
-/

namespace DocumentQuery

inductive Direction where
  | ascending
  | descending
deriving DecidableEq, Repr, Inhabited

/-- An expression to sort by, and the direction. -/
structure SortKey where
  expression : Expression
  direction : Direction
deriving Repr, Inhabited

/-- Where a pipeline draws its documents from. -/
inductive Source where
  /-- The documents directly in one collection. -/
  | collection (path : ResourcePath)
  /-- The documents of every collection with this id. -/
  | collectionGroup (id : String)
  /-- All documents. -/
  | database
  /-- The documents with exactly these keys. -/
  | documents (keys : List ResourcePath)
deriving DecidableEq, Repr, Inhabited

/-- What a pipeline does with its documents. -/
inductive Step where
  | filter (condition : Expression)
  | sort (keys : List SortKey)
  | offset (count : UInt64)
  | limit (count : UInt64)
deriving Repr, Inhabited

inductive Stage where
  | source (s : Source)
  | step (s : Step)
deriving Repr, Inhabited

structure Pipeline where
  source : Source
  steps : List Step := []
deriving Repr, Inhabited

namespace SortKey

def same (a b : SortKey) : Bool := a.expression.same b.expression && a.direction = b.direction

end SortKey

namespace Source

def name : Source → String
  | collection _ => "collection"
  | collectionGroup _ => "collection_group"
  | database => "database"
  | documents _ => "documents"

/-- One collection, by its path. -/
def ofCollectionText (text : String) : Except BuildError Source :=
  (ResourcePath.collectionOfText text).map collection

/-- All collections with an id, which is one non-empty segment. -/
def ofCollectionId (id : String) : Except BuildError Source :=
  if id = "" ∨ '/' ∈ id.toList then .error (.invalidCollectionPath id) else .ok (collectionGroup id)

/-- Documents by their paths. -/
def ofDocumentTexts (texts : List String) : Except BuildError Source :=
  (texts.mapM ResourcePath.documentOfText).map documents

/-- Whether the source draws a document with this key. -/
def Admits : Source → ResourcePath → Prop
  | collection path, key => key.IsChildOf path
  | collectionGroup id, key => key.collectionId? = some id
  | database, key => key.IsDocumentKey
  | documents keys, key => key ∈ keys

instance (s : Source) (key : ResourcePath) : Decidable (s.Admits key) := by
  cases s <;> simp only [Admits] <;> infer_instance

end Source

namespace Step

def name : Step → String
  | filter _ => "where"
  | sort _ => "sort"
  | offset _ => "offset"
  | limit _ => "limit"

def same : Step → Step → Bool
  | filter a, filter b => a.same b
  | sort a, sort b => a.length = b.length && (a.zip b).all fun p => p.1.same p.2
  | offset m, offset n => m = n
  | limit m, limit n => m = n
  | _, _ => false

end Step

namespace Stage

def name : Stage → String
  | source s => s.name
  | step s => s.name

/-- The steps of stages among which there is no source. -/
def steps? : List Stage → Option (List Step)
  | [] => some []
  | step s :: rest => (steps? rest).map (s :: ·)
  | source _ :: _ => none

end Stage

namespace Pipeline

/-- The stages of a pipeline, its source first. -/
def stages (p : Pipeline) : List Stage := .source p.source :: p.steps.map .step

/-- The pipeline of a list of stages. -/
def ofStages : List Stage → Except BuildError Pipeline
  | [] => .error (.invalidPipeline .noStages)
  | .source s :: rest =>
    match Stage.steps? rest with
    | some steps => .ok ⟨s, steps⟩
    | none => .error (.invalidPipeline .laterSource)
  | stage :: _ => .error (.invalidPipeline (.leadingStage stage.name))

/-- The pipeline with one more step at its end. -/
def andThen (p : Pipeline) (s : Step) : Pipeline := { p with steps := p.steps ++ [s] }

def same (p q : Pipeline) : Bool :=
  p.source = q.source && p.steps.length = q.steps.length && (p.steps.zip q.steps).all fun s => s.1.same s.2

theorem steps?_map_step (steps : List Step) : Stage.steps? (steps.map .step) = some steps := by
  induction steps with
  | nil => rfl
  | cons s rest ih => simp [Stage.steps?, ih]

theorem ofStages_stages (p : Pipeline) : ofStages p.stages = .ok p := by
  simp [stages, ofStages, steps?_map_step]

end Pipeline

end DocumentQuery
