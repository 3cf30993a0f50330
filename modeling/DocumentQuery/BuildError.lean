import DocumentQuery.Document
import DocumentQuery.Function.Name

/-!
# Errors of construction

What is refused before anything is evaluated: texts that are no paths, unknown functions, wrong numbers of
arguments, lists of stages that are no pipeline, and data that is no document. `BuildError.message` words them.
-/

namespace DocumentQuery

/-- Why a list of stages is no pipeline. -/
inductive PipelineFault where
  | noStages
  | leadingStage (found : String)
  | laterSource
deriving DecidableEq, Repr

namespace PipelineFault

def message : PipelineFault → String
  | noStages => "pipeline has no stages"
  | leadingStage found => "first stage must be a source, found " ++ found
  | laterSource => "only the first stage may be a source"

end PipelineFault

inductive BuildError where
  | invalidFieldPath (text : String)
  | invalidDocumentPath (text : String)
  | invalidCollectionPath (text : String)
  | unknownFunction (name : String)
  | wrongCount (function : Function) (actual : Nat)
  | invalidPipeline (fault : PipelineFault)
  | unsupportedData (found : Kind)
deriving DecidableEq, Repr

namespace BuildError

def message : BuildError → String
  | invalidFieldPath text => "Invalid field path: " ++ text
  | invalidDocumentPath text => "Invalid document path: " ++ text
  | invalidCollectionPath text => "Invalid collection path: " ++ text
  | unknownFunction name => "Unknown function: " ++ name
  | wrongCount function actual =>
    "Function " ++ function.name ++ " expects " ++ function.arity.text ++ " argument(s), got " ++
      toString actual
  | invalidPipeline fault => "Invalid pipeline: " ++ fault.message
  | unsupportedData found => "Unsupported value: document data must be a map, found " ++ found.name

/-- The answer, or the error where there is none. -/
def orElse {α : Type} (e : BuildError) : Option α → Except BuildError α
  | some a => .ok a
  | none => .error e

theorem orElse_eq_ok_iff {α : Type} {e : BuildError} {answer : Option α} {a : α} :
    e.orElse answer = .ok a ↔ answer = some a := by
  cases answer <;> simp [orElse]

theorem orElse_eq_error {α : Type} {e : BuildError} {answer : Option α} (h : ∀ a, e.orElse answer ≠ .ok a) :
    e.orElse answer = .error e := by
  cases answer with
  | none => rfl
  | some a => exact absurd rfl (h a)

end BuildError

namespace ResourcePath

/-- Reads a path of any length. -/
def ofText (text : String) : Except BuildError ResourcePath :=
  (BuildError.invalidDocumentPath text).orElse (parse? text)

/-- Reads a path that names a document. -/
def documentOfText (text : String) : Except BuildError ResourcePath :=
  (BuildError.invalidDocumentPath text).orElse (parseDocument? text)

/-- Reads a path that names a collection. -/
def collectionOfText (text : String) : Except BuildError ResourcePath :=
  (BuildError.invalidCollectionPath text).orElse (parseCollection? text)

end ResourcePath

namespace FieldPath

def ofText (text : String) : Except BuildError FieldPath :=
  (BuildError.invalidFieldPath text).orElse (parse? text)

def ofSegments (segments : List String) : Except BuildError FieldPath :=
  (BuildError.invalidFieldPath (".".intercalate segments)).orElse (ofSegments? segments)

end FieldPath

namespace Function

def ofName (name : String) : Except BuildError Function :=
  (BuildError.unknownFunction name).orElse (ofName? name)

end Function

namespace Document

def ofParts (key : ResourcePath) (data : Record) (updateTime : Option Timestamp) :
    Except BuildError Document :=
  (BuildError.invalidDocumentPath key.text).orElse (ofParts? key data updateTime)

/-- The document of a value, which must be a map. -/
def ofValue (key : ResourcePath) : Value → Except BuildError Document
  | .map data => ofParts key data none
  | v => .error (.unsupportedData v.kind)

end Document

end DocumentQuery
