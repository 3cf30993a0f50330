import DocumentQuery.Text.Pieces

/-!
# Resource paths

A resource path names a collection or a document by its segments from the root, as in `users/alice/posts`.
A non-empty path with an even number of segments is a document key, one with an odd number is a collection.
Paths are ordered segment by segment, so that the documents of a collection, and everything below them, stand
together.
-/

namespace DocumentQuery

/-- The segments of a path from the root. -/
structure ResourcePath where
  segments : List String
deriving DecidableEq, Repr, Inhabited

namespace ResourcePath

/-- Segment by segment, a path before its extensions. -/
instance : Ord ResourcePath where
  compare a b := compare a.segments b.segments

theorem compare_def (a b : ResourcePath) : compare a b = compare a.segments b.segments := rfl

instance : Std.TransOrd ResourcePath where
  eq_swap := Std.OrientedOrd.eq_swap (α := List String)
  isLE_trans := Std.TransOrd.isLE_trans (α := List String)

instance : Std.LawfulEqOrd ResourcePath where
  compare_self := Std.ReflOrd.compare_self (α := List String)
  eq_of_compare {a b} h := by
    cases a; cases b
    exact congrArg mk (Std.LawfulEqOrd.eq_of_compare (α := List String) h)

/-- The path written with slashes. -/
def text (p : ResourcePath) : String :=
  String.ofList (Text.joined '/' (p.segments.map String.toList))

/-- Reads a path. Slashes at both ends are ignored, and a text of slashes alone is the empty path; an empty
piece between two slashes is refused. -/
def parse? (text : String) : Option ResourcePath :=
  let inner := Text.trimmed '/' text.toList
  if inner = [] then some ⟨[]⟩
  else
    let ps := Text.pieces '/' inner
    if [] ∈ ps then none else some ⟨ps.map String.ofList⟩

def size (p : ResourcePath) : Nat := p.segments.length

def isEmpty (p : ResourcePath) : Bool := p.segments.isEmpty

/-- A non-zero even number of segments. -/
def IsDocumentKey (p : ResourcePath) : Prop := p.segments ≠ [] ∧ p.segments.length % 2 = 0

instance (p : ResourcePath) : Decidable p.IsDocumentKey := inferInstanceAs (Decidable (_ ∧ _))

/-- An odd number of segments. -/
def IsCollection (p : ResourcePath) : Prop := p.segments.length % 2 = 1

instance (p : ResourcePath) : Decidable p.IsCollection := inferInstanceAs (Decidable (_ = _))

/-- Reads a path that names a document. -/
def parseDocument? (text : String) : Option ResourcePath :=
  (parse? text).filter fun p => p.IsDocumentKey

/-- Reads a path that names a collection. -/
def parseCollection? (text : String) : Option ResourcePath :=
  (parse? text).filter fun p => p.IsCollection

def lastSegment? (p : ResourcePath) : Option String := p.segments.getLast?

/-- The path without its last segment. -/
def parent? (p : ResourcePath) : Option ResourcePath :=
  if p.segments = [] then none else some ⟨p.segments.dropLast⟩

/-- The last segment but one: of a document key, the id of the collection that holds the document. -/
def collectionId? (p : ResourcePath) : Option String := p.segments.dropLast.getLast?

/-- The path one level below. -/
def child (p : ResourcePath) (segment : String) : ResourcePath := ⟨p.segments ++ [segment]⟩

/-- Whether a path extends another or equals it. -/
def IsBelow (p ancestor : ResourcePath) : Prop := ancestor.segments <+: p.segments

instance (p ancestor : ResourcePath) : Decidable (p.IsBelow ancestor) :=
  inferInstanceAs (Decidable (_ <+: _))

/-- Exactly one level below. -/
def IsChildOf (p parent : ResourcePath) : Prop :=
  p.segments.length = parent.segments.length + 1 ∧ p.IsBelow parent

instance (p parent : ResourcePath) : Decidable (p.IsChildOf parent) :=
  inferInstanceAs (Decidable (_ ∧ _))

theorem isChildOf_child (p : ResourcePath) (segment : String) : (p.child segment).IsChildOf p := by
  simp [IsChildOf, IsBelow, child]

end ResourcePath

end DocumentQuery
