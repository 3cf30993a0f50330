/-!
# Field paths

A field path names a possibly nested field of a document by the keys on the way to it. Its text separates
segments by dots; a stretch in grave accents is taken literally, with a backslash before a grave accent or a
backslash that belongs to the segment. `FieldPath.text` is the canonical text: it quotes exactly the segments
that are not plain identifiers.
-/

namespace DocumentQuery

/-- The keys on the way to a field. -/
structure FieldPath where
  segments : List String
deriving DecidableEq, Repr, Inhabited

namespace FieldPath

/-- The character around literal stretches. -/
def quote : Char := '\x60'

/-- The reserved segment that stands for the document's own key. -/
def documentIdSegment : String := "__name__"

/-- The reserved path of the document's own key. -/
def documentId : FieldPath := ⟨[documentIdSegment]⟩

def isDocumentId (p : FieldPath) : Bool := p = documentId

/-- The path of given segments; there must be one, and none may be empty. -/
def ofSegments? (segments : List String) : Option FieldPath :=
  if segments = [] ∨ "" ∈ segments then none else some ⟨segments⟩

/-- Reads segments: `quoted` says whether the text stands inside a quoted stretch, and `current` holds the
characters of the segment so far, last one first. -/
def readSegments (quoted : Bool) (current : List Char) : List Char → Option (List String)
  | [] => if quoted ∨ current = [] then none else some [String.ofList current.reverse]
  | c :: rest =>
    if c = quote then readSegments (!quoted) current rest
    else if c = '\\' ∧ quoted then
      match rest with
      | [] => none
      | escaped :: rest => readSegments quoted (escaped :: current) rest
    else if c = '.' ∧ ¬ quoted then
      if current = [] then none
      else (readSegments false [] rest).map (String.ofList current.reverse :: ·)
    else readSegments quoted (c :: current) rest

/-- Reads a path; every segment must hold a character. -/
def parse? (text : String) : Option FieldPath :=
  (readSegments false [] text.toList).map FieldPath.mk

/-- Letters of the Latin alphabet, digits and the underscore. -/
def isWordChar (c : Char) : Bool := c.isAlphanum || c = '_'

/-- Whether a segment needs no quotes. -/
def isPlain (segment : List Char) : Bool :=
  segment.all isWordChar && segment.head?.any fun c => !c.isDigit

/-- A backslash before every occurrence of a character. -/
def marked (c : Char) (segment : List Char) : List Char :=
  segment.flatMap fun x => if x = c then ['\\', x] else [x]

/-- A backslash before every backslash, and then before every grave accent. -/
def escaped (segment : List Char) : List Char := marked quote (marked '\\' segment)

def segmentText (segment : String) : String :=
  if isPlain segment.toList then segment
  else String.ofList (quote :: escaped segment.toList ++ [quote])

/-- The canonical text. -/
def text (p : FieldPath) : String := ".".intercalate (p.segments.map segmentText)

end FieldPath

end DocumentQuery
