import DocumentQuery.Text.CaseTable
import DocumentQuery.Text.Letter

/-!
# Letter case and blanks

Texts in lower case and in upper case after the full mappings, where one character may become several, and
texts without the blanks at their ends. A capital sigma at the end of a word becomes the final form of the
small letter (`endsWord`); everything else is mapped character by character.
-/

namespace DocumentQuery.Text

/-- The image of a character under runs and expansions; most characters are their own image. -/
def mapChar (runs : List CaseRun) (expansions : List (Nat × List Nat)) (c : Char) : List Char :=
  match expansions.find? (·.1 = c.toNat) with
  | some (_, image) => image.map Char.ofNat
  | none =>
    match runs.find? (·.covers c.toNat) with
    | some run => [Char.ofNat (run.image c.toNat)]
    | none => [c]

/-- The lower-case form of one character. -/
def lowerChar (c : Char) : List Char := mapChar lowerRuns lowerExpansions c

/-- The upper-case form of one character. -/
def upperChar (c : Char) : List Char := mapChar upperRuns upperExpansions c

def isBlank (c : Char) : Bool := Property.whiteSpace.contains c.toNat

/-- Whether the nearest character that counts is a letter with case. -/
def meetsCased (text : List Char) : Bool := ((text.dropWhile isCaseIgnorable).head?.map isCased).getD false

/-- Whether a character between two texts stands at the end of a word; the text before is given from its end. -/
def endsWord (before after : List Char) : Bool := meetsCased before && !meetsCased after

/-- Lower case of a text, given the text before it from its end. -/
def lowerFrom (before : List Char) : List Char → List Char
  | [] => []
  | c :: rest =>
    let image :=
      if c = 'Σ' then [if endsWord before rest then 'ς' else 'σ'] else lowerChar c
    image ++ lowerFrom (c :: before) rest

def toLower (s : String) : String := String.ofList (lowerFrom [] s.toList)

def toUpper (s : String) : String := String.ofList (s.toList.flatMap upperChar)

/-- Drops blanks at the start. -/
def trimStart (s : String) : String := String.ofList (s.toList.dropWhile isBlank)

/-- Drops blanks at the end. -/
def trimEnd (s : String) : String := String.ofList (s.toList.reverse.dropWhile isBlank).reverse

/-- Drops blanks at both ends. -/
def trim (s : String) : String := trimEnd (trimStart s)

/-- The characters that simple case folding identifies with a code point, itself among them. -/
def foldClass (n : Nat) : List Nat :=
  let folded := match foldRuns.find? (·.covers n) with
    | some run => run.image n
    | none => n
  folded :: foldRuns.filterMap (·.preimage? folded)

/-- The code points that simple case folding changes, with what it makes of them. -/
def foldPairs : List (Nat × Nat) := foldRuns.flatMap CaseRun.pairs

end DocumentQuery.Text
