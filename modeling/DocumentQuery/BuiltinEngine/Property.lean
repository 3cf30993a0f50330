import DocumentQuery.BuiltinEngine.Break
import DocumentQuery.Text.Age
import DocumentQuery.Text.Script

/-!
# Properties in patterns

The sets that patterns call by the names of character properties: a name alone (`CharSet.named?`), or a
property that has many values together with one of them (`CharSet.valued?`). Names are compared without regard
to case and separators.
-/

namespace DocumentQuery.BuiltinEngine

open Text (Ranges)

/-- A property name as it is compared: without an `is` in front, without separators, in small letters. The
one name that the first rule would spoil is kept. -/
def propertyName (name : List Char) : String :=
  let hasIs := (name.take 2).map Char.toLower = ['i', 's']
  let kept := (if hasIs then name.drop 2 else name).filter fun c =>
    c.toNat < 0x80 && c ≠ ' ' && c ≠ '_' && c ≠ '-'
  let lower := kept.map Char.toLower
  String.ofList (if hasIs ∧ lower = ['c'] then ['i', 's', 'c'] else lower)

namespace CharSet

def property? (name : String) : Option CharSet := (Text.Property.find? name).map table

def category? (name : String) : Option CharSet :=
  if name = "any" then some any
  else if name = "ascii" then some (table [(0, 0x7f)])
  else if name = "assigned" then some (compl (table Text.Category.unassigned))
  else (Text.Category.find? name).map ofTables

def script? (name : String) : Option CharSet := (Text.Script.find? name).map table

/-- The characters that a script uses, shared ones included. The residual scripts keep those that no script
uses. -/
def scriptUse? (name : String) : Option CharSet := do
  let own ← script? name
  let code ← Text.Script.shortName? name
  if Text.Script.residual.contains code then return own.minus (ofTables Text.Script.allShared)
  else return own.union (table (Text.Script.sharedBy code))

/-- The set that a name stands for: a property, a general category or a script, in this order. -/
def named? (name : List Char) : Option CharSet :=
  let wanted := propertyName name
  ((property? wanted).or (category? wanted)).or (script? wanted)

/-- The set of the characters with a value of a property that has many. -/
def valued? (property value : List Char) : Option CharSet :=
  let wanted := propertyName value
  match propertyName property with
  | "gc" | "generalcategory" => category? wanted
  | "sc" | "script" => script? wanted
  | "scx" | "scriptextensions" => scriptUse? wanted
  | "age" => (Text.Age.upTo? wanted).map ofTables
  | "gcb" | "graphemeclusterbreak" => Break.grapheme.find? wanted
  | "wb" | "wordbreak" => Break.word.find? wanted
  | "sb" | "sentencebreak" => Break.sentence.find? wanted
  | _ => none

end CharSet

end DocumentQuery.BuiltinEngine
