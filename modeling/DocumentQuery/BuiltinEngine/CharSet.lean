import DocumentQuery.Text.Case

/-!
# Sets of characters

What one place of a pattern accepts: ranges of code points, tables of character properties, and their
combinations. `CharSet.folded` adds to a set the characters that differ from its members only by case.
-/

namespace DocumentQuery.BuiltinEngine

open Text (Ranges)

/-- A set of code points. -/
inductive CharSet where
  | table (ranges : Ranges)
  | union (a b : CharSet)
  | inter (a b : CharSet)
  | minus (a b : CharSet)
  | differ (a b : CharSet)
  | compl (a : CharSet)
  /-- With everything that simple case folding identifies with a member. -/
  | folded (a : CharSet)
  /-- With the other case of every member that is a letter of ASCII. -/
  | foldedAscii (a : CharSet)
deriving Repr, Inhabited

namespace CharSet

def isAsciiLetter (n : Nat) : Bool := (0x41 ≤ n && n ≤ 0x5a) || (0x61 ≤ n && n ≤ 0x7a)

/-- The other case of a letter of ASCII. -/
def otherCase (n : Nat) : Nat := if n ≤ 0x5a then n + 0x20 else n - 0x20

def contains : CharSet → Nat → Bool
  | table ranges, n => Ranges.contains ranges n
  | union a b, n => a.contains n || b.contains n
  | inter a b, n => a.contains n && b.contains n
  | minus a b, n => a.contains n && !b.contains n
  | differ a b, n => a.contains n != b.contains n
  | compl a, n => !a.contains n
  | folded a, n => (Text.foldClass n).any a.contains
  | foldedAscii a, n => a.contains n || (isAsciiLetter n && a.contains (otherCase n))

def empty : CharSet := table []

def range (first last : Char) : CharSet := table [(first.toNat, last.toNat)]

def single (c : Char) : CharSet := range c c

/-- Every character. -/
def any : CharSet := compl empty

def ofTables (tables : List Ranges) : CharSet := tables.foldl (fun s t => s.union (table t)) empty

@[simp] theorem contains_empty (n : Nat) : empty.contains n = false := rfl

@[simp] theorem contains_any (n : Nat) : any.contains n = true := rfl

theorem contains_single (c d : Char) : (single c).contains d.toNat = true ↔ d = c := by
  simp only [single, range, contains, Ranges.contains, Bool.or_false, Bool.and_eq_true, decide_eq_true_eq]
  constructor
  · intro h
    exact Char.toNat_inj.1 (Nat.le_antisymm h.2 h.1)
  · rintro rfl
    exact ⟨Nat.le_refl _, Nat.le_refl _⟩

/-- Decimal digits of all scripts. -/
def digit : CharSet := table Text.Category.decimalNumber

def blank : CharSet := table Text.Property.whiteSpace

/-- Letters, marks, digits, connectors and joiners of all scripts. -/
def word : CharSet := ofTables [
  Text.Property.alphabetic, Text.Category.nonspacingMark, Text.Category.spacingMark,
  Text.Category.enclosingMark, Text.Category.decimalNumber, Text.Category.connectorPunctuation,
  Text.Property.joinControl]

def asciiDigit : CharSet := range '0' '9'

def asciiBlank : CharSet := table [(9, 13), (32, 32)]

def asciiWord : CharSet := table [(0x30, 0x39), (0x41, 0x5a), (0x5f, 0x5f), (0x61, 0x7a)]

/-- The named classes of ASCII characters. -/
def asciiClasses : List (String × Ranges) := [
  ("alnum", [(0x30, 0x39), (0x41, 0x5a), (0x61, 0x7a)]),
  ("alpha", [(0x41, 0x5a), (0x61, 0x7a)]),
  ("ascii", [(0, 0x7f)]),
  ("blank", [(9, 9), (32, 32)]),
  ("cntrl", [(0, 0x1f), (0x7f, 0x7f)]),
  ("digit", [(0x30, 0x39)]),
  ("graph", [(0x21, 0x7e)]),
  ("lower", [(0x61, 0x7a)]),
  ("print", [(0x20, 0x7e)]),
  ("punct", [(0x21, 0x2f), (0x3a, 0x40), (0x5b, 0x60), (0x7b, 0x7e)]),
  ("space", [(9, 13), (32, 32)]),
  ("upper", [(0x41, 0x5a)]),
  ("word", [(0x30, 0x39), (0x41, 0x5a), (0x5f, 0x5f), (0x61, 0x7a)]),
  ("xdigit", [(0x30, 0x39), (0x41, 0x46), (0x61, 0x66)])]

def asciiClass? (name : String) : Option CharSet :=
  (asciiClasses.find? (·.1 = name)).map fun e => table e.2

end CharSet

end DocumentQuery.BuiltinEngine
