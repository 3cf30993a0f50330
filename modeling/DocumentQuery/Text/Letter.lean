import DocumentQuery.Text.Category
import DocumentQuery.Text.Property

/-!
# Letters and numbers

What letter case and names ask of a character. The answers follow edition 17 of the character standard: the
tables of edition 16 (`Category`, `Property`) with the code points that edition 17 adds and the one that it
takes away. Patterns follow edition 16.
-/

namespace DocumentQuery.Text

namespace Letter

def newAlphabetic : Ranges := Ranges.read "
  88f c5c cdc a7ce-a7cf a7d2 a7d4 a7f1 10940-10959 10ec5-10ec7 10efa-10efb 11b60-11b67 11db0-11ddb
  16ea0-16eb8 16ebb-16ed3 16ff2-16ff6 187f8-187ff 18d09-18d1e 18d80-18df2 1e6c0-1e6de 1e6e0-1e6f5
  1e6fe-1e6ff 2b73a-2b73f 2cea2-2cead 323b0-33479"

def newNumbers : Ranges := Ranges.read "
  11de0-11de9 16ff4-16ff6"

def newCased : Ranges := Ranges.read "
  a7ce-a7cf a7d2 a7d4 a7f1 16ea0-16eb8 16ebb-16ed3"

def newCaseIgnorable : Ranges := Ranges.read "
  1acf-1add 1ae0-1aeb a7f1 10ec5 10efa-10efb 11b60 11b62-11b64 11b66 11dd9 16ff2-16ff3 1e6e3 1e6e6
  1e6ee-1e6ef 1e6f5 1e6ff"

/-- The letter that lost its case. -/
def noLongerCased : Nat := 0x295

end Letter

def isAlphabetic (c : Char) : Bool :=
  Property.alphabetic.contains c.toNat || Letter.newAlphabetic.contains c.toNat

/-- Digits and other characters with a numeric value. -/
def isNumeric (c : Char) : Bool :=
  [Category.decimalNumber, Category.letterNumber, Category.otherNumber, Letter.newNumbers].any
    (·.contains c.toNat)

/-- Letters that are small, capital or in title case, or that stand for such letters. -/
def isCased (c : Char) : Bool :=
  c.toNat ≠ Letter.noLongerCased && (Property.cased.contains c.toNat || Letter.newCased.contains c.toNat)

/-- Characters that do not count when a word's neighbours are looked at, such as accents and apostrophes. -/
def isCaseIgnorable (c : Char) : Bool :=
  Property.caseIgnorable.contains c.toNat || Letter.newCaseIgnorable.contains c.toNat

end DocumentQuery.Text
