import DocumentQuery.Text.Ranges
import DocumentQuery.Text.Case

/-!
# Reading the text of a pattern

The smallest steps of reading a pattern: passing over blanks and comments where the pattern lets them be
written freely (`free`), collecting characters, and reading numbers. Every step gives what is left to read.
-/

namespace DocumentQuery.BuiltinEngine

/-- Collects the characters that are kept, in order, and passes over blanks and comments between them if
`free`; `count` characters have been taken before, and `comment` says whether the text stands in a comment. -/
def collect (free : Bool) (keep : Nat → Char → Bool) (count : Nat) (comment : Bool) :
    List Char → List Char × List Char
  | [] => ([], [])
  | c :: rest =>
    if comment then collect free keep count (c ≠ '\n') rest
    else if free && Text.isBlank c then collect free keep count false rest
    else if free && c = '#' then collect free keep count true rest
    else if keep count c then
      let (taken, left) := collect free keep (count + 1) false rest
      (c :: taken, left)
    else ([], c :: rest)

/-- Passes over blanks and comments if `free`. -/
def advance (free : Bool) (text : List Char) : List Char :=
  (collect free (fun _ _ => false) 0 false text).2

/-- Collects while a test holds. -/
def collectWhile (free : Bool) (test : Char → Bool) (text : List Char) : List Char × List Char :=
  collect free (fun _ => test) 0 false text

/-- Collects a number of characters. -/
def collectCount (free : Bool) (n : Nat) (text : List Char) : List Char × List Char :=
  collect free (fun count _ => count < n) 0 false text

/-- The character that a reader expects next, past anything that may stand between; a comment sign hides only
the blanks after it. -/
def peekPast (free : Bool) (text : List Char) : Option Char :=
  if free then
    match text.dropWhile Text.isBlank with
    | '#' :: rest => (rest.dropWhile Text.isBlank).head?.or text.head?
    | c :: _ => some c
    | [] => text.head?
  else text.head?

/-- A decimal number, with blanks around it; none if there is no digit. -/
def readDecimal (free : Bool) (text : List Char) : Option Nat × List Char :=
  let (digits, rest) := collectWhile free Char.isDigit (text.dropWhile Text.isBlank)
  let left := rest.dropWhile Text.isBlank
  (if digits = [] then none else some (digits.foldl (fun n c => 10 * n + (c.toNat - '0'.toNat)) 0), left)

/-- Counts of repetitions and code points are 32-bit words. -/
def isWord32 (n : Nat) : Bool := n < UInt32.size

def isHexDigit (c : Char) : Bool :=
  c.isDigit || ('a' ≤ c && c ≤ 'f') || ('A' ≤ c && c ≤ 'F')

/-- The character with a code point, if there is one. -/
def charOf? (n : Nat) : Option Char := if n.isValidChar then some (Char.ofNat n) else none

/-- A code point in hexadecimal digits: a fixed number of them, or any number in braces. -/
def readHex (free : Bool) (digits : Nat) (text : List Char) : Option (Char × Bool × List Char) :=
  match advance free text with
  | '{' :: rest =>
    match collectWhile free (· ≠ '}') rest with
    | (ds, '}' :: left) =>
      if ds ≠ [] ∧ ds.all isHexDigit then (charOf? (Text.hexValue ds)).map fun c => (c, true, left)
      else none
    | _ => none
  | start =>
    match collectCount free digits start with
    | (ds, left) =>
      if ds.length = digits ∧ ds.all isHexDigit then
        (charOf? (Text.hexValue ds)).map fun c => (c, false, left)
      else none

end DocumentQuery.BuiltinEngine
