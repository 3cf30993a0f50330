import DocumentQuery.BuiltinEngine.Property
import DocumentQuery.BuiltinEngine.Regex
import DocumentQuery.BuiltinEngine.Scan

/-!
# Flags, characters and escapes of patterns

What the flags of a pattern say (`Flags`), and the smallest parts of a pattern (`Atom`): a character, a
condition on a position, or a set of characters. `readEscape` reads what follows a backslash.
-/

namespace DocumentQuery.BuiltinEngine

/-- What the flags of a pattern say. -/
structure Flags where
  ignoreCase : Bool := false
  multiLine : Bool := false
  dotAll : Bool := false
  /-- Classes and boundaries know all scripts, not only ASCII. -/
  allScripts : Bool := true
  crlf : Bool := false
  /-- Blanks and comments may stand between the parts of the pattern. -/
  free : Bool := false
deriving DecidableEq, Repr

namespace Flags

/-- Sets or clears the flag of a letter. Laziness does not change what matches, so its letter has no effect. -/
def set (f : Flags) (letter : Char) (on : Bool) : Flags :=
  match letter with
  | 'i' => { f with ignoreCase := on }
  | 'm' => { f with multiLine := on }
  | 's' => { f with dotAll := on }
  | 'u' => { f with allScripts := on }
  | 'R' => { f with crlf := on }
  | 'x' => { f with free := on }
  | _ => f

/-- The letters of flags. -/
def letters : List Char := ['i', 'm', 's', 'U', 'u', 'R', 'x']

/-- Reads flags up to a colon or a closing parenthesis. No flag may be named twice, there is at most one minus,
and it is followed by a flag. The answer is the new flags, whether any was named, and the closing sign. -/
def read (f : Flags) (seen : List Char) (on dangling : Bool) :
    List Char → Option (Flags × Bool × Char × List Char)
  | [] => none
  | c :: rest =>
    if c = ':' ∨ c = ')' then if dangling then none else some (f, seen ≠ [], c, rest)
    else if seen.contains c then none
    else if c = '-' then read f (c :: seen) false true rest
    else if letters.contains c then read (f.set c on) (c :: seen) on false rest
    else none

/-- A set with the case variants that the flags ask for. -/
def foldCase (f : Flags) (s : CharSet) : CharSet :=
  if f.ignoreCase then if f.allScripts then .folded s else .foldedAscii s else s

/-- A set or its complement. The complement of a set of bytes would hold bytes outside ASCII. -/
def negate? (f : Flags) (negated : Bool) (s : CharSet) : Option CharSet :=
  if negated then if f.allScripts then some (.compl s) else none else some s

end Flags

/-- One part of a pattern: a character, a condition, or a set. -/
inductive Atom where
  /-- `byte` marks a character that is written as the value of a byte. -/
  | char (c : Char) (byte : Bool)
  | look (l : Look)
  | set (s : CharSet)

/-- Characters with a meaning of their own in patterns. -/
def isMeta (c : Char) : Bool := "\\.+*?()|[]\x7b\x7d^$#&-~".toList.contains c

/-- Characters that a backslash turns into themselves: the signs and blanks of ASCII. -/
def isEscapable (c : Char) : Bool :=
  isMeta c || (c.toNat < 0x80 && !c.isAlphanum && c ≠ '<' && c ≠ '>')

/-- Digits, blanks and word characters by their letter; a capital stands for the complement. -/
def readShorthand? (f : Flags) (letter : Char) : Option CharSet :=
  let base := match letter.toLower with
    | 'd' => if f.allScripts then CharSet.digit else CharSet.asciiDigit
    | 's' => if f.allScripts then CharSet.blank else CharSet.asciiBlank
    | _ => if f.allScripts then CharSet.word else CharSet.asciiWord
  f.negate? letter.isUpper base

/-- Splits a text at the first occurrence of a sign. -/
def splitAtFirst (sign text : List Char) : Option (List Char × List Char) :=
  match text with
  | [] => none
  | c :: rest =>
    if sign.isPrefixOf (c :: rest) then some ([], (c :: rest).drop sign.length)
    else (splitAtFirst sign rest).map fun p => (c :: p.1, p.2)

/-- What the name of a property calls for: a set, and whether its complement is meant. -/
structure NamedSet where
  set : CharSet
  negated : Bool := false

/-- The property of a name, or of a name and a value; a value after `!=` asks for the other characters. -/
def NamedSet.ofText? (name : List Char) : Option NamedSet :=
  match splitAtFirst ['!', '='] name with
  | some (property, value) => (CharSet.valued? property value).map fun s => ⟨s, true⟩
  | none =>
    match (splitAtFirst [':'] name).or (splitAtFirst ['='] name) with
    | some (property, value) => (CharSet.valued? property value).map fun s => ⟨s, false⟩
    | none => (CharSet.named? name).map fun s => ⟨s, false⟩

/-- A property after `\p` or `\P`: one letter, or a name in braces. -/
def readProperty (f : Flags) (negated : Bool) (text : List Char) : Option (CharSet × List Char) :=
  let named : Option (List Char × List Char) :=
    match advance f.free text with
    | '{' :: rest =>
      match collectWhile f.free (· ≠ '}') rest with
      | (name, '}' :: left) => some (name, left)
      | _ => none
    | c :: rest => if c = '\\' then none else some ([c], advance f.free rest)
    | [] => none
  if f.allScripts then do
    let (name, left) ← named
    let p ← NamedSet.ofText? name
    let s ← f.negate? (negated != p.negated) (f.foldCase p.set)
    return (s, left)
  else none

/-- The condition written by a backslash, `b` and a name in braces. -/
def boundary? (ascii : Bool) (name : String) : Option Look :=
  match name with
  | "start" => some (.wordStart ascii)
  | "end" => some (.wordEnd ascii)
  | "start-half" => some (.wordStartHalf ascii)
  | "end-half" => some (.wordEndHalf ascii)
  | _ => none

/-- A word boundary, after its letter: a name in braces refines it; braces that hold anything else belong to a
repetition. -/
def readBoundary (f : Flags) (text : List Char) : Option (Atom × List Char) :=
  let isNameChar (c : Char) : Bool := c.isAlpha || c = '-'
  let plain : Option (Atom × List Char) := some (.look (.wordBoundary !f.allScripts), text)
  match text with
  | '{' :: rest =>
    match collectWhile f.free isNameChar rest with
    | (_, []) => none
    | ([], _) => plain
    | (name, '}' :: left) => (boundary? (!f.allScripts) (String.ofList name)).map fun l => (.look l, left)
    | _ => none
  | _ => plain

/-- What follows a backslash. -/
def readEscape (f : Flags) : List Char → Option (Atom × List Char)
  | [] => none
  | c :: rest =>
    let char (c : Char) : Option (Atom × List Char) := some (.char c false, rest)
    let look (l : Look) : Option (Atom × List Char) := some (.look l, rest)
    let hex (digits : Nat) : Option (Atom × List Char) :=
      (readHex f.free digits rest).map fun (c, braced, left) => (.char c (digits = 2 && !braced), left)
    if isEscapable c then char c
    else
      match c with
      | 'x' => hex 2
      | 'u' => hex 4
      | 'U' => hex 8
      | 'p' | 'P' => (readProperty f (c = 'P') rest).map fun (s, left) => (.set s, left)
      | 'd' | 'D' | 's' | 'S' | 'w' | 'W' => (readShorthand? f c).map fun s => (.set s, rest)
      | 'a' => char '\x07'
      | 'f' => char '\x0c'
      | 't' => char '\t'
      | 'n' => char '\n'
      | 'r' => char '\r'
      | 'v' => char '\x0b'
      | 'A' => look .textStart
      | 'z' => look .textEnd
      | 'b' => readBoundary f rest
      | 'B' => look (.noWordBoundary !f.allScripts)
      | '<' => look (.wordStart !f.allScripts)
      | '>' => look (.wordEnd !f.allScripts)
      | _ => none

end DocumentQuery.BuiltinEngine
