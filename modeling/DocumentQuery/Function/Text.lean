import DocumentQuery.Function.Operand
import DocumentQuery.Pattern.Compile

/-!
# Strings and byte strings

Lengths and positions count characters of a string and bytes of a byte string. Case, trimming and patterns
are for strings only; concatenation also joins arrays.
-/

namespace DocumentQuery.StringFunction

/-- The texts of all operands, one after the other. -/
def concatTexts : List Value → Except Cause String
  | [] => .ok ""
  | .string s :: rest => (concatTexts rest).map (s ++ ·)
  | v :: _ => .error (.typeMismatch .string v.kind)

def concatBytes : List Value → Except Cause (List UInt8)
  | [] => .ok []
  | .bytes b :: rest => (concatBytes rest).map (b ++ ·)
  | v :: _ => .error (.typeMismatch .bytes v.kind)

def concatArrays : List Value → Except Cause (List Value)
  | [] => .ok []
  | .array items :: rest => (concatArrays rest).map (items ++ ·)
  | v :: _ => .error (.typeMismatch .array v.kind)

/-- All operands one after the other; the first one says what kind they must be. -/
def concatenated : List Value → Except Cause Value
  | [] => wrongCount []
  | .string s :: rest => (concatTexts (.string s :: rest)).map .string
  | .bytes b :: rest => (concatBytes (.bytes b :: rest)).map .bytes
  | .array items :: rest => (concatArrays (.array items :: rest)).map .array
  | v :: _ => .error (.typeMismatch .stringBytesOrArray v.kind)

/-- Where a piece of a sequence starts and ends. A negative position counts from the end; both ends are kept
inside the sequence. -/
def span (size : Nat) (position : Int64) (length : Option Int64) : Except Cause (Nat × Nat) :=
  let start := if position.toInt < 0 then (size + position.toInt).toNat else min position.toInt.toNat size
  match length with
  | none => .ok (start, size)
  | some l =>
    if l.toInt < 0 then .error (.invalidArgument (.negativeLength l))
    else .ok (start, min (start + l.toInt.toNat) size)

/-- The items between two positions. -/
def cut {α : Type} (items : List α) (ends : Nat × Nat) : List α :=
  (items.drop ends.1).take (ends.2 - ends.1)

/-- A piece of a string or byte string. -/
def piece (text position : Value) (length : Option Value) : Except Cause Value := do
  let p ← position.toInteger
  let l ← length.mapM Value.toInteger
  match text with
  | .string s =>
    let cs := s.toList
    let ends ← span cs.length p l
    return .string (String.ofList (cut cs ends))
  | .bytes b =>
    let ends ← span b.length p l
    return .bytes (cut b ends)
  | v => .error (.typeMismatch .stringOrBytes v.kind)

/-- A function of a string's text. -/
def mapText (op : String → String) (v : Value) : Except Cause Outcome :=
  v.toText.map fun s => .value (.string (op s))

/-- A question about two strings. -/
def test (op : List Char → List Char → Bool) (a b : Value) : Except Cause Outcome := do
  let s ← a.toText
  let t ← b.toText
  return .boolean (op s.toList t.toList)

/-- Whether a text occurs in another one. -/
def occurs (needle : List Char) : List Char → Bool
  | [] => needle = []
  | c :: rest => needle.isPrefixOf (c :: rest) || occurs needle rest

/-- Whether a string matches a pattern in some form. -/
def matched (limits : Limits) (form : String → String) (a b : Value) : Except Cause Outcome := do
  let s ← a.toText
  let pattern ← b.toText
  match Pattern.compile limits form pattern with
  | .ok isMatch => return .boolean (isMatch s)
  | .error fault => .error (.invalidPattern fault)

def size (v : Value) : Except Cause Nat :=
  match v with
  | .string s => .ok s.utf8ByteSize
  | .bytes b => .ok b.length
  | v => .error (.typeMismatch .stringOrBytes v.kind)

def reversed (v : Value) : Except Cause Value :=
  match v with
  | .string s => .ok (.string (String.ofList s.toList.reverse))
  | .bytes b => .ok (.bytes b.reverse)
  | v => .error (.typeMismatch .stringOrBytes v.kind)

def count (n : Except Cause Nat) : Except Cause Outcome :=
  n.map fun n => .value (.integer (Int64.ofNat n))

def apply (limits : Limits) : StringFunction → List Value → Except Cause Outcome
  | concat, args => (concatenated args).map .value
  | byteLength, [a] => count (size a)
  | charLength, [a] => count (a.toText.map String.length)
  | toLower, [a] => mapText Text.toLower a
  | toUpper, [a] => mapText Text.toUpper a
  | trim, [a] => mapText Text.trim a
  | trimStart, [a] => mapText Text.trimStart a
  | trimEnd, [a] => mapText Text.trimEnd a
  | like, [a, b] => matched limits (@Pattern.ofWildcards limits.engine) a b
  | regexMatch, [a, b] => matched limits Pattern.anchored a b
  | regexContains, [a, b] => matched limits id a b
  | startsWith, [a, b] => test (fun s t => t.isPrefixOf s) a b
  | endsWith, [a, b] => test (fun s t => t.isSuffixOf s) a b
  | contains, [a, b] => test (fun s t => occurs t s) a b
  | substring, [a, b] => (piece a b none).map .value
  | substring, [a, b, c] => (piece a b (some c)).map .value
  | reverse, [a] => (reversed a).map .value
  | _, args => wrongCount args

end DocumentQuery.StringFunction
