import DocumentQuery.BuiltinEngine.Atom

/-!
# Character classes of patterns

A class in brackets lists characters, ranges, escapes, named ASCII classes and further classes, and combines
sets by intersection (`&&`), difference (`--`) and symmetric difference (`~~`), all from the left. Reading is
one loop with the open brackets and pending operations on a stack.
-/

namespace DocumentQuery.BuiltinEngine

/-- The members of a class collected so far, how deep they nest, and how many they are. -/
structure Members where
  set : CharSet := .empty
  depth : Nat := 0
  count : Nat := 0

namespace Members

def add (m : Members) (s : CharSet) (depth : Nat) : Members :=
  { set := if m.count = 0 then s else .union m.set s
    depth := max m.depth depth
    count := m.count + 1 }

/-- The nesting depth of the members as one set. -/
def depthAsSet (m : Members) : Nat := if m.count ≤ 1 then m.depth else m.depth + 1

end Members

/-- An operation between two sets of a class. -/
inductive ClassOp where
  | inter | minus | differ
deriving DecidableEq, Repr

/-- What stands before the members being read: an open bracket with the members around it, or the left operand
of an operation. -/
inductive ClassFrame where
  | bracket (outer : Members) (negated : Bool)
  | operand (op : ClassOp) (left : CharSet) (depth : Nat)

/-- The set of an operation on two sets. -/
def ClassOp.apply (f : Flags) (op : ClassOp) (a b : CharSet) : CharSet :=
  let x := f.foldCase a
  let y := f.foldCase b
  match op with
  | inter => .inter x y
  | minus => .minus x y
  | differ => .differ x y

/-- The members as one set, with the operation before them if there is one. -/
def closeOperand (f : Flags) (stack : List ClassFrame) (m : Members) :
    List ClassFrame × CharSet × Nat :=
  match stack with
  | .operand op left depth :: rest => (rest, op.apply f left m.set, max depth m.depthAsSet + 1)
  | _ => (stack, m.set, m.depthAsSet)

/-- The character of a class member. Without all scripts it must be one of ASCII. -/
def classChar? (f : Flags) : Atom → Option Char
  | .char c _ => if f.allScripts || c.toNat < 0x80 then some c else none
  | _ => none

def classSet? (f : Flags) : Atom → Option CharSet
  | .set s => some s
  | a => (classChar? f a).map CharSet.single

/-- One character or escape of a class. -/
def readMember (f : Flags) : List Char → Option (Atom × List Char)
  | '\\' :: rest => readEscape f rest
  | c :: rest => some (.char c false, rest)
  | [] => none

/-- A member of a class or a range of characters. A minus before a closing bracket or another minus makes no
range. -/
def readRange (f : Flags) (text : List Char) : Option (CharSet × List Char) := do
  let (first, rest) ← readMember f text
  match advance f.free rest with
  | [] => none
  | '-' :: after =>
    let next := peekPast f.free after
    if next = some ']' ∨ next = some '-' then
      return (← classSet? f first, '-' :: after)
    else
      let (last, left) ← readMember f (advance f.free after)
      let a ← classChar? f first
      let b ← classChar? f last
      if a ≤ b then return (.range a b, left) else none
  | other => return (← classSet? f first, other)

/-- A named class of ASCII characters such as `[:alpha:]`, after its first bracket. -/
def readAsciiClass (f : Flags) : List Char → Option (CharSet × List Char)
  | ':' :: text =>
    let (negated, body) := match text with
      | '^' :: rest => (true, rest)
      | _ => (false, text)
    match splitAtFirst [':', ']'] body with
    | some (name, left) =>
      if name.contains ':' then none
      else (CharSet.asciiClass? (String.ofList name)).map fun s =>
        (if negated then .compl (f.foldCase s) else f.foldCase s, left)
    | none => none
  | _ => none

/-- A named class that is a complement holds bytes outside ASCII. -/
def isNegatedAsciiClass : List Char → Bool
  | ':' :: '^' :: _ => true
  | _ => false

/-- The start of a class, after its bracket: a complement sign, then minus signs or a closing bracket that are
members. -/
def openClass (f : Flags) (text : List Char) : Option (Bool × Members × List Char) :=
  let start := advance f.free text
  let (negated, body) := match start with
    | '^' :: rest => (true, advance f.free rest)
    | _ => (false, start)
  let (minuses, rest) := collectWhile f.free (· = '-') body
  let members := minuses.foldl (fun m c => m.add (.single c) 0) {}
  match rest with
  | [] => none
  | ']' :: after =>
    if minuses = [] then
      match advance f.free after with
      | [] => none
      | left => some (negated, members.add (.single ']') 0, left)
    else some (negated, members, rest)
  | _ => some (negated, members, rest)

/-- The operation that starts here. -/
def readClassOp : List Char → Option (ClassOp × List Char)
  | '&' :: '&' :: rest => some (.inter, rest)
  | '-' :: '-' :: rest => some (.minus, rest)
  | '~' :: '~' :: rest => some (.differ, rest)
  | _ => none

/-- Reads the members of a class up to the bracket that closes the outermost one. -/
def readMembers (f : Flags) (fuel : Nat) (stack : List ClassFrame) (m : Members) (text : List Char) :
    Option (CharSet × Nat × List Char) :=
  match fuel with
  | 0 => none
  | fuel + 1 =>
    match advance f.free text with
    | [] => none
    | ']' :: rest =>
      match closeOperand f stack m with
      | (.bracket outer negated :: below, s, depth) => do
        let s ← f.negate? negated (f.foldCase s)
        if below.isEmpty then return (s, depth + 1, rest)
        else readMembers f fuel below (outer.add s (depth + 1)) rest
      | _ => none
    | '[' :: rest =>
      match readAsciiClass f rest with
      | some (s, left) =>
        if !f.allScripts && isNegatedAsciiClass rest then none
        else readMembers f fuel stack (m.add s 0) left
      | none => do
        let (negated, members, left) ← openClass f rest
        readMembers f fuel (.bracket m negated :: stack) members left
    | start =>
      match readClassOp start with
      | some (op, rest) =>
        let (below, s, depth) := closeOperand f stack m
        readMembers f fuel (.operand op s depth :: below) {} rest
      | none => do
        let (s, left) ← readRange f start
        readMembers f fuel stack (m.add s 0) left

end DocumentQuery.BuiltinEngine
