import DocumentQuery.BuiltinEngine.Class

/-!
# From the text of a pattern to its regular expression

`read?` reads a pattern. Flags written in a pattern hold to the end of the group they stand in, and a
group restores those of its surroundings. Reading is one loop over the text with the open groups on a stack.
A pattern is refused if it is not well formed, if it nests deeper than `nestLimit`, or if it asks for single
bytes outside ASCII.
-/

namespace DocumentQuery.BuiltinEngine

/-- A part of a pattern and how deep it nests. -/
structure Piece where
  regex : Regex
  depth : Nat

/-- What stands in a branch: a part, or flags, which match nothing and cannot be repeated. -/
inductive Item where
  | part (p : Piece)
  | flags

namespace Item

def piece : Item → Piece
  | part p => p
  | flags => ⟨.empty, 0⟩

end Item

/-- The greatest depth of some parts. -/
def deepest (ps : List Piece) : Nat := ps.foldl (fun d p => max d p.depth) 0

/-- Parts one after the other; two or more nest once deeper. -/
def Piece.sequence (ps : List Piece) : Piece :=
  ⟨Regex.sequence (ps.map Piece.regex), if ps.length ≤ 1 then deepest ps else deepest ps + 1⟩

/-- Parts to choose from; two or more nest once deeper. -/
def Piece.choice (ps : List Piece) : Piece :=
  ⟨Regex.choice (ps.map Piece.regex), if ps.length ≤ 1 then deepest ps else deepest ps + 1⟩

/-- What has been read of a group: the finished branches and the items of the open one, each last first, the
flags in force, and whether its bounds are kept apart. -/
structure Group where
  branches : List Piece := []
  items : List Item := []
  flags : Flags := {}
  bounded : Bool := false

namespace Group

def push (g : Group) (p : Piece) : Group := { g with items := .part p :: g.items }

/-- Ends the open branch. -/
def closeBranch (g : Group) : Group :=
  { g with branches := Piece.sequence (g.items.reverse.map Item.piece) :: g.branches, items := [] }

/-- All branches as one part. -/
def close (g : Group) : Piece := Piece.choice g.closeBranch.branches.reverse

/-- Repeats the last item. -/
def repeatLast (g : Group) (least : Nat) (most : Option Nat) : Option Group :=
  match g.items with
  | .part p :: rest => some { g with items := .part ⟨p.regex.ofRepetition least most, p.depth + 1⟩ :: rest }
  | _ => none

end Group

/-- The state of reading: the open groups around the current one, innermost first, the current one, and the
names of groups. -/
structure Reading where
  outer : List Group := []
  group : Group := {}
  names : List (List Char) := []

namespace Reading

def push (r : Reading) (p : Piece) : Reading := { r with group := r.group.push p }

/-- Opens a group under some flags. -/
def openGroup (r : Reading) (flags : Flags) (bounded : Bool) : Reading :=
  { r with outer := r.group :: r.outer, group := { flags, bounded } }

def closeGroup (r : Reading) : Option Reading :=
  match r.outer with
  | [] => none
  | outer :: rest =>
    let p := r.group.close
    let regex := if r.group.bounded then p.regex.group else p.regex
    some { r with outer := rest, group := outer.push ⟨regex, p.depth + 1⟩ }

end Reading

/-- The regular expression of a character under the flags. -/
def charRegex? (f : Flags) (c : Char) (byte : Bool) : Option Regex :=
  if !f.allScripts && byte && 0x80 ≤ c.toNat then none else some (.chars (f.foldCase (.single c)))

def atomRegex? (f : Flags) : Atom → Option Regex
  | .char c byte => charRegex? f c byte
  | .look l => some (.look l)
  | .set s => some (.chars s)

/-- The dot: every character, or every one that does not end a line. -/
def dot? (f : Flags) : Option Regex :=
  if !f.allScripts then none
  else if f.dotAll then some (.chars .any)
  else if f.crlf then some (.chars (.compl (.union (.single '\r') (.single '\n'))))
  else some (.chars (.compl (.single '\n')))

def lineStart (f : Flags) : Look :=
  if f.multiLine then if f.crlf then .crlfLineStart else .lineStart else .textStart

def lineEnd (f : Flags) : Look :=
  if f.multiLine then if f.crlf then .crlfLineEnd else .lineEnd else .textEnd

/-- Letters, digits and a few signs, not starting with a digit. -/
def isGroupName : List Char → Bool
  | [] => false
  | c :: rest =>
    (c = '_' || Text.isAlphabetic c) &&
      rest.all fun c => "_.[]".toList.contains c || Text.isAlphabetic c || Text.isNumeric c

/-- The name of a group, after its opening sign. -/
def readGroupName (text : List Char) : Option (List Char × List Char) :=
  match splitAtFirst ['>'] text with
  | some (name, rest) => if isGroupName name then some (name, rest) else none
  | none => none

/-- What follows an opening parenthesis: a named group, flags with or without a group, or a plain group. -/
def readGroup (r : Reading) (text : List Char) : Option (Reading × List Char) :=
  let f := r.group.flags
  let named (rest : List Char) : Option (Reading × List Char) := do
    let (name, left) ← readGroupName rest
    if r.names.contains name then none
    else return ({ r.openGroup f true with names := name :: r.names }, left)
  match advance f.free text with
  | '?' :: 'P' :: '<' :: rest => named rest
  | '?' :: '<' :: rest => named rest
  | '?' :: rest =>
    match f.read [] true false rest with
    | some (flags, _, ':', left) => some (r.openGroup flags false, left)
    | some (flags, true, _, left) =>
      some ({ r with group := { r.group with flags, items := .flags :: r.group.items } }, left)
    | _ => none
  | rest => some (r.openGroup f true, rest)

/-- The bounds of a counted repetition, after its opening brace. -/
def readCount (f : Flags) (text : List Char) : Option (Nat × Option Nat × List Char) :=
  match readDecimal f.free (advance f.free text) with
  | (some least, '}' :: rest) => some (least, some least, rest)
  | (some least, ',' :: rest) =>
    match advance f.free rest with
    | '}' :: rest => some (least, none, rest)
    | start =>
      match readDecimal f.free start with
      | (some most, '}' :: rest) => some (least, some most, rest)
      | _ => none
  | _ => none

/-- Passes over the sign of laziness. -/
def skipLazy : List Char → List Char
  | '?' :: rest => rest
  | text => text

/-- A counted repetition, after its opening brace. -/
def readRepetition (r : Reading) (text : List Char) : Option (Reading × List Char) := do
  let (least, most, rest) ← readCount r.group.flags text
  if isWord32 least ∧ most.all isWord32 ∧ most.all (least ≤ ·) then
    let g ← r.group.repeatLast least most
    return ({ r with group := g }, skipLazy (advance r.group.flags.free rest))
  else none

/-- A class, after its bracket. -/
def readClass (r : Reading) (text : List Char) : Option (Reading × List Char) := do
  let f := r.group.flags
  let (negated, members, left) ← openClass f text
  let (s, depth, rest) ← readMembers f (text.length + 1) [.bracket {} negated] members left
  return (r.push ⟨.chars s, depth⟩, rest)

/-- Reads the next item of a pattern. -/
def readItem (r : Reading) : List Char → Option (Reading × List Char)
  | [] => none
  | c :: rest =>
    let f := r.group.flags
    let part (regex : Option Regex) (left : List Char) : Option (Reading × List Char) :=
      regex.map fun x => (r.push ⟨x, 0⟩, left)
    let repetition (least : Nat) (most : Option Nat) : Option (Reading × List Char) :=
      (r.group.repeatLast least most).map fun g => ({ r with group := g }, skipLazy rest)
    match c with
    | '(' => readGroup r rest
    | ')' => r.closeGroup.map fun r => (r, rest)
    | '|' => some ({ r with group := r.group.closeBranch }, rest)
    | '[' => readClass r rest
    | '?' => repetition 0 (some 1)
    | '*' => repetition 0 none
    | '+' => repetition 1 none
    | '{' => readRepetition r rest
    | '.' => part (dot? f) rest
    | '^' => part (some (.look (lineStart f))) rest
    | '$' => part (some (.look (lineEnd f))) rest
    | '\\' => (readEscape f rest).bind fun (a, left) => part (atomRegex? f a) left
    | c => part (charRegex? f c false) rest

/-- Reads to the end of the text; every item takes up a character at least. -/
def readItems (fuel : Nat) (r : Reading) (text : List Char) : Option Reading :=
  match fuel, advance r.group.flags.free text with
  | _, [] => some r
  | 0, _ :: _ => none
  | fuel + 1, start => (readItem r start).bind fun (r, rest) => readItems fuel r rest

/-- How deep a pattern may nest. -/
def nestLimit : Nat := 250

/-- The regular expression of a pattern, if it is well formed. -/
def read? (pattern : String) : Option Regex := do
  let text := pattern.toList
  let r ← readItems text.length {} text
  let p := r.group.close
  if r.outer.isEmpty ∧ p.depth ≤ nestLimit then return p.regex else none

end DocumentQuery.BuiltinEngine
