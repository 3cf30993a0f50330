import DocumentQuery.BuiltinEngine.Regex
import DocumentQuery.Text.ByteSequence

/-!
# Sizes of compiled patterns

A pattern is compiled to two automata over the bytes of a text, one that reads forward and one that reads
backward, with every repetition written out. `Regex.compiledSize` is the number of bytes that the larger one
takes; a text that is the only one to match is looked for without an automaton. Sets of characters are the costly
parts: forward, the byte sequences of the members share what they have in common at their ends, and backward what
they have in common at their starts.
-/

namespace DocumentQuery.BuiltinEngine

open Text (Ranges ByteSequence)

/-- The bytes of one state. -/
def stateSize : Nat := 32

/-- The bytes of one step out of a state with several, by a range of bytes. -/
def stepSize : Nat := 8

/-- The bytes of one way out of a fork. -/
def wayOutSize : Nat := 4

namespace CharSet

/-- A set with all case variants of its members. -/
def withVariants (s : Ranges) : Ranges :=
  let touched := Text.foldPairs.filter fun p => Ranges.contains s p.1 || Ranges.contains s p.2
  let folded := Ranges.ofPoints (touched.map (·.2))
  let variants := Text.foldPairs.filter fun p => Ranges.contains folded p.2
  Ranges.union s (Ranges.union folded (Ranges.ofPoints (variants.map (·.1))))

/-- A set with the other case of its letters of ASCII. -/
def withAsciiVariants (s : Ranges) : Ranges :=
  let variants := (List.range 0x80).filter fun n => isAsciiLetter n && Ranges.contains s (otherCase n)
  Ranges.union s (Ranges.ofPoints variants)

/-- The members of a set. -/
def ranges : CharSet → Ranges
  | table s => Ranges.joined s
  | union a b => Ranges.union a.ranges b.ranges
  | inter a b => Ranges.inter a.ranges b.ranges
  | minus a b => Ranges.minus a.ranges b.ranges
  | differ a b => Ranges.differ a.ranges b.ranges
  | compl a => Ranges.compl a.ranges
  | folded a => withVariants a.ranges
  | foldedAscii a => withAsciiVariants a.ranges

/-- How many items two lists have in common at the start. -/
def commonLength : ByteSequence → ByteSequence → Nat
  | a :: xs, b :: ys => if a = b then commonLength xs ys + 1 else 0
  | _, _ => 0

/-- The number of different starts of some sequences in order, given the sequence before them. -/
def startsAfter (before : ByteSequence) : List ByteSequence → Nat
  | [] => 0
  | s :: rest => s.length - commonLength before s + startsAfter s rest

/-- The automaton that reads sequences backward: a fork into their last bytes, and a state for every start. -/
def backwardSize (sequences : List ByteSequence) : Nat :=
  stateSize * (startsAfter [] sequences + 2) + wayOutSize * sequences.length

/-- What may follow each first byte of some sequences in order. -/
def continuations (sequences : List ByteSequence) : List (List ByteSequence) :=
  (sequences.splitBy fun a b => a.head? = b.head?).map fun same => same.map List.tail

/-- The states to which so many bytes lead, by what may follow there, those of no sequence left out. -/
def followers : Nat → List (List ByteSequence) → List (List ByteSequence)
  | 0, _ => []
  | n + 1, states =>
    let live := (states.filter fun s => !s.contains []).eraseDups
    live ++ followers n (live.flatMap continuations)

/-- The automaton that reads sequences forward: states with the same continuations are one. -/
def forwardSize (sequences : List ByteSequence) : Nat :=
  let states := (followers 4 [sequences]).eraseDups
  stateSize * (states.length + 1) + stepSize * (states.flatMap continuations).length

/-- The size of a set. A single character is a chain of its bytes; a set within ASCII is one state with a step
for each range. -/
def size (encoded : List ByteSequence → Nat) (s : CharSet) : Nat :=
  match s.ranges with
  | [] => stateSize
  | (first, last) :: rest =>
    let all := (first, last) :: rest
    if rest = [] ∧ first = last then stateSize * (Text.utf8Bytes first).length
    else if all.all (·.2 ≤ 0x7f) then 2 * stateSize + stepSize * all.length
    else encoded (Ranges.byteSequences all)

end CharSet

namespace Regex

/-- The set of a choice between single characters. -/
def set? : Regex → Option CharSet
  | chars s => some s
  | alt a b => do return .union (← a.set?) (← b.set?)
  | _ => none

def isEmpty : Regex → Bool
  | empty => true
  | _ => false

/-- The bytes of a regular expression by itself, and as one branch of a choice. -/
structure Extent where
  whole : Nat
  branch : Nat

/-- Something that is one branch where it stands in a choice. -/
def Extent.ofSize (n : Nat) : Extent := ⟨n, n + wayOutSize⟩

/-- The size of a repetition: the copies that have to match, then a way back or copies that can be left. -/
def repeatedSize (copy least : Nat) : Option Nat → Nat
  | some most =>
    if most = least then copy * most
    else copy * most + (most - least) * (stateSize + 2 * wayOutSize) + stateSize
  | none => copy * max least 1 + stateSize + 2 * wayOutSize

/-- The size of an automaton, by the sizes of its sets and of what marks the bounds of a group. -/
def extent (set : CharSet → Nat) (bounds : Nat) : Regex → Extent
  | empty | look _ => .ofSize stateSize
  | chars s => .ofSize (set s)
  | seq a b =>
    let first := if a.isEmpty then 0 else (a.extent set bounds).whole
    let second := if b.isEmpty then 0 else (b.extent set bounds).whole
    .ofSize (first + second)
  | alt a b =>
    match (alt a b).set? with
    | some s => .ofSize (set s)
    | none =>
      let branches := (a.extent set bounds).branch + (b.extent set bounds).branch
      ⟨branches + 2 * stateSize, branches⟩
  | repeated r least most => .ofSize (repeatedSize (r.extent set bounds).whole least most)
  | group r => .ofSize ((r.extent set bounds).whole + bounds)

/-- Whether every match has to meet a condition where it starts. -/
def startsWith (l : Look) : Regex → Bool
  | look k => k = l
  | seq a b => a.startsWith l || a.takesNothing && b.startsWith l
  | alt a b => a.startsWith l && b.startsWith l
  | repeated r least _ => 0 < least && r.startsWith l
  | group r => r.startsWith l
  | empty | chars _ => false

/-- Whether every match has to meet a condition where it ends. -/
def endsWith (l : Look) : Regex → Bool
  | look k => k = l
  | seq a b => b.endsWith l || b.takesNothing && a.endsWith l
  | alt a b => a.endsWith l && b.endsWith l
  | repeated r least _ => 0 < least && r.endsWith l
  | group r => r.endsWith l
  | empty | chars _ => false

/-- The length in bytes of the only text that matches, where the pattern says one. -/
def literalLength? : Regex → Option Nat
  | chars s =>
    match s.ranges with
    | [(first, last)] => if first = last then some (Text.utf8Bytes first).length else none
    | _ => none
  | seq a b => do return (← a.literalLength?) + (← b.literalLength?)
  | _ => none

/-- The longest text that is looked for without an automaton. -/
def maxLiteralLength : Nat := 100

/-- The states in front of an automaton: an empty one where a match starts at the bound of the text, else a fork with
a loop over every byte. -/
def leadSize (bound : Bool) : Nat :=
  if bound then stateSize else 3 * stateSize + 2 * wayOutSize + stepSize

/-- The bytes of the larger automaton of a regular expression, each with a state for the match; the bounds of the match
and of groups are marked in the one that reads forward. -/
def compiledSize (r : Regex) : Nat :=
  if r.literalLength?.any (· ≤ maxLiteralLength) then 0
  else
    let forward := (r.extent (CharSet.size CharSet.forwardSize) (2 * stateSize)).whole
    let backward := (r.extent (CharSet.size CharSet.backwardSize) 0).whole
    max (leadSize (r.startsWith .textStart) + forward + 3 * stateSize)
      (leadSize (r.endsWith .textEnd) + backward + stateSize)

end Regex

end DocumentQuery.BuiltinEngine
