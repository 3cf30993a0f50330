import DocumentQuery.BuiltinEngine.CharSet

/-!
# Regular expressions

A `Regex` is the meaning of a pattern: which stretches of a text it matches. Positions count the characters
before them. `Regex.ends` gives, for a list of positions, where the matches end that start there, and
`Regex.isMatch` asks for a match anywhere.
-/

namespace DocumentQuery.BuiltinEngine

/-- A condition on a position that takes up no characters. -/
inductive Look where
  | textStart | textEnd
  | lineStart | lineEnd
  /-- Line ends are a carriage return, a line feed, or the two together. -/
  | crlfLineStart | crlfLineEnd
  | wordBoundary (ascii : Bool) | noWordBoundary (ascii : Bool)
  | wordStart (ascii : Bool) | wordEnd (ascii : Bool)
  /-- No word character before. -/
  | wordStartHalf (ascii : Bool)
  /-- No word character after. -/
  | wordEndHalf (ascii : Bool)
deriving DecidableEq, Repr

namespace Look

/-- Whether a neighbouring character is one of a word. -/
def isWord (ascii : Bool) (c : Option Char) : Bool :=
  c.any fun c => (if ascii then CharSet.asciiWord else CharSet.word).contains c.toNat

/-- Whether the condition holds between two characters; at an end of the text there is none. -/
def holds (before after : Option Char) : Look → Bool
  | textStart => before.isNone
  | textEnd => after.isNone
  | lineStart => before.isNone || before == some '\n'
  | lineEnd => after.isNone || after == some '\n'
  | crlfLineStart =>
    before.isNone || before == some '\n' || (before == some '\r' && after != some '\n')
  | crlfLineEnd =>
    after.isNone || after == some '\r' || (after == some '\n' && before != some '\r')
  | wordBoundary ascii => isWord ascii before != isWord ascii after
  | noWordBoundary ascii => isWord ascii before == isWord ascii after
  | wordStart ascii => !isWord ascii before && isWord ascii after
  | wordEnd ascii => isWord ascii before && !isWord ascii after
  | wordStartHalf ascii => !isWord ascii before
  | wordEndHalf ascii => !isWord ascii after

/-- Whether the condition holds at a position of a text. -/
def holdsAt (text : Array Char) (l : Look) (p : Nat) : Bool :=
  l.holds (if p = 0 then none else text[p - 1]?) text[p]?

end Look

inductive Regex where
  | empty
  | look (l : Look)
  | chars (s : CharSet)
  | seq (a b : Regex)
  | alt (a b : Regex)
  /-- At least `least` times, and at most `most` times if it is given. -/
  | repeated (r : Regex) (least : Nat) (most : Option Nat)
  /-- A part whose bounds are kept apart; it matches what the part matches. -/
  | group (r : Regex)
deriving Repr, Inhabited

namespace Regex

/-- Applies a step some number of times, as long as any position is left. -/
def iterate (step : List Nat → List Nat) : Nat → List Nat → List Nat
  | 0, ps => ps
  | n + 1, ps => if ps = [] then [] else iterate step n (step ps)

/-- The positions reached by at most so many steps from the newest ones, together with those seen before. -/
def reach (step : List Nat → List Nat) : Nat → List Nat → List Nat → List Nat
  | 0, _, seen => seen
  | n + 1, newest, seen =>
    let fresh := (step newest).filter fun p => !seen.contains p
    if fresh = [] then seen else reach step n fresh (seen ++ fresh)

/-- Where the matches end that start at one of the given positions. -/
def ends (text : Array Char) : Regex → List Nat → List Nat
  | empty => fun ps => ps
  | look l => fun ps => ps.filter (l.holdsAt text)
  | chars s => fun ps =>
    ps.filterMap fun p => (text[p]?).bind fun c => if s.contains c.toNat then some (p + 1) else none
  | seq a b => fun ps => ends text b (ends text a ps)
  | alt a b => fun ps =>
    let first := ends text a ps
    first ++ (ends text b ps).filter fun p => !first.contains p
  | repeated r least most => fun ps =>
    let start := iterate (ends text r) least ps
    let rounds := match most with
      | some n => min (n - least) (text.size + 1)
      | none => text.size + 1
    reach (ends text r) rounds start start
  | group r => fun ps => ends text r ps

/-- Whether some stretch of the text matches. -/
def isMatch (r : Regex) (text : String) : Bool :=
  let cs := text.toList.toArray
  ends cs r (List.range (cs.size + 1)) ≠ []

/-- Whether only the empty stretch can match. -/
def takesNothing : Regex → Bool
  | empty | look _ => true
  | chars _ => false
  | seq a b | alt a b => a.takesNothing && b.takesNothing
  | repeated r least most => (least = 0 && most = some 0) || r.takesNothing
  | group r => r.takesNothing

/-- A repetition; what takes up nothing is repeated at most once. -/
def ofRepetition (r : Regex) (least : Nat) (most : Option Nat) : Regex :=
  let most := if r.takesNothing then some (min (most.getD 1) 1) else most
  let least := if r.takesNothing then min least 1 else least
  if most = some 0 then empty
  else if least = 1 ∧ most = some 1 then r
  else repeated r least most

/-- One after the other. -/
def sequence : List Regex → Regex
  | [] => empty
  | [r] => r
  | r :: rest => seq r (sequence rest)

/-- One or the other. -/
def choice : List Regex → Regex
  | [] => empty
  | [r] => r
  | r :: rest => alt r (choice rest)

end Regex

end DocumentQuery.BuiltinEngine
