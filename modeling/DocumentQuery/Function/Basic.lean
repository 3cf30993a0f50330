/-!
# Functions of the expression language

Every function belongs to one of nine families, and inside its family it is one operation; `Function.arity`
says how many arguments it takes.
-/

namespace DocumentQuery

/-- How many arguments a function accepts. -/
inductive Arity where
  | exactly (n : Nat)
  | atLeast (n : Nat)
  | between (least most : Nat)
  /-- Any even number: keys and values in turn. -/
  | pairs
deriving DecidableEq, Repr

namespace Arity

def Accepts : Arity → Nat → Prop
  | exactly n, count => count = n
  | atLeast n, count => n ≤ count
  | between least most, count => least ≤ count ∧ count ≤ most
  | pairs, count => count % 2 = 0

instance (a : Arity) (count : Nat) : Decidable (a.Accepts count) := by
  cases a <;> simp only [Accepts] <;> infer_instance

/-- The words for an arity in messages. -/
def text : Arity → String
  | exactly n => toString n
  | atLeast n => "at least " ++ toString n
  | between least most => toString least ++ " to " ++ toString most
  | pairs => "an even number of"

end Arity

/-- Arithmetic on numbers. -/
inductive Arithmetic where
  | add | subtract | multiply | divide | mod | pow | log | exp | ln | log10 | sqrt | abs | ceil | floor
  | round
deriving DecidableEq, Repr

/-- Comparison of two values, and membership in an array. -/
inductive Comparison where
  | eq | neq | lt | lte | gt | gte | eqAny | notEqAny
deriving DecidableEq, Repr

/-- Connectives, the conditional and the extremes. -/
inductive Logical where
  | and | or | xor | not | cond | maximum | minimum
deriving DecidableEq, Repr

/-- Questions about an outcome: is it set, an error, a null, a NaN. -/
inductive TypeCheck where
  | isSet | isAbsent | isError | ifError | isNaN | isNotNaN | isNull | isNotNull
deriving DecidableEq, Repr

/-- Functions of arrays. -/
inductive ArrayFunction where
  | array | contains | containsAny | containsAll | length | concat | reverse | get
deriving DecidableEq, Repr

/-- Functions of strings and byte strings. -/
inductive StringFunction where
  | concat | byteLength | charLength | toLower | toUpper | trim | trimStart | trimEnd | like | regexMatch
  | regexContains | startsWith | endsWith | contains | substring | reverse
deriving DecidableEq, Repr

/-- Functions of maps. -/
inductive MapFunction where
  | map | get | merge | remove
deriving DecidableEq, Repr

/-- Conversion and shifting of timestamps. -/
inductive TimestampFunction where
  | ofUnixMicros | ofUnixMillis | ofUnixSeconds | toUnixMicros | toUnixMillis | toUnixSeconds | add | sub
deriving DecidableEq, Repr

/-- Functions of vectors. -/
inductive VectorFunction where
  | length | dotProduct | cosineDistance | euclideanDistance
deriving DecidableEq, Repr

/-- A function of the expression language, by family. -/
inductive Function where
  | arithmetic (f : Arithmetic)
  | comparison (f : Comparison)
  | logical (f : Logical)
  | typeCheck (f : TypeCheck)
  | array (f : ArrayFunction)
  | string (f : StringFunction)
  | map (f : MapFunction)
  | timestamp (f : TimestampFunction)
  | vector (f : VectorFunction)
deriving DecidableEq, Repr

namespace Function

def arity : Function → Arity
  | arithmetic .exp | arithmetic .ln | arithmetic .log10 | arithmetic .sqrt | arithmetic .abs
  | arithmetic .ceil | arithmetic .floor | arithmetic .round => .exactly 1
  | arithmetic _ => .exactly 2
  | comparison _ => .exactly 2
  | logical .not => .exactly 1
  | logical .cond => .exactly 3
  | logical _ => .atLeast 1
  | typeCheck .ifError => .exactly 2
  | typeCheck _ => .exactly 1
  | array .array => .atLeast 0
  | array .length | array .reverse => .exactly 1
  | array .concat => .atLeast 1
  | array _ => .exactly 2
  | string .concat => .atLeast 1
  | string .byteLength | string .charLength | string .toLower | string .toUpper | string .trim
  | string .trimStart | string .trimEnd | string .reverse => .exactly 1
  | string .substring => .between 2 3
  | string _ => .exactly 2
  | map .map => .pairs
  | map .merge => .atLeast 2
  | map _ => .exactly 2
  | timestamp .add | timestamp .sub => .exactly 3
  | timestamp _ => .exactly 1
  | vector .length => .exactly 1
  | vector _ => .exactly 2

end Function

end DocumentQuery
