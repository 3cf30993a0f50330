import DocumentQuery.EvalError
import DocumentQuery.Limits

/-!
# Using patterns within limits

A pattern of the caller becomes the text of a regular expression in one of three forms: as it is, between
anchors, or from the wildcards of `like`. `compile` has the engine build that text under the limits; the limit
on the length applies to the pattern as given.
-/

namespace DocumentQuery.Pattern

/-- What a refusal of the engine says of the pattern. -/
def Refusal.fault : Refusal → PatternFault
  | malformed reason => .malformed reason
  | tooLarge reason => .tooLarge reason

/-- The test that a pattern in some form stands for, or why there is none. -/
def compile (limits : Limits) (form : String → String) (pattern : String) : Except PatternFault (String → Bool) :=
  if limits.patternLength.toNat < pattern.length then .error (.tooLong limits.patternLength)
  else (limits.engine.build limits.patternSize (form pattern)).mapError Refusal.fault

/-- A pattern that has to match the whole text. -/
def anchored (pattern : String) : String := "^(?:" ++ pattern ++ ")$"

/-- One character of a wildcard pattern as a regular expression: a percent sign stands for any run of
characters, an underscore for one character, and everything else for itself. -/
def wildcardPiece [Engine] (c : Char) : String :=
  if c = '%' then ".*"
  else if c = '_' then "."
  else Engine.escape (String.singleton c)

/-- The regular expression of a wildcard pattern; it has to match the whole text, line ends included. -/
def ofWildcards [Engine] (pattern : String) : String :=
  pattern.toList.foldl (fun text c => text ++ wildcardPiece c) "(?s)^" ++ "$"

end DocumentQuery.Pattern
