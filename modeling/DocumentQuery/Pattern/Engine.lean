/-!
# Engines of regular expressions

Regular expressions are not read or matched here. An `Engine` does that, and the evaluator takes one with its
limits: it hands over the text of an expression and gets a test of texts back, or a refusal. Nothing else is
known of an engine, so that what is proved of the evaluator holds for all of them.
-/

namespace DocumentQuery.Pattern

/-- Why an engine does not build the expression of a text, with the words of the engine. -/
inductive Refusal where
  /-- The text is not an expression. -/
  | malformed (reason : String)
  /-- The expression is larger than the limit once it is built. -/
  | tooLarge (reason : String)
deriving DecidableEq, Repr

class Engine where
  /-- The form of a text that stands for the text itself in an expression. -/
  escape : String → String
  /-- The test whether some stretch of a text matches an expression, built within a limit in bytes. -/
  build : UInt64 → String → Except Refusal (String → Bool)

end DocumentQuery.Pattern
