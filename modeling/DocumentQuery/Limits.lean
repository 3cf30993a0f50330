import DocumentQuery.Pattern.Engine

/-!
# Limits of evaluation

Bounds on the patterns that an expression may use, with presets for small and large machines, and the engine
that the bounds are for.
-/

namespace DocumentQuery

/-- The longest pattern, in characters, the largest one once built, in bytes, and the engine that builds it. -/
structure Limits where
  patternLength : UInt64 := 1000
  patternSize : UInt64 := 1048576
  [engine : Pattern.Engine]

namespace Limits

def mobile [Pattern.Engine] : Limits := ⟨256, 262144⟩

def desktop [Pattern.Engine] : Limits := ⟨4000, 10485760⟩

end Limits

end DocumentQuery
