import DocumentQuery.Double.Decimal
import DocumentQuery.Function.Name
import DocumentQuery.Value.Basic

/-!
# Errors of evaluation

An `EvalError` is the function that failed and the cause. `EvalError.message` is the one place that words
them.
-/

namespace DocumentQuery

/-- What a function asks of an operand. -/
inductive Expected where
  | number | integer | boolean | string | bytes | array | map | timestamp | vector
  | stringOrBytes | stringBytesOrArray
deriving DecidableEq, Repr

namespace Expected

def name : Expected → String
  | number => "number"
  | integer => "integer"
  | boolean => "boolean"
  | string => "string"
  | bytes => "bytes"
  | array => "array"
  | map => "map"
  | timestamp => "timestamp"
  | vector => "vector"
  | stringOrBytes => "string or bytes"
  | stringBytesOrArray => "string, bytes or array"

end Expected

/-- Why a pattern cannot be used. -/
inductive PatternFault where
  /-- More characters than the limit. -/
  | tooLong (limit : UInt64)
  /-- Not a regular expression, in the words of the engine. -/
  | malformed (reason : String)
  /-- Larger than the limit once it is built, in the words of the engine. -/
  | tooLarge (reason : String)
deriving DecidableEq, Repr

namespace PatternFault

def message : PatternFault → String
  | tooLong limit => "pattern too long (max " ++ toString limit.toNat ++ " chars)"
  | malformed reason => reason
  | tooLarge reason => reason

end PatternFault

/-- An operand of the right kind outside a function's domain. -/
inductive DomainFault where
  | negative (x : Double)
  | badBase (base : Double)
  | negativeLength (length : Int64)
  | unknownUnit (unit : String)
deriving DecidableEq, Repr

namespace DomainFault

def message : DomainFault → String
  | negative x => x.text ++ " is negative"
  | badBase base => "invalid base " ++ base.text
  | negativeLength length => "negative length " ++ toString length.toInt
  | unknownUnit unit => "unknown time unit '" ++ unit ++ "'"

end DomainFault

/-- Why a function failed. -/
inductive Cause where
  | unsetArgument
  | typeMismatch (expected : Expected) (found : Kind)
  | divisionByZero
  | overflow
  | timestampOutOfRange
  | dimensionMismatch (left right : Nat)
  | zeroMagnitude
  | invalidPattern (fault : PatternFault)
  | invalidArgument (fault : DomainFault)
  | wrongCount (actual : Nat)
deriving DecidableEq, Repr

/-- A failed evaluation: the function that raised it and the cause. -/
structure EvalError where
  function : Function
  cause : Cause
deriving DecidableEq, Repr

namespace EvalError

def message (e : EvalError) : String :=
  e.function.name ++ ": " ++
    match e.cause with
    | .unsetArgument => "argument is not set"
    | .typeMismatch expected found => "expected " ++ expected.name ++ ", found " ++ found.name
    | .divisionByZero => "division by zero"
    | .overflow => "integer overflow"
    | .timestampOutOfRange => "timestamp out of range"
    | .dimensionMismatch left right =>
      "vector dimensions differ (" ++ toString left ++ " vs " ++ toString right ++ ")"
    | .zeroMagnitude => "vector has zero magnitude"
    | .invalidPattern fault => "invalid regular expression: " ++ fault.message
    | .invalidArgument fault => "invalid argument: " ++ fault.message
    | .wrongCount actual =>
      "expected " ++ e.function.arity.text ++ " argument(s), got " ++ toString actual

end EvalError

end DocumentQuery
