import DocumentQuery.BuiltinEngine.Reader
import DocumentQuery.BuiltinEngine.Size
import DocumentQuery.Pattern.Compile

/-!
# An engine to run the evaluator with

The engine that limits hold if no other one is given, so that expressions with patterns can be evaluated. Results on
the evaluator hold for every engine, or for every one that keeps a documented language; this one keeps it.
-/

namespace DocumentQuery.BuiltinEngine

open Pattern (Refusal)

/-- A text with a backslash before every character that has a meaning of its own. -/
def escape (text : String) : String :=
  String.ofList (text.toList.flatMap fun c => if isMeta c then ['\\', c] else [c])

def build (limit : UInt64) (text : String) : Except Refusal (String → Bool) :=
  match read? text with
  | none => .error (.malformed ("malformed pattern " ++ text))
  | some r =>
    if limit.toNat < r.compiledSize then
      .error (.tooLarge ("pattern exceeds size limit of " ++ toString limit.toNat ++ " bytes"))
    else .ok r.isMatch

instance : Pattern.Engine := ⟨escape, build⟩

end DocumentQuery.BuiltinEngine
