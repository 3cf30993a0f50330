import DocumentQuery.Function.Basic
import DocumentQuery.Text.Case

/-!
# Names of functions

A function is looked up by name without regard to underscores and letter case, so that `arrayContains` finds
`array_contains`. The first entry of `Function.names` for a function is its own name; the others are aliases.
-/

namespace DocumentQuery

namespace Function

def names : List (String × Function) := [
  ("add", arithmetic .add),
  ("subtract", arithmetic .subtract),
  ("multiply", arithmetic .multiply),
  ("divide", arithmetic .divide),
  ("mod", arithmetic .mod),
  ("modulo", arithmetic .mod),
  ("pow", arithmetic .pow),
  ("log", arithmetic .log),
  ("exp", arithmetic .exp),
  ("ln", arithmetic .ln),
  ("log10", arithmetic .log10),
  ("sqrt", arithmetic .sqrt),
  ("abs", arithmetic .abs),
  ("ceil", arithmetic .ceil),
  ("floor", arithmetic .floor),
  ("round", arithmetic .round),
  ("eq", comparison .eq),
  ("equal", comparison .eq),
  ("neq", comparison .neq),
  ("not_equal", comparison .neq),
  ("lt", comparison .lt),
  ("less_than", comparison .lt),
  ("lte", comparison .lte),
  ("less_than_or_equal", comparison .lte),
  ("gt", comparison .gt),
  ("greater_than", comparison .gt),
  ("gte", comparison .gte),
  ("greater_than_or_equal", comparison .gte),
  ("eq_any", comparison .eqAny),
  ("equal_any", comparison .eqAny),
  ("not_eq_any", comparison .notEqAny),
  ("not_equal_any", comparison .notEqAny),
  ("and", logical .and),
  ("or", logical .or),
  ("xor", logical .xor),
  ("not", logical .not),
  ("cond", logical .cond),
  ("conditional", logical .cond),
  ("logical_maximum", logical .maximum),
  ("logical_minimum", logical .minimum),
  ("exists", typeCheck .isSet),
  ("is_absent", typeCheck .isAbsent),
  ("is_error", typeCheck .isError),
  ("if_error", typeCheck .ifError),
  ("is_nan", typeCheck .isNaN),
  ("is_not_nan", typeCheck .isNotNaN),
  ("is_null", typeCheck .isNull),
  ("is_not_null", typeCheck .isNotNull),
  ("array", array .array),
  ("array_contains", array .contains),
  ("array_contains_any", array .containsAny),
  ("array_contains_all", array .containsAll),
  ("array_length", array .length),
  ("array_concat", array .concat),
  ("array_reverse", array .reverse),
  ("array_get", array .get),
  ("array_offset", array .get),
  ("concat", string .concat),
  ("string_concat", string .concat),
  ("str_concat", string .concat),
  ("byte_length", string .byteLength),
  ("char_length", string .charLength),
  ("to_lower", string .toLower),
  ("to_upper", string .toUpper),
  ("trim", string .trim),
  ("ltrim", string .trimStart),
  ("rtrim", string .trimEnd),
  ("like", string .like),
  ("regex_match", string .regexMatch),
  ("regex_contains", string .regexContains),
  ("starts_with", string .startsWith),
  ("ends_with", string .endsWith),
  ("string_contains", string .contains),
  ("str_contains", string .contains),
  ("substring", string .substring),
  ("substr", string .substring),
  ("string_reverse", string .reverse),
  ("reverse", string .reverse),
  ("map", map .map),
  ("map_get", map .get),
  ("map_merge", map .merge),
  ("map_remove", map .remove),
  ("unix_micros_to_timestamp", timestamp .ofUnixMicros),
  ("unix_millis_to_timestamp", timestamp .ofUnixMillis),
  ("unix_seconds_to_timestamp", timestamp .ofUnixSeconds),
  ("timestamp_to_unix_micros", timestamp .toUnixMicros),
  ("timestamp_to_unix_millis", timestamp .toUnixMillis),
  ("timestamp_to_unix_seconds", timestamp .toUnixSeconds),
  ("timestamp_add", timestamp .add),
  ("timestamp_sub", timestamp .sub),
  ("vector_length", vector .length),
  ("dot_product", vector .dotProduct),
  ("cosine_distance", vector .cosineDistance),
  ("euclidean_distance", vector .euclideanDistance)]

/-- The function's own name. -/
def name (f : Function) : String := ((names.find? (·.2 = f)).map Prod.fst).getD ""

/-- A name without underscores, in lower case. -/
def foldedName (name : String) : List Char := (name.toList.filter (· ≠ '_')).flatMap Text.lowerChar

/-- The function that goes by a name. -/
def ofName? (name : String) : Option Function :=
  let wanted := foldedName name
  (names.find? fun entry => foldedName entry.1 = wanted).map Prod.snd

/-- The function with exactly this name of its own. -/
def ofOwnName? (name : String) : Option Function :=
  (names.find? fun entry => entry.1 = name && entry.2.name = name).map Prod.snd

end Function

end DocumentQuery
