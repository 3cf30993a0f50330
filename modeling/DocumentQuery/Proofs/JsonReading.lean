import DocumentQuery.Json.PipelineForm
import DocumentQuery.Proofs.NestedValues

/-! # Reading lists and records

The readers of typed data are put together from readers of lists, of the members of an object and of choices.
Lists of values, of fields and of arguments are read by recursions of their own, which are all one traversal
with the reader of an item (`Value.decodeItems_eq_mapM` and its like).  An object of two members stands in key
order, in whichever order they were given (`Json.record_pair_of_lt`, `Json.record_pair_of_gt`). -/

namespace DocumentQuery

/-! ### Traversals -/

namespace Value

theorem toJsonItems_eq_map (items : List Value) : toJsonItems items = items.map toJson := by
  induction items with
  | nil => rfl
  | cons v rest ih => rw [toJsonItems, ih, List.map_cons]

theorem toJsonFields_eq_map (fields : Record) : toJsonFields fields = fields.map fun f => (f.1, f.2.toJson) := by
  induction fields with
  | nil => rfl
  | cons f rest ih => rw [toJsonFields, ih, List.map_cons]

/-- A field by its key and the tree of its value. -/
def decodeField (f : String × Json) : Decoded (String × Value) := (decode f.2).map fun v => (f.1, v)

theorem decodeItems_eq_mapM (items : List Json) : decodeItems items = items.mapM decode := by
  induction items with
  | nil => rfl
  | cons j rest ih =>
      rw [decodeItems, List.mapM_cons, ih]
      cases decode j with
      | error e => rfl
      | ok v => cases rest.mapM decode <;> rfl

theorem decodeFields_eq_mapM (fields : List (String × Json)) : decodeFields fields = fields.mapM decodeField := by
  induction fields with
  | nil => rfl
  | cons f rest ih =>
      rw [decodeFields, List.mapM_cons, ih, decodeField]
      cases decode f.2 with
      | error e => rfl
      | ok v => cases rest.mapM decodeField <;> rfl

end Value

namespace Expression

theorem toJsonAll_eq_map (es : List Expression) : toJsonAll es = es.map toJson := by
  induction es with
  | nil => rfl
  | cons e rest ih => rw [toJsonAll, ih, List.map_cons]

theorem decodeAll_eq_mapM (items : List Json) : decodeAll items = items.mapM decode := by
  induction items with
  | nil => rfl
  | cons j rest ih =>
      rw [decodeAll, List.mapM_cons, ih]
      cases decode j with
      | error e => rfl
      | ok v => cases rest.mapM decode <;> rfl

end Expression

/-! ### Members of an object -/

namespace Json

@[simp] theorem member?_cons_self {α : Type} (name : String) (j : Json) (rest : List (String × Json))
    (read : Json → Decoded α) : member? ((name, j) :: rest) name read = (read j).map some := by
  simp [member?, Keyed.find?]

theorem member?_cons_of_ne {α : Type} {name k : String} (h : name ≠ k) (j : Json)
    (rest : List (String × Json)) (read : Json → Decoded α) :
    member? ((k, j) :: rest) name read = member? rest name read := by
  simp [member?, Keyed.find?, h]

variable {k l : String} (a b : Json)

theorem record_pair_of_lt (h : compare k l = .lt) : record [(k, a), (l, b)] = object [(k, a), (l, b)] := by
  have hgt : compare l k = .gt := Std.OrientedCmp.gt_of_lt h
  simp [record, Keyed.ofList, Keyed.insert, hgt]

theorem record_pair_of_gt (h : compare k l = .gt) : record [(k, a), (l, b)] = object [(l, b), (k, a)] := by
  have hlt : compare l k = .lt := Std.OrientedCmp.lt_of_gt h
  simp [record, Keyed.ofList, Keyed.insert, hlt]

end Json

end DocumentQuery
