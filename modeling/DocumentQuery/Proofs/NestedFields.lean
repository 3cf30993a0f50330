import DocumentQuery.Proofs.FiniteMaps
import Mathlib.Data.List.Induction

/-! # Nested fields

A field path is followed through nested maps, one key after the other (`Document.lookUp_eq_foldlM`), so a path that
goes on for one more key takes one more step at its end (`Document.field?_child`).  From a map, the step gives what the
look-up in a map gives; from any other outcome it leads nowhere (`Outcome.entry`).  The outcome of the longer path is
this step from the outcome of the shorter one (`Document.fieldOutcome_child`), unless the shorter one is the reserved
path, which is no field.

Of what is no map the longer path is not set, but the look-up, a strict function, is null or an error
(`Expression.entryOf_of_not_isMap`).  None of these is a value, so by induction over any number of further keys a path
and a chain of look-ups find the same values (`Expression.evaluate_path_eq_value_iff`). -/

namespace DocumentQuery

namespace FieldPath

/-- The path of a key in the map that is a field. -/
def child (p : FieldPath) (key : String) : FieldPath := ⟨p.segments ++ [key]⟩

/-- The path of some keys in turn, from a field on. -/
def descendant (p : FieldPath) (keys : List String) : FieldPath := ⟨p.segments ++ keys⟩

variable {p : FieldPath}

theorem descendant_nil (p : FieldPath) : p.descendant [] = p := by rw [descendant, List.append_nil]

theorem descendant_concat (p : FieldPath) (keys : List String) (key : String) :
    p.descendant (keys ++ [key]) = (p.descendant keys).child key := by
  rw [descendant, child, descendant, List.append_assoc]

theorem segments_descendant_ne_nil (hne : p.segments ≠ []) (keys : List String) : (p.descendant keys).segments ≠ [] :=
  List.append_ne_nil_of_left_ne_nil hne keys

/-- The reserved name is special only as a whole path. -/
theorem child_ne_documentId (hne : p.segments ≠ []) (key : String) : p.child key ≠ documentId := by
  intro h
  have hlength : p.segments.length + 1 = 1 := by
    simpa [child, documentId] using congrArg (fun q => q.segments.length) h
  exact hne (List.length_eq_zero_iff.mp (Nat.succ.inj hlength))

theorem descendant_ne_documentId (hne : p.segments ≠ []) (hid : p ≠ documentId) (keys : List String) :
    p.descendant keys ≠ documentId := by
  induction keys using List.reverseRecOn with
  | nil => rwa [descendant_nil]
  | append_singleton keys key _ =>
      rw [descendant_concat]
      exact child_ne_documentId (segments_descendant_ne_nil hne keys) key

end FieldPath

theorem MapFunction.look_eq (fields : Record) (key : String) :
    look fields key = (Keyed.find? key fields).elim .unset .ofValue := by
  unfold look
  cases Keyed.find? key fields <;> rfl

/-- The value of a key, if the value is a map. -/
def Value.entry? (v : Value) (key : String) : Option Value := v.map?.bind (Keyed.find? key)

/-- What is at a key of an outcome: nothing, unless the outcome is a map. -/
def Outcome.entry (key : String) : Outcome → Outcome
  | value (.map fields) => MapFunction.look fields key
  | _ => unset

theorem Outcome.entry_of_ne_map {o : Outcome} {key : String} (ho : ∀ fields, o ≠ .value (.map fields)) :
    o.entry key = .unset := by
  unfold entry
  split
  case h_1 fields => exact absurd rfl (ho fields)
  case h_2 => rfl

theorem Outcome.entry_eq_value_iff {o : Outcome} {key : String} {v : Value} :
    o.entry key = .value v ↔ ∃ fields, o = .value (.map fields) ∧ MapFunction.look fields key = .value v := by
  constructor
  · intro h
    by_cases hmap : ∃ fields, o = .value (.map fields)
    · obtain ⟨fields, rfl⟩ := hmap
      exact ⟨fields, rfl, h⟩
    · rw [entry_of_ne_map fun fields ho => hmap ⟨fields, ho⟩] at h
      cases h
  · rintro ⟨fields, rfl, hlook⟩
    exact hlook

namespace Document

/-! ### The way to a field -/

theorem foldlM_entry?_cons (fields : Record) (key : String) (rest : List String) :
    (key :: rest).foldlM Value.entry? (.map fields) =
      (Keyed.find? key fields).bind fun v => rest.foldlM Value.entry? v := rfl

/-- A path is followed one key after the other. -/
theorem lookUp_eq_foldlM (fields : Record) {path : List String} (hne : path ≠ []) :
    lookUp fields path = path.foldlM Value.entry? (.map fields) := by
  obtain ⟨key, rest, rfl⟩ := List.exists_cons_of_ne_nil hne
  clear hne
  induction rest generalizing fields key with
  | nil => exact (bind_pure _).symm
  | cons next rest ih =>
      rw [lookUp, foldlM_entry?_cons]
      cases Keyed.find? key fields with
      | none => rfl
      | some v =>
          -- Only a map has a next key.
          cases v with
          | map inner => exact ih inner next
          | _ => rfl

variable (d : Document) {p : FieldPath}

/-- One more key is one more step. -/
theorem field?_child (hne : p.segments ≠ []) (key : String) :
    d.field? (p.child key) = (d.field? p).bind fun v => v.entry? key := by
  have hchild : p.segments ++ [key] ≠ [] := List.append_ne_nil_of_left_ne_nil hne _
  rw [field?, field?, FieldPath.child, lookUp_eq_foldlM _ hchild, lookUp_eq_foldlM _ hne, List.foldlM_append]
  exact congrArg _ (funext fun v => bind_pure (v.entry? key))

theorem fieldOutcome_of_ne (hid : p ≠ FieldPath.documentId) :
    d.fieldOutcome p = (d.field? p).elim .unset .ofValue := by
  have hreserved : ¬ p.isDocumentId = true := by rwa [FieldPath.isDocumentId, decide_eq_true_iff]
  rw [fieldOutcome, if_neg hreserved]
  cases d.field? p <;> rfl

/-- The outcome of a longer path is one step from the outcome of the path. -/
theorem fieldOutcome_child (hne : p.segments ≠ []) (hid : p ≠ FieldPath.documentId) (key : String) :
    d.fieldOutcome (p.child key) = (d.fieldOutcome p).entry key := by
  rw [d.fieldOutcome_of_ne (FieldPath.child_ne_documentId hne key), d.fieldOutcome_of_ne hid, d.field?_child hne]
  cases d.field? p with
  | none => rfl
  | some v =>
      cases v with
      | map fields => exact (MapFunction.look_eq fields key).symm
      | _ => rfl

end Document

namespace Expression

variable {limits : Limits} {d : Document} {e x : Expression} {k : String} {q : FieldPath}

/-! ### The look-up in a map -/

/-- Of what is no map, a look-up is null or an error. -/
theorem entryOf_of_not_isMap (hx : IsKey limits d k x) (he : ¬ IsMap limits d e) :
    (entryOf e x).evaluate limits d = .null ∨ ((entryOf e x).evaluate limits d).isError := by
  have hcall : (entryOf e x).evaluate limits d =
      (Function.map .get).apply limits [e.evaluate limits d, .value (.string k)] := by
    rw [entryOf, evaluate_call, List.map_cons, List.map_singleton, hx]
  rw [hcall]
  cases ho : e.evaluate limits d with
  | value v =>
      cases v with
      | map fields => exact absurd ⟨fields, ho⟩ he
      | _ => exact .inr rfl
  | null => exact .inl rfl
  | unset | error _ => exact .inr rfl

theorem evaluate_entryOf_eq_value_iff (hx : IsKey limits d k x) {v : Value} :
    (entryOf e x).evaluate limits d = .value v ↔
      ∃ fields, e.evaluate limits d = .value (.map fields) ∧ MapFunction.look fields k = .value v := by
  by_cases he : IsMap limits d e
  · obtain ⟨fields, hfields⟩ := he
    rw [evaluate_entryOf hfields hx, hfields]
    simp
  · refine ⟨fun h => ?_, fun ⟨fields, hfields, _⟩ => absurd ⟨fields, hfields⟩ he⟩
    -- Neither a null nor an error is a value.
    rcases entryOf_of_not_isMap hx he with hnull | herror
    · cases hnull.symm.trans h
    · rw [h] at herror
      cases herror

/-! ### Fields and look-ups -/

/-- The look-ups of some keys in turn. -/
def entriesOf (e : Expression) (keys : List String) : Expression :=
  keys.foldl (fun e key => entryOf e (literal (.string key))) e

/-- **A path and a chain of look-ups find the same values.** -/
theorem evaluate_path_eq_value_iff (limits : Limits) (d : Document) (hne : q.segments ≠ [])
    (hid : q ≠ FieldPath.documentId) (keys : List String) (v : Value) :
    (field (q.descendant keys)).evaluate limits d = .value v ↔
      (entriesOf (field q) keys).evaluate limits d = .value v := by
  induction keys using List.reverseRecOn generalizing v with
  | nil => rw [FieldPath.descendant_nil, entriesOf, List.foldl_nil]
  | append_singleton keys key ih =>
      have hkey : IsKey limits d key (literal (.string key)) := rfl
      have hfield : (field ((q.descendant keys).child key)).evaluate limits d =
          ((field (q.descendant keys)).evaluate limits d).entry key :=
        d.fieldOutcome_child (FieldPath.segments_descendant_ne_nil hne keys)
          (FieldPath.descendant_ne_documentId hne hid keys) key
      have hchain : entriesOf (field q) (keys ++ [key]) =
          entryOf (entriesOf (field q) keys) (literal (.string key)) := by
        rw [entriesOf, List.foldl_append]
        rfl
      -- A value is found from a map only, and by induction both stand at the same one.
      rw [FieldPath.descendant_concat, hfield, hchain, Outcome.entry_eq_value_iff, evaluate_entryOf_eq_value_iff hkey]
      exact exists_congr fun fields => and_congr_left fun _ => ih (.map fields)

/-- **Nested fields are entries of maps.**  Let a path name a field, and let it not be the reserved path.  Where the
field is a map, the path that goes on for one more key has the outcome of the look-up of the key in it: the value that
is stored there, a null if it is null, and not set if the key is missing.  Where the field is anything else, a value of
another kind, null or not set, the longer path is not set. -/
theorem nested_fields_are_entries (limits : Limits) (d : Document) (hne : q.segments ≠ [])
    (hid : q ≠ FieldPath.documentId) (key : String) :
    (∀ fields, (field q).evaluate limits d = .value (.map fields) →
      (field (q.child key)).evaluate limits d =
          (entryOf (field q) (literal (.string key))).evaluate limits d ∧
        (∀ v, Keyed.find? key fields = some v → v ≠ .null → (field (q.child key)).evaluate limits d = .value v) ∧
        (Keyed.find? key fields = some .null → (field (q.child key)).evaluate limits d = .null) ∧
        (key ∉ Keyed.keys fields → (field (q.child key)).evaluate limits d = .unset)) ∧
      (¬ IsMap limits d (field q) → (field (q.child key)).evaluate limits d = .unset) := by
  have hstep : (field (q.child key)).evaluate limits d = ((field q).evaluate limits d).entry key :=
    d.fieldOutcome_child hne hid key
  constructor
  · intro fields hfields
    have hlook : (field (q.child key)).evaluate limits d = MapFunction.look fields key := by
      rw [hstep, hfields]
      rfl
    refine ⟨?_, fun v hfound hv => ?_, fun hfound => ?_, fun hmissing => ?_⟩
    · have hkey : IsKey limits d key (literal (.string key)) := rfl
      rw [hlook, evaluate_entryOf hfields hkey]
    · rw [hlook, MapFunction.look, hfound]
      exact Outcome.ofValue_of_ne_null hv
    · rw [hlook, MapFunction.look, hfound]
      rfl
    · rw [hlook, MapFunction.look, Keyed.find?_eq_none_iff.mpr hmissing]
  · intro hmap
    exact hstep.trans (Outcome.entry_of_ne_map fun fields hfields => hmap ⟨fields, hfields⟩)

/-- The reserved name may stand inside a path: the map stored there has a null and lacks a key.  A field that is null
has no fields, though the look-up in it is null. -/
theorem nested_fields_are_entries_below_reserved_name :
    let d : Document := ⟨⟨["c", "d"]⟩, [("__name__", .map [("a", .map [("b", .integer 1), ("n", .null)])])], none⟩
    let q : FieldPath := ⟨["__name__", "a"]⟩
    let n : FieldPath := q.child "n"
    q.segments ≠ [] ∧ q ≠ FieldPath.documentId ∧
      (field (q.child "b")).evaluate {} d = (entryOf (field q) (literal (.string "b"))).evaluate {} d ∧
      (field (q.child "b")).evaluate {} d = .value (.integer 1) ∧ (field n).evaluate {} d = .null ∧
      (field (q.child "x")).evaluate {} d = .unset ∧ (field (n.child "x")).evaluate {} d = .unset ∧
      (entryOf (field n) (literal (.string "x"))).evaluate {} d = .null := by
  intro d q n
  have hne : q.segments ≠ [] := List.cons_ne_nil _ _
  have hid : q ≠ FieldPath.documentId := by decide
  have hmap : (field q).evaluate {} d = .value (.map [("b", .integer 1), ("n", .null)]) := rfl
  obtain ⟨hentry, hvalue, -, -⟩ := (nested_fields_are_entries {} d hne hid "b").1 _ hmap
  obtain ⟨-, -, hnull, -⟩ := (nested_fields_are_entries {} d hne hid "n").1 _ hmap
  obtain ⟨-, -, -, hmissing⟩ := (nested_fields_are_entries {} d hne hid "x").1 _ hmap
  have hn : (field n).evaluate {} d = .null := hnull rfl
  have hnotMap : ¬ IsMap {} d (field n) := by
    rintro ⟨fields, hfields⟩
    cases hn.symm.trans hfields
  exact ⟨hne, hid, hentry, hvalue _ rfl nofun, hn, hmissing (by decide),
    (nested_fields_are_entries {} d (List.cons_ne_nil _ _) (by decide) "x").2 hnotMap, rfl⟩

end Expression

end DocumentQuery
