import DocumentQuery.Json.DocumentForm
import DocumentQuery.Proofs.JsonReading
import Mathlib.Data.List.Nodup

/-! # Reading back what was written

A tree that was written is read back as the data it was written from, whatever the kinds and however deep the
nesting.  Only doubles can be lost: one that is not finite is written as null, and null is refused where a
double is wanted (`Json.toDouble_ofDouble`).  So each reader answers on written data either with the data itself
or with a complaint about the shape, which is `Decoded.onlyIf` with the finiteness of the doubles that the data
holds.  Lists pass this on from their items (`Decoded.mapM_onlyIf`), and nested values and expressions by
induction.

A timestamp that no constructor answers with is written but refused, so it is excluded. -/

namespace DocumentQuery

/-- A value that was read if it is intact, and otherwise the complaint about its shape. -/
def Decoded.onlyIf {α : Type} (intact : Prop) [Decidable intact] (a : α) : Decoded α :=
  if intact then .ok a else .error .shape

namespace Decoded

variable {α β : Type} {p q : Prop} [Decidable p] [Decidable q]

theorem onlyIf_of {a : α} (h : p) : onlyIf p a = .ok a := if_pos h

theorem onlyIf_of_not {a : α} (h : ¬ p) : onlyIf p a = .error .shape := if_neg h

theorem onlyIf_congr {a : α} (h : p ↔ q) : onlyIf p a = onlyIf q a := by
  by_cases hp : p
  · rw [onlyIf_of hp, onlyIf_of (h.mp hp)]
  · rw [onlyIf_of_not hp, onlyIf_of_not fun hq => hp (h.mpr hq)]

theorem map_onlyIf (f : α → β) (a : α) : (onlyIf p a).map f = onlyIf p (f a) := by
  by_cases hp : p <;> simp [onlyIf, hp, Except.map]

/-- What is put together from intact data is intact. -/
theorem bind_onlyIf {f : α → Decoded β} {a : α} {b : β} (h : f a = .ok b) : onlyIf p a >>= f = onlyIf p b := by
  by_cases hp : p
  · rw [onlyIf_of hp, onlyIf_of hp]
    exact h
  · rw [onlyIf_of_not hp, onlyIf_of_not hp]
    rfl

theorem bind_onlyIf_and {f : α → Decoded β} {a : α} {b : β} (h : f a = onlyIf q b) :
    onlyIf p a >>= f = onlyIf (p ∧ q) b := by
  by_cases hp : p
  · rw [onlyIf_of hp, onlyIf_congr (and_iff_right hp)]
    exact h
  · rw [onlyIf_of_not hp, onlyIf_of_not fun hpq => hp hpq.1]
    rfl

/-- A list is intact if all its items are. -/
theorem mapM_onlyIf {write : α → β} {read : β → Decoded α} {intact : α → Prop} [DecidablePred intact]
    {l : List α} (h : ∀ a ∈ l, read (write a) = onlyIf (intact a) a) :
    (l.map write).mapM read = onlyIf (∀ a ∈ l, intact a) l := by
  induction l with
  | nil => exact (onlyIf_of fun a ha => absurd ha List.not_mem_nil).symm
  | cons a l ih =>
      obtain ⟨hhead, htail⟩ := List.forall_mem_cons.mp h
      rw [List.map_cons, List.mapM_cons, hhead, ih htail, onlyIf_congr List.forall_mem_cons]
      exact bind_onlyIf_and (bind_onlyIf rfl)

theorem mapM_ok {write : α → β} {read : β → Decoded α} {l : List α}
    (h : ∀ a ∈ l, read (write a) = .ok a) : (l.map write).mapM read = .ok l := by
  have hread : (l.map write).mapM read = onlyIf (∀ a ∈ l, True) l := mapM_onlyIf h
  rw [hread, onlyIf_of fun _ _ => trivial]

end Decoded

open Decoded

/-! ### Scalars -/

namespace Json

theorem toInt64_ofInt64 (i : Int64) : (ofInt64 i).toInt64 = .ok i := by
  have hint : (JsonNumber.ofInt64 i).toInt64? = some i := by
    unfold JsonNumber.ofInt64
    split_ifs with h
    · have hlt := i.toInt_lt
      have hsize : i.toInt.toNat < UInt64.size := by
        have : UInt64.size = 2 ^ 64 := rfl
        omega
      have hnat : (UInt64.ofNat i.toInt.toNat).toNat = i.toInt.toNat := UInt64.toNat_ofNat_of_lt' hsize
      have hback : ((UInt64.ofNat i.toInt.toNat).toNat : Int) = i.toInt := by omega
      rw [JsonNumber.toInt64?, hback, Integer.ofInt?_toInt]
    · rfl
  simp [ofInt64, toInt64, hint, orShape]

/-- A double that is not finite is written as null, which is no number. -/
theorem toDouble_ofDouble (d : Double) : (ofDouble d).toDouble = onlyIf d.isFinite d := by
  unfold ofDouble
  cases hf : d.isFinite <;> simp [onlyIf, toDouble, JsonNumber.toDouble]

theorem toByte_ofUInt64 (n : UInt8) : (ofUInt64 n.toUInt64).toByte = .ok n := by
  have hlt : n.toUInt64.toNat < 256 := by simpa using n.toNat_lt
  have hback : n.toUInt64.toUInt8 = n := by simp
  show (if n.toUInt64.toNat < 256 then Except.ok n.toUInt64.toUInt8 else _) = _
  rw [if_pos hlt, hback]

theorem toBytes_array (b : List UInt8) : (array (b.map fun n => ofUInt64 n.toUInt64)).toBytes = .ok b :=
  mapM_ok fun n _ => toByte_ofUInt64 n

theorem toListOf_toText (segments : List String) :
    (array (segments.map .string)).toListOf toText = .ok segments :=
  mapM_ok fun _ _ => rfl

end Json

theorem ResourcePath.decode_toJson (p : ResourcePath) : decode p.toJson = .ok p := by
  rw [decode, toJson, Json.toListOf_toText]
  rfl

theorem FieldPath.decode_toJson (p : FieldPath) : decode p.toJson = .ok p := by
  rw [decode, toJson, Json.toListOf_toText]
  rfl

namespace Timestamp

theorem toJson_eq (t : Timestamp) : t.toJson =
    .object [("nanos", .ofInt64 (Int64.ofInt t.nanos)), ("seconds", .ofInt64 (Int64.ofInt t.seconds))] :=
  Json.record_pair_of_gt _ _ (by decide)

theorem decode_toJson {t : Timestamp} (h : t.Valid) : decode t.toJson = .ok t := by
  have hbounds := h
  simp only [Valid, minSeconds, maxSeconds, nanosPerSecond] at hbounds
  have hseconds : (Int64.ofInt t.seconds).toInt = t.seconds := Int64.toInt_ofInt_of_le (by omega) (by omega)
  have hnanos : (Int64.ofInt t.nanos).toInt = t.nanos := Int64.toInt_ofInt_of_le (by omega) (by omega)
  have hword : decodeNanos (.ofInt64 (Int64.ofInt t.nanos)) = .ok (Int64.ofInt t.nanos) := by
    unfold decodeNanos
    rw [Json.toInt64_ofInt64]
    exact if_pos ⟨by omega, by omega⟩
  have hcheck : checkParts (Int64.ofInt t.seconds) (Int64.ofInt t.nanos) = .ok t := by
    unfold checkParts
    rw [hseconds, hnanos, ofParts?_eq_some_iff.mpr ⟨rfl, h⟩]
  rw [toJson_eq, decode, Json.member?_cons_self, Json.member?_cons_of_ne (by decide), Json.member?_cons_self,
    hword, Json.toInt64_ofInt64]
  exact hcheck

end Timestamp

theorem GeoPoint.decode_toJson (g : GeoPoint) :
    decode g.toJson = onlyIf (g.latitude.isFinite ∧ g.longitude.isFinite) g := by
  have hjson : g.toJson = .object [("latitude", .ofDouble g.latitude), ("longitude", .ofDouble g.longitude)] :=
    Json.record_pair_of_lt _ _ (by decide)
  rw [hjson, decode, Json.member?_cons_self, Json.member?_cons_of_ne (by decide), Json.member?_cons_self,
    Json.toDouble_ofDouble, Json.toDouble_ofDouble]
  cases g.latitude.isFinite <;> cases g.longitude.isFinite <;> rfl

/-! ### Values -/

namespace Value

theorem tagged_eq (k : Kind) (content : Json) :
    tagged k content = .object [("type", .string k.tag), ("value", content)] :=
  Json.record_pair_of_lt _ _ (by decide)

theorem decode_tagged (k : Kind) (content : Json) : decode (tagged k content) = decodeContent k content := by
  have hkind : Kind.decode (.string k.tag) = .ok k := by
    show Json.orShape (Kind.ofTag? k.tag) = .ok k
    rw [Kind.ofTag?_tag]
    rfl
  have hname : "type" ≠ "value" := by decide
  simp only [tagged_eq, decode, Keyed.find?, Std.ReflOrd.compare_self, if_true, hkind, decodeMember, if_neg hname]

theorem decode_toJson_null : decode null.toJson = .ok null := by
  have hjson : null.toJson = .object [("type", .string Kind.null.tag)] := rfl
  rw [hjson]
  rfl

theorem decodeContent_eq_decodeScalar {k : Kind} (ha : k ≠ .array) (hm : k ≠ .map) (content : Json) :
    decodeContent k content = decodeScalar k content := by
  cases content <;> simp [decodeContent, ha, hm]

/-- What is read back of a value that holds no other values. -/
theorem decode_tagged_scalar {k : Kind} (ha : k ≠ .array) (hm : k ≠ .map) (content : Json) :
    decode (tagged k content) = decodeScalar k content := by
  rw [decode_tagged, decodeContent_eq_decodeScalar ha hm]

theorem onlyIf_of_no_doubles {v : Value} (ha : v.array? = none) (hm : v.map? = none) (hd : v.ownDoubles = []) :
    onlyIf (v.Everywhere HasFiniteDoubles) v = .ok v := by
  refine onlyIf_of ((everywhere_of_plain ha hm).mpr ?_)
  unfold HasFiniteDoubles
  simp [hd]

theorem plain_decode_toJson {v : Value} (ha : v.array? = none) (hm : v.map? = none)
    (h : v.Everywhere HasValidTimestamp) : decode v.toJson = onlyIf (v.Everywhere HasFiniteDoubles) v := by
  cases v with
  | null => rw [onlyIf_of_no_doubles rfl rfl rfl, decode_toJson_null]
  | boolean b =>
      rw [onlyIf_of_no_doubles rfl rfl rfl, toJson, decode_tagged_scalar (by decide) (by decide)]
      rfl
  | integer i =>
      rw [onlyIf_of_no_doubles rfl rfl rfl, toJson, decode_tagged_scalar (by decide) (by decide), decodeScalar,
        Json.toInt64_ofInt64]
      rfl
  | double d =>
      rw [toJson, decode_tagged_scalar (by decide) (by decide), decodeScalar, Json.toDouble_ofDouble, map_onlyIf]
      exact onlyIf_congr (.trans (by simp [HasFiniteDoubles, ownDoubles]) (everywhere_of_plain ha hm).symm)
  | string s =>
      rw [onlyIf_of_no_doubles rfl rfl rfl, toJson, decode_tagged_scalar (by decide) (by decide)]
      rfl
  | bytes b =>
      rw [onlyIf_of_no_doubles rfl rfl rfl, toJson, decode_tagged_scalar (by decide) (by decide), decodeScalar,
        Json.toBytes_array]
      rfl
  | timestamp t =>
      have ht : t.Valid := (everywhere_of_plain rfl rfl).mp h
      rw [onlyIf_of_no_doubles rfl rfl rfl, toJson, decode_tagged_scalar (by decide) (by decide), decodeScalar,
        Timestamp.decode_toJson ht]
      rfl
  | reference p =>
      rw [onlyIf_of_no_doubles rfl rfl rfl, toJson, decode_tagged_scalar (by decide) (by decide), decodeScalar,
        ResourcePath.decode_toJson]
      rfl
  | geoPoint g =>
      rw [toJson, decode_tagged_scalar (by decide) (by decide), decodeScalar, GeoPoint.decode_toJson, map_onlyIf]
      exact onlyIf_congr (.trans (by simp [HasFiniteDoubles, ownDoubles]) (everywhere_of_plain ha hm).symm)
  | vector entries =>
      have hread : (Json.array (entries.map Json.ofDouble)).toListOf Json.toDouble =
          onlyIf (∀ d ∈ entries, d.isFinite) entries := mapM_onlyIf fun d _ => Json.toDouble_ofDouble d
      rw [toJson, decode_tagged_scalar (by decide) (by decide), decodeScalar, hread, map_onlyIf]
      exact onlyIf_congr (.trans (by simp [HasFiniteDoubles, ownDoubles]) (everywhere_of_plain ha hm).symm)
  | array _ => cases ha
  | map _ => cases hm

/-- A list that nests values is read back item by item, and a map field by field. -/
theorem array_decode_toJson {items : List Value}
    (h : ∀ v ∈ items, decode v.toJson = onlyIf (v.Everywhere HasFiniteDoubles) v) :
    decode (array items).toJson = onlyIf ((array items).Everywhere HasFiniteDoubles) (array items) := by
  have hitems : decodeItems (toJsonItems items) = onlyIf (∀ v ∈ items, v.Everywhere HasFiniteDoubles) items := by
    rw [toJsonItems_eq_map, decodeItems_eq_mapM]
    exact mapM_onlyIf h
  have hdecode : decode (array items).toJson = (decodeItems (toJsonItems items)).map array := by
    rw [toJson, decode_tagged, decodeContent, if_pos rfl]
    cases decodeItems (toJsonItems items) <;> rfl
  rw [hdecode, hitems, map_onlyIf]
  exact onlyIf_congr (by simp [everywhere_array, HasFiniteDoubles, ownDoubles])

theorem decodeFields_toJsonFields {fields : Record}
    (h : ∀ f ∈ fields, decode f.2.toJson = onlyIf (f.2.Everywhere HasFiniteDoubles) f.2) :
    decodeFields (toJsonFields fields) = onlyIf (∀ f ∈ fields, f.2.Everywhere HasFiniteDoubles) fields := by
  rw [toJsonFields_eq_map, decodeFields_eq_mapM]
  refine mapM_onlyIf fun f hf => ?_
  rw [decodeField, h f hf, map_onlyIf]

theorem map_decode_toJson {fields : Record}
    (h : ∀ f ∈ fields, decode f.2.toJson = onlyIf (f.2.Everywhere HasFiniteDoubles) f.2) :
    decode (map fields).toJson = onlyIf ((map fields).Everywhere HasFiniteDoubles) (map fields) := by
  have hdecode : decode (map fields).toJson = (decodeFields (toJsonFields fields)).map map := by
    rw [toJson, decode_tagged, decodeContent, if_pos rfl]
    cases decodeFields (toJsonFields fields) <;> rfl
  rw [hdecode, decodeFields_toJsonFields h, map_onlyIf]
  exact onlyIf_congr (by simp [everywhere_map, HasFiniteDoubles, ownDoubles])

/-- **A value is read back** if its doubles are finite, and otherwise refused. -/
theorem decode_toJson {v : Value} (h : v.Everywhere HasValidTimestamp) :
    decode v.toJson = onlyIf (v.Everywhere HasFiniteDoubles) v := by
  induction v using nested_induction with
  | plain v ha hm => exact plain_decode_toJson ha hm h
  | array items ih => exact array_decode_toJson fun v hv => ih v hv ((everywhere_array.mp h).2 v hv)
  | map fields ih => exact map_decode_toJson fun f hf => ih f hf ((everywhere_map.mp h).2 f hf)

end Value

/-! ### Documents -/

namespace Document

/-- The members of a document without update time, and of one with it. -/
theorem toJson_eq (d : Document) : d.toJson = .object ([("data", Record.toJson d.data), ("key", d.key.toJson)] ++
    match d.updateTime with
    | some t => [("update_time", t.toJson)]
    | none => []) := by
  have hdk : compare "data" "key" = .lt := by decide
  have hud : compare "update_time" "data" = .gt := by decide
  have huk : compare "update_time" "key" = .gt := by decide
  unfold toJson
  cases d.updateTime <;> simp [Json.record, Keyed.ofList, Keyed.insert, hdk, hud, huk]

theorem checkParts_of_hasKey {d : Document} (h : d.HasKey) :
    checkParts d.key d.data d.updateTime = .ok d := by
  have hparts : ofParts? d.key d.data d.updateTime = some d := if_pos h
  unfold checkParts ofParts
  rw [hparts]
  rfl

theorem member?_update_time {d : Document} (h : ∀ t ∈ d.updateTime, t.Valid) :
    Json.member? ([("data", Record.toJson d.data), ("key", d.key.toJson)] ++
      match d.updateTime with
      | some t => [("update_time", t.toJson)]
      | none => []) "update_time" (Json.toOption Timestamp.decode) = .ok (d.updateTime.map some) := by
  rw [List.cons_append, Json.member?_cons_of_ne (by decide), List.cons_append,
    Json.member?_cons_of_ne (by decide), List.nil_append]
  cases htime : d.updateTime with
  | none => rfl
  | some t =>
      have hread : Json.toOption Timestamp.decode t.toJson = .ok (some t) := by
        have hsome : Json.toOption Timestamp.decode t.toJson = (Timestamp.decode t.toJson).map some := rfl
        rw [hsome, Timestamp.decode_toJson (h t htime)]
        rfl
      rw [Json.member?_cons_self, hread]
      rfl

/-- **A document is read back** if its doubles are finite, and otherwise refused. -/
theorem decode_toJson {d : Document} (hkey : d.HasKey) (h : d.TimestampsValid) :
    decode d.toJson = onlyIf (d.Everywhere Value.HasFiniteDoubles) d := by
  obtain ⟨hdata, htime⟩ := h
  have hfields : Record.decode (Record.toJson d.data) =
      onlyIf (d.Everywhere Value.HasFiniteDoubles) d.data :=
    Value.decodeFields_toJsonFields fun f hf => Value.decode_toJson (hdata f hf)
  rw [toJson_eq, decode, member?_update_time htime, List.cons_append, Json.member?_cons_self,
    Json.member?_cons_of_ne (by decide), List.cons_append, Json.member?_cons_self, hfields,
    ResourcePath.decode_toJson]
  have htimes : (d.updateTime.map some).join = d.updateTime := by cases d.updateTime <;> rfl
  rw [map_onlyIf]
  refine bind_onlyIf ?_
  show checkParts d.key d.data (d.updateTime.map some).join = .ok d
  rw [htimes, checkParts_of_hasKey hkey]

end Document

/-! ### Expressions -/

/-- Every function stands in the table of names. -/
theorem Function.exists_mem_names (f : Function) : ∃ entry ∈ names, entry.2 = f := by
  cases f with
  | arithmetic op => cases op <;> decide
  | comparison op => cases op <;> decide
  | logical op => cases op <;> decide
  | typeCheck op => cases op <;> decide
  | array op => cases op <;> decide
  | string op => cases op <;> decide
  | map op => cases op <;> decide
  | timestamp op => cases op <;> decide
  | vector op => cases op <;> decide

/-- No name stands twice in the table; the check is on bytes, which are faster to compare than texts. -/
theorem Function.nodup_names : (names.map fun entry => entry.1.toByteArray.data.toList).Nodup := by
  decide +kernel

theorem Function.eq_of_mem_names {a b : String × Function} (ha : a ∈ names) (hb : b ∈ names) (h : a.1 = b.1) :
    a = b :=
  List.inj_on_of_nodup_map nodup_names ha hb (congrArg (fun name => name.toByteArray.data.toList) h)

/-- Every function is found by its own name. -/
theorem Function.ofOwnName?_name (f : Function) : ofOwnName? f.name = some f := by
  obtain ⟨entry, hentry, hf⟩ := f.exists_mem_names
  obtain ⟨own, hown⟩ : ∃ own, names.find? (·.2 = f) = some own :=
    Option.isSome_iff_exists.mp (List.find?_isSome.mpr ⟨entry, hentry, by simpa using hf⟩)
  have hfun : own.2 = f := by simpa using List.find?_some hown
  have hname : f.name = own.1 := by simp [name, hown]
  -- The entry is found again, because no other one has its name.
  obtain ⟨found, hfound⟩ : ∃ found, names.find? (fun e => e.1 = f.name && e.2.name = f.name) = some found :=
    Option.isSome_iff_exists.mp
      (List.find?_isSome.mpr ⟨own, List.mem_of_find?_eq_some hown, by simp [hfun, hname]⟩)
  have hkeys : found.1 = f.name ∧ found.2.name = f.name := by simpa using List.find?_some hfound
  have hsame : found = own :=
    eq_of_mem_names (List.mem_of_find?_eq_some hfound) (List.mem_of_find?_eq_some hown) (hkeys.1.trans hname)
  simp only [ofOwnName?, hfound, Option.map_some, hsame, hfun]

theorem Function.decode_toJson (f : Function) : decode f.toJson = .ok f := by
  show Json.orShape (ofOwnName? f.name) = .ok f
  rw [ofOwnName?_name]
  rfl

namespace Expression

theorem decode_field (j : Json) : decode (.choice "field" j) = (FieldPath.decode j).map field := by
  rw [Json.choice, decode]

theorem decode_literal (j : Json) : decode (.choice "literal" j) = (Value.decode j).map literal := by
  rw [Json.choice, decode]

theorem decode_call (f : Function) (items : List Json) :
    decode (.choice "function" (.record [("function", f.toJson), ("args", .array items)])) =
      (decodeAll items).map (call f) := by
  have hmembers : Json.record [("function", f.toJson), ("args", .array items)] =
      .object [("args", .array items), ("function", f.toJson)] :=
    Json.record_pair_of_gt _ _ (by decide)
  have hname : Json.member? [("args", .array items), ("function", f.toJson)] "function" Function.decode =
      .ok (some f) := by
    rw [Json.member?_cons_of_ne (by decide), Json.member?_cons_self, Function.decode_toJson]
    rfl
  rw [hmembers, Json.choice, decode, decodeArgs, if_pos rfl]
  cases decodeAll items with
  | error e => rfl
  | ok args =>
      show decodeCall _ (some args) = _
      rw [decodeCall, hname]
      rfl

/-- **An expression is read back** if the doubles of its literals are finite, and otherwise refused. -/
theorem decode_toJson {e : Expression} (h : e.Everywhere Value.HasValidTimestamp) :
    decode e.toJson = onlyIf (e.Everywhere Value.HasFiniteDoubles) e := by
  induction e using nested_induction with
  | field path =>
      rw [toJson, decode_field, FieldPath.decode_toJson, onlyIf_of (everywhere_field path)]
      rfl
  | literal v =>
      rw [toJson, decode_literal, Value.decode_toJson (everywhere_literal.mp h), map_onlyIf]
      exact onlyIf_congr everywhere_literal.symm
  | call f args ih =>
      have hargs : decodeAll (toJsonAll args) = onlyIf (∀ e ∈ args, e.Everywhere Value.HasFiniteDoubles) args := by
        rw [toJsonAll_eq_map, decodeAll_eq_mapM]
        exact mapM_onlyIf fun e he => ih e he (everywhere_call.mp h e he)
      rw [toJson, decode_call, hargs, map_onlyIf]
      exact onlyIf_congr everywhere_call.symm

end Expression

/-! ### Pipelines -/

theorem Direction.decode_toJson (d : Direction) : decode d.toJson = .ok d := by
  cases d <;> rfl

theorem SortKey.decode_toJson {k : SortKey} (h : k.expression.Everywhere Value.HasValidTimestamp) :
    decode k.toJson = onlyIf (k.expression.Everywhere Value.HasFiniteDoubles) k := by
  have hmembers : k.toJson =
      .object [("direction", k.direction.toJson), ("expression", k.expression.toJson)] :=
    Json.record_pair_of_gt _ _ (by decide)
  rw [hmembers, decode, Json.member?_cons_self, Json.member?_cons_of_ne (by decide), Json.member?_cons_self,
    Direction.decode_toJson, Expression.decode_toJson h, map_onlyIf]
  exact bind_onlyIf rfl

theorem Source.decode_toJson (s : Source) : decode s.toJson = .ok s := by
  cases s with
  | collection path =>
      show (ResourcePath.decode path.toJson).map collection = _
      rw [ResourcePath.decode_toJson]
      rfl
  | collectionGroup id => rfl
  | database => rfl
  | documents keys =>
      have hkeys : (Json.array (keys.map ResourcePath.toJson)).toListOf ResourcePath.decode = .ok keys :=
        mapM_ok fun key _ => key.decode_toJson
      show ((Json.array (keys.map ResourcePath.toJson)).toListOf ResourcePath.decode).map documents = _
      rw [hkeys]
      rfl

theorem Stage.decode_toJson {s : Stage} (h : ∀ e ∈ s.expressions, e.Everywhere Value.HasValidTimestamp) :
    decode s.toJson = onlyIf (∀ e ∈ s.expressions, e.Everywhere Value.HasFiniteDoubles) s := by
  match s with
  | .source s =>
      show (Source.decode s.toJson).map source = _
      rw [Source.decode_toJson, onlyIf_of (by simp [expressions])]
      rfl
  | .step (.filter condition) =>
      have hcondition := h condition (by simp [expressions, Step.expressions])
      show (Expression.decode condition.toJson).map (fun e => step (.filter e)) = _
      rw [Expression.decode_toJson hcondition, map_onlyIf]
      exact onlyIf_congr (by simp [expressions, Step.expressions])
  | .step (.sort keys) =>
      have hkeys : (Json.array (keys.map SortKey.toJson)).toListOf SortKey.decode =
          onlyIf (∀ k ∈ keys, k.expression.Everywhere Value.HasFiniteDoubles) keys :=
        mapM_onlyIf fun k hk => SortKey.decode_toJson (h k.expression (List.mem_map_of_mem hk))
      show ((Json.array (keys.map SortKey.toJson)).toListOf SortKey.decode).map (fun ks => step (.sort ks)) = _
      rw [hkeys, map_onlyIf]
      exact onlyIf_congr (by simp [expressions, Step.expressions])
  | .step (.offset count) => exact (onlyIf_of (by simp [expressions, Step.expressions])).symm
  | .step (.limit count) => exact (onlyIf_of (by simp [expressions, Step.expressions])).symm

/-- **A pipeline is read back** if the doubles of its literals are finite, and otherwise refused. -/
theorem Pipeline.decode_toJson {p : Pipeline} (h : p.Everywhere Value.HasValidTimestamp) :
    decode p.toJson = onlyIf (p.Everywhere Value.HasFiniteDoubles) p := by
  have hstages : (Json.array (p.stages.map Stage.toJson)).toListOf Stage.decode =
      onlyIf (p.Everywhere Value.HasFiniteDoubles) p.stages :=
    mapM_onlyIf fun s hs => Stage.decode_toJson (h s hs)
  rw [toJson, decode, hstages]
  refine bind_onlyIf ?_
  rw [ofStages_stages]
  rfl

/-- **What is written is read back exactly, and refused if a double in it is not finite.**  Of the data only what
its types do not say is asked, and what every constructor and every reader of it guarantees: timestamps in their
range, and a document under a document key. -/
theorem written_is_read_back_or_refused :
    (∀ v : Value, v.Everywhere Value.HasValidTimestamp →
      Value.decode v.toJson = if v.Everywhere Value.HasFiniteDoubles then .ok v else .error .shape) ∧
    (∀ d : Document, d.HasKey → d.TimestampsValid →
      Document.decode d.toJson = if d.Everywhere Value.HasFiniteDoubles then .ok d else .error .shape) ∧
    (∀ e : Expression, e.Everywhere Value.HasValidTimestamp →
      Expression.decode e.toJson = if e.Everywhere Value.HasFiniteDoubles then .ok e else .error .shape) ∧
    ∀ p : Pipeline, p.Everywhere Value.HasValidTimestamp →
      Pipeline.decode p.toJson = if p.Everywhere Value.HasFiniteDoubles then .ok p else .error .shape :=
  ⟨fun _ => Value.decode_toJson, fun _ => Document.decode_toJson, fun _ => Expression.decode_toJson,
    fun _ => Pipeline.decode_toJson⟩

/-- Kinds that are written alike: an integer and a double, two zeros, bytes, a vector and an array. -/
def lookalikes : Value :=
  .map [("a", .array [.integer 1, .double .one, .double .zero, .double .negativeZero]),
    ("b", .array [.bytes [1, 0], .vector [.one, .zero], .array [.integer 1, .integer 0]]),
    ("c", .timestamp ⟨0, 5⟩)]

/-- Values that are written alike stay apart on the way through a document and a pipeline, and a NaN deep inside
a literal is refused. -/
theorem written_is_read_back_of_lookalikes :
    Value.decode lookalikes.toJson = .ok lookalikes ∧
    Document.decode (Document.toJson ⟨⟨["c", "d"]⟩, [("f", lookalikes)], some ⟨1, 0⟩⟩) =
      .ok ⟨⟨["c", "d"]⟩, [("f", lookalikes)], some ⟨1, 0⟩⟩ ∧
    Expression.decode (Expression.toJson (.literal (.array [.vector [.nan], lookalikes]))) = .error .shape ∧
    Pipeline.decode (Pipeline.toJson
        ⟨.database, [.sort [⟨.call (.comparison .eq) [.field ⟨["f"]⟩, .literal lookalikes], .descending⟩]]⟩) =
      .ok
        ⟨.database, [.sort [⟨.call (.comparison .eq) [.field ⟨["f"]⟩, .literal lookalikes], .descending⟩]]⟩ := by
  obtain ⟨hvalue, hdocument, hexpression, hpipeline⟩ := written_is_read_back_or_refused
  refine ⟨?value, ?document, ?expression, ?pipeline⟩
  case value => exact (hvalue _ (by decide)).trans (if_pos (by decide))
  case document => exact (hdocument _ (by decide) (by decide)).trans (if_pos (by decide))
  case expression => exact (hexpression _ (by decide)).trans (if_neg (by decide))
  case pipeline => exact (hpipeline _ (by decide)).trans (if_pos (by decide))

end DocumentQuery
