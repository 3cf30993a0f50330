import DocumentQuery.Json.DocumentForm
import DocumentQuery.Proofs.JsonReading
import DocumentQuery.Proofs.TimestampRange

/-! # What is read is valid

No reader answers with data that its constructors would refuse: a timestamp out of range
(`Timestamp.yields_decode`), a document that does not stand under a document key (`Document.yields_decode`), or
stages without a source in front or with a second one (`Pipeline.ofStages_eq_ok_iff`).  The readers of parts,
lists and members pass on what the readers of their items guarantee, so every timestamp is found in range however
deep it is nested.  The induction is on the size of a tree (`Json.size_induction`), because a reader looks
through several layers of a tree at once: an argument of a call is three layers below the call. -/

namespace DocumentQuery

open Value (HasValidTimestamp)

namespace Json

theorem sizeOf_lt_array {items : List Json} {j : Json} (h : j ∈ items) : sizeOf j < sizeOf (array items) := by
  have := List.sizeOf_lt_of_mem h
  simp
  omega

theorem sizeOf_lt_object {fields : List (String × Json)} {f : String × Json} (h : f ∈ fields) :
    sizeOf f.2 < sizeOf (object fields) := by
  have := List.sizeOf_lt_of_mem h
  cases f
  simp at this ⊢
  omega

/-- Induction over trees, with everything below a tree at hand. -/
@[elab_as_elim]
theorem size_induction {motive : Json → Prop}
    (step : ∀ j, (∀ i : Json, sizeOf i < sizeOf j → motive i) → motive j) (j : Json) : motive j :=
  step j fun i _ => size_induction step i
termination_by sizeOf j

/-! ### Readers of parts -/

variable {α : Type} {P : α → Prop} {read : Json → Decoded α}

theorem yields_orShape {o : Option α} (h : ∀ a ∈ o, P a) : Yields P (orShape o) := by
  cases o with
  | none => exact .error
  | some a => exact .ok (h a rfl)

theorem yields_member? (h : ∀ j, Yields P (read j)) (fields : List (String × Json)) (name : String) :
    Yields (fun o => ∀ a ∈ o, P a) (member? fields name read) := by
  unfold member?
  split
  case h_1 j _ => exact (h j).map fun a ha b hb => Option.some.inj hb ▸ ha
  case h_2 => exact .ok nofun

theorem yields_toOption (h : ∀ j, Yields P (read j)) (j : Json) :
    Yields (fun o => ∀ a ∈ o, P a) (toOption read j) := by
  unfold toOption
  split
  · exact .ok nofun
  · exact (h _).map fun a ha b hb => Option.some.inj hb ▸ ha

theorem yields_toListOf (h : ∀ j, Yields P (read j)) (j : Json) :
    Yields (fun l => ∀ a ∈ l, P a) (toListOf read j) := by
  unfold toListOf
  split
  · exact .mapM fun i _ => h i
  · exact .error

end Json

/-! ### Values -/

namespace Timestamp

theorem yields_checkParts (seconds nanos : Int64) : Yields Valid (checkParts seconds nanos) := by
  unfold checkParts
  split
  case h_1 t ht => exact .ok (valid_of_ofParts? ht)
  case h_2 => exact .error

theorem yields_decode (j : Json) : Yields Valid (decode j) := by
  unfold decode
  split
  case h_1 fields =>
    exact .bind_of_forall fun _ => .bind_of_forall fun _ => .bind_of_forall fun _ => .bind_of_forall fun _ =>
      yields_checkParts _ _
  case h_2 => exact .bind_of_forall fun _ => .bind_of_forall fun _ => yields_checkParts _ _
  case h_3 => exact .error

end Timestamp

namespace Value

theorem yields_decodeScalar (k : Kind) (content : Json) :
    Yields (Everywhere HasValidTimestamp) (decodeScalar k content) := by
  unfold decodeScalar
  split
  -- A null, a timestamp, a content of the wrong kind, and then the scalars.
  case h_1 => exact .ok (everywhere_of_scalar rfl rfl rfl)
  case h_7 => exact (Timestamp.yields_decode content).map fun _ ht => everywhere_timestamp.mpr ht
  case h_11 => exact .error
  all_goals exact .map_of_forall fun _ => everywhere_of_scalar rfl rfl rfl

theorem yields_decodeMember {P : Value → Prop} {k : Kind} {fields : List (String × Json)} (hnull : P .null)
    (h : ∀ f ∈ fields, Yields P (decodeContent k f.2)) : Yields P (decodeMember k fields) := by
  induction fields with
  | nil =>
      unfold decodeMember
      split_ifs
      · exact .ok hnull
      · exact .error
  | cons f rest ih =>
      obtain ⟨hf, hrest⟩ := List.forall_mem_cons.mp h
      unfold decodeMember
      split_ifs
      · exact hf
      · exact ih hrest

theorem yields_decodeContent {k : Kind} {j : Json}
    (h : ∀ i : Json, sizeOf i < sizeOf j → Yields (Everywhere HasValidTimestamp) (decode i)) :
    Yields (Everywhere HasValidTimestamp) (decodeContent k j) := by
  unfold decodeContent
  split
  case h_1 items =>
    split_ifs
    · rw [decodeItems_eq_mapM]
      have hitems : Yields (fun vs => ∀ v ∈ vs, v.Everywhere HasValidTimestamp) (items.mapM decode) :=
        .mapM fun i hi => h i (Json.sizeOf_lt_array hi)
      split
      case h_1 vs hvs => exact .ok (everywhere_items.mpr (hitems vs hvs))
      case h_2 => exact .error
    · exact yields_decodeScalar _ _
  case h_2 fields =>
    split_ifs
    · rw [decodeFields_eq_mapM]
      have hfields : Yields (fun fs : Record => ∀ f ∈ fs, f.2.Everywhere HasValidTimestamp)
          (fields.mapM decodeField) :=
        .mapM fun f hf => (h f.2 (Json.sizeOf_lt_object hf)).map fun _ hv => hv
      split
      case h_1 fs hfs => exact .ok (everywhere_fields.mpr (hfields fs hfs))
      case h_2 => exact .error
    · exact yields_decodeScalar _ _
  case h_3 => exact yields_decodeScalar _ _

/-- A value that is read has its timestamps in range. -/
theorem yields_decode (j : Json) : Yields (Everywhere HasValidTimestamp) (decode j) := by
  induction j using Json.size_induction with
  | step j ih =>
      have hcontent (k : Kind) {i : Json} (hi : sizeOf i < sizeOf j) :
          Yields (Everywhere HasValidTimestamp) (decodeContent k i) :=
        yields_decodeContent fun l hl => ih l (Nat.lt_trans hl hi)
      unfold decode
      split
      case h_1 fields =>
        split
        · split
          · exact yields_decodeMember (everywhere_of_scalar rfl rfl rfl) fun f hf =>
              hcontent _ (Json.sizeOf_lt_object hf)
          · exact .error
        · exact .error
      case h_2 tag content rest =>
        have hmem : content ∈ .string tag :: content :: rest := by simp
        split
        case h_1 k _ =>
          split
          case h_1 v hv =>
            split_ifs
            · exact .ok (hcontent k (Json.sizeOf_lt_array hmem) v hv)
            · exact .error
          case h_2 => exact .error
        case h_2 => exact .error
      case h_3 => exact .error

end Value

/-! ### Documents -/

theorem Record.yields_decode (j : Json) :
    Yields (fun fields : Record => ∀ f ∈ fields, f.2.Everywhere HasValidTimestamp) (decode j) := by
  unfold decode
  split
  · rw [Value.decodeFields_eq_mapM]
    exact .mapM fun f _ => (Value.yields_decode f.2).map fun _ hv => hv
  · exact .error

namespace Document

theorem yields_checkParts {key : ResourcePath} {data : Record} {time : Option Timestamp}
    (hdata : ∀ f ∈ data, f.2.Everywhere HasValidTimestamp) (htime : ∀ t ∈ time, t.Valid) :
    Yields (fun d => d.HasKey ∧ d.TimestampsValid) (checkParts key data time) := by
  refine .mapError ?_
  unfold ofParts ofParts?
  split_ifs with hkey
  · exact .ok ⟨hkey, hdata, htime⟩
  · exact .error

/-- A document that is read has a document key, and its timestamps in range. -/
theorem yields_decode (j : Json) : Yields (fun d => d.HasKey ∧ d.TimestampsValid) (decode j) := by
  unfold decode
  split
  case h_1 fields =>
    refine (Json.yields_member? Record.yields_decode fields "data").bind fun data hdata => ?_
    refine .bind_of_forall fun key => ?_
    refine (Json.yields_member? (Json.yields_toOption Timestamp.yields_decode) fields "update_time").bind
      fun time htime => ?_
    have htimes : ∀ t ∈ time.join, t.Valid := fun t ht =>
      htime (some t) (Option.join_eq_some_iff.mp ht) t rfl
    refine .bind_of_forall fun key => (Json.yields_orShape hdata).bind fun data hdata => ?_
    exact yields_checkParts hdata htimes
  case h_2 key data =>
    refine .bind_of_forall fun key => (Record.yields_decode data).bind fun data hdata => ?_
    exact yields_checkParts hdata nofun
  case h_3 _ key data time rest =>
    refine .bind_of_forall fun key => (Record.yields_decode data).bind fun data hdata => ?_
    refine (Json.yields_toOption Timestamp.yields_decode time).bind fun time htime => ?_
    split_ifs
    · exact yields_checkParts hdata htime
    · exact .error
  case h_4 => exact .error

end Document

/-! ### Expressions and pipelines -/

namespace Expression

theorem yields_decodeArgs {P : Expression → Prop} {fields : List (String × Json)}
    (h : ∀ f ∈ fields, ∀ items, f.2 = .array items → ∀ i ∈ items, Yields P (decode i)) :
    Yields (fun o => ∀ es ∈ o, ∀ e ∈ es, P e) (decodeArgs fields) := by
  induction fields with
  | nil => exact .ok nofun
  | cons f rest ih =>
      obtain ⟨hf, hrest⟩ := List.forall_mem_cons.mp h
      unfold decodeArgs
      split
      case h_1 heq => cases heq
      case h_2 name items _ heq =>
        cases heq
        split_ifs
        · rw [decodeAll_eq_mapM]
          have hall : Yields (fun es => ∀ e ∈ es, P e) (items.mapM decode) := .mapM fun i hi => hf items rfl i hi
          split
          case h_1 es hes => exact .ok fun as has => Option.some.inj has ▸ hall es hes
          case h_2 => exact .error
        · exact ih hrest
      case h_3 heq =>
        cases heq
        split_ifs
        · exact .error
        · exact ih hrest

theorem yields_decodeCall {P : Expression → Prop} {fields : List (String × Json)}
    {args : Option (List Expression)} (h : ∀ f, ∀ es ∈ args, P (call f es)) :
    Yields P (decodeCall fields args) := by
  refine .bind_of_forall fun f => (Json.yields_orShape (P := fun es => ∀ f, P (call f es)) ?_).bind
    fun es hes => .bind_of_forall fun f => .ok (hes f)
  exact fun es hes f => h f es hes

/-- An expression that is read has the timestamps in its literals in range. -/
theorem yields_decode (j : Json) : Yields (Everywhere HasValidTimestamp) (decode j) := by
  induction j using Json.size_induction with
  | step j ih =>
      unfold decode
      split
      case h_1 => exact .map_of_forall fun _ => everywhere_field _
      case h_2 j => exact (Value.yields_decode j).map fun _ hv => everywhere_literal.mpr hv
      case h_3 fields =>
        have hargs : Yields (fun o => ∀ es ∈ o, ∀ e ∈ es, e.Everywhere HasValidTimestamp) (decodeArgs fields) := by
          refine yields_decodeArgs fun f hf items hitems i hi => ih i ?_
          -- From an argument up to the whole: its list, the members of the call, the call, and its name.
          have harg := Json.sizeOf_lt_array hi
          have hlist := Json.sizeOf_lt_object hf
          have hcall : sizeOf (Json.object fields) < sizeOf (Json.object [("function", .object fields)]) :=
            Json.sizeOf_lt_object (f := ("function", .object fields)) List.mem_cons_self
          rw [hitems] at hlist
          omega
        split
        case h_1 args hread =>
          exact yields_decodeCall fun f es hes => everywhere_call.mpr (hargs args hread es hes)
        case h_2 => exact .error
      case h_4 => exact .error

end Expression

theorem SortKey.yields_decode (j : Json) :
    Yields (fun k => k.expression.Everywhere HasValidTimestamp) (decode j) := by
  unfold decode
  split
  case h_1 fields =>
    refine .bind_of_forall fun direction => ?_
    refine (Json.yields_member? Expression.yields_decode fields "expression").bind fun expression he => ?_
    exact (Json.yields_orShape he).bind fun expression he => .bind_of_forall fun direction => .ok he
  case h_2 expression direction rest =>
    refine (Expression.yields_decode expression).bind fun expression he => .bind_of_forall fun direction => ?_
    split_ifs
    · exact .ok he
    · exact .error
  case h_3 => exact .bind_of_forall fun _ => .error
  case h_4 => exact .error

theorem Stage.yields_decode (j : Json) :
    Yields (fun s => ∀ e ∈ s.expressions, e.Everywhere HasValidTimestamp) (decode j) := by
  unfold decode
  split
  case h_1 => exact .map_of_forall fun _ e he => absurd he List.not_mem_nil
  case h_2 j =>
    exact (Expression.yields_decode j).map fun condition hc e he => by
      obtain rfl := List.mem_singleton.mp he
      exact hc
  case h_3 j =>
    refine (Json.yields_toListOf SortKey.yields_decode j).map fun keys hkeys e he => ?_
    obtain ⟨key, hkey, rfl⟩ := List.mem_map.mp he
    exact hkeys key hkey
  case h_4 | h_5 => exact .map_of_forall fun _ e he => absurd he List.not_mem_nil
  case h_6 => exact .error

namespace Pipeline

theorem steps?_eq_some_iff {stages : List Stage} {steps : List Step} :
    Stage.steps? stages = some steps ↔ stages = steps.map .step := by
  refine ⟨fun h => ?_, fun h => h ▸ steps?_map_step steps⟩
  induction stages generalizing steps with
  | nil =>
      cases h
      rfl
  | cons s rest ih =>
      cases s with
      | source s => cases h
      | step s =>
          obtain ⟨others, hothers, rfl⟩ := Option.map_eq_some_iff.mp h
          rw [ih hothers, List.map_cons]

/-- Stages make a pipeline exactly if they are those of a pipeline. -/
theorem ofStages_eq_ok_iff {stages : List Stage} {p : Pipeline} : ofStages stages = .ok p ↔ stages = p.stages := by
  refine ⟨fun h => ?_, fun h => h ▸ ofStages_stages p⟩
  unfold ofStages at h
  split at h
  case h_1 => cases h
  case h_2 s rest =>
    split at h
    case h_1 steps hsteps =>
      cases h
      rw [steps?_eq_some_iff.mp hsteps]
      rfl
    case h_2 => cases h
  case h_3 => cases h

/-- The source of a pipeline stands in front, and there is no other. -/
theorem getElem?_stages_eq_source {p : Pipeline} {i : Nat} {s : Source} :
    p.stages[i]? = some (.source s) ↔ i = 0 ∧ s = p.source := by
  cases i with
  | zero => simp [stages, eq_comm]
  | succ i => simp [stages]

theorem yields_decode (j : Json) :
    Yields (fun p => p.Everywhere HasValidTimestamp ∧ j.toListOf Stage.decode = .ok p.stages) (decode j) := by
  have hstages := Json.yields_toListOf Stage.yields_decode j
  unfold decode
  intro p hp
  cases hread : j.toListOf Stage.decode with
  | error e =>
      rw [hread] at hp
      cases hp
  | ok stages =>
      rw [hread] at hp
      have hbuilt : Yields (fun q => stages = q.stages) ((ofStages stages).mapError DecodeError.build) :=
        .mapError fun q hq => ofStages_eq_ok_iff.mp hq
      obtain rfl := hbuilt p hp
      exact ⟨hstages _ hread, rfl⟩

end Pipeline

/-! ### Data read and evaluated -/

/-- **No invalid object enters or arises.**  Whatever tree is read, the timestamps anywhere in the data are in
range, a document stands under a document key, and a pipeline consists of the stages that were read, with a
source in front and no other; and evaluation keeps the timestamps of an expression and a document in range. -/
theorem read_and_evaluated_data_is_valid (limits : Limits) :
    (∀ (j : Json) (v : Value), Value.decode j = .ok v → v.Everywhere HasValidTimestamp) ∧
    (∀ (j : Json) (d : Document), Document.decode j = .ok d → d.HasKey ∧ d.TimestampsValid) ∧
    (∀ (j : Json) (e : Expression), Expression.decode j = .ok e → e.Everywhere HasValidTimestamp) ∧
    (∀ (j : Json) (p : Pipeline), Pipeline.decode j = .ok p →
      p.Everywhere HasValidTimestamp ∧ j.toListOf Stage.decode = .ok p.stages ∧
        ∀ i s, p.stages[i]? = some (.source s) ↔ i = 0 ∧ s = p.source) ∧
    ∀ (d : Document) (e : Expression), d.Everywhere HasValidTimestamp → e.Everywhere HasValidTimestamp →
      (e.evaluate limits d).Everywhere HasValidTimestamp := by
  refine ⟨Value.yields_decode, Document.yields_decode, Expression.yields_decode, fun j p hp => ?pipeline,
    fun d e hd he => Expression.inRange_evaluate limits hd he⟩
  case pipeline =>
    obtain ⟨hrange, hstages⟩ := Pipeline.yields_decode j p hp
    exact ⟨hrange, hstages, fun i s => Pipeline.getElem?_stages_eq_source⟩

/-- The second before the last one in range. -/
def lastButOne : Timestamp := ⟨253402300798, 0⟩

/-- A tree of this second as a value, by position. -/
def lastButOneTree : Json :=
  .array [.string "timestamp", .array [.number (.natural 253402300798), .number (.natural 0)]]

/-- The expression for one second after the field `t`. -/
def oneSecondLater : Expression :=
  .call (.timestamp .add) [.field ⟨["t"]⟩, .literal (.string "second"), .literal (.integer 1)]

/-- At the end of the range: a timestamp comes in through every kind of data, and one second later is the last
second of the range. -/
theorem read_and_evaluated_data_is_valid_at_last_second :
    (.timestamp lastButOne : Value).Everywhere HasValidTimestamp ∧
    Document.HasKey ⟨⟨["c", "d"]⟩, [("t", .timestamp lastButOne)], none⟩ ∧
    (.literal (.timestamp lastButOne) : Expression).Everywhere HasValidTimestamp ∧
    (∀ i s, (Pipeline.stages ⟨.database, [.filter (.literal (.timestamp lastButOne))]⟩)[i]? = some (.source s) ↔
      i = 0 ∧ s = .database) ∧
    oneSecondLater.evaluate {} ⟨⟨["c", "d"]⟩, [("t", .timestamp lastButOne)], none⟩ =
      .value (.timestamp ⟨253402300799, 0⟩) ∧
    (.value (.timestamp ⟨253402300799, 0⟩) : Outcome).Everywhere HasValidTimestamp := by
  obtain ⟨hvalue, hdocument, hexpression, hpipeline, hevaluate⟩ := read_and_evaluated_data_is_valid {}
  have hvalid := hvalue lastButOneTree (.timestamp lastButOne) rfl
  have hread := hdocument (.array [.array [.string "c", .string "d"], .object [("t", lastButOneTree)]])
    ⟨⟨["c", "d"]⟩, [("t", .timestamp lastButOne)], none⟩ rfl
  have hstages := hpipeline
    (.array [.object [("source", .string "database")], .object [("where", .object [("literal", lastButOneTree)])]])
    ⟨.database, [.filter (.literal (.timestamp lastButOne))]⟩ rfl
  have hlater := hevaluate ⟨⟨["c", "d"]⟩, [("t", .timestamp lastButOne)], none⟩ oneSecondLater hread.2.1
    (by decide)
  exact ⟨hvalid, hread.1, hexpression (.object [("literal", lastButOneTree)]) _ rfl, hstages.2.2, rfl, hlater⟩

end DocumentQuery
