import Mathlib.Data.Set.Image
import DocumentQuery.Proofs.ByteOrder
import DocumentQuery.Proofs.OutcomeForm
import DocumentQuery.Proofs.StrictFunctions

/-! # Finite maps

Maps in order are told apart by look-ups (`Keyed.eq_of_find?_eq`).  Of merged maps the last one with a key gives its
value (`Keyed.find?_mergeAll_of_last`), so merging is associative.  The constructor of maps takes a key and a value at a
time: `MapFunction.ofPairs_cons_iff` says which pairs it takes and what a pair does to the map so far, and the facts
about a whole call follow by induction over the pairs.  A look-up gives back the outcome that was bound to the key, a
null as a null, since no outcome is the null value (`Expression.evaluate_ne_value_null`). -/

namespace DocumentQuery

namespace Keyed

variable {κ α : Type} [Ord κ] {key : κ}

/-- All maps together, from left to right. -/
def mergeAll (maps : List (List (κ × α))) : List (κ × α) := maps.foldl merge []

theorem ascending_foldl_merge [Std.TransOrd κ] {first : List (κ × α)} (maps : List (List (κ × α)))
    (h : Ascending first) : Ascending (maps.foldl merge first) := by
  induction maps generalizing first with
  | nil => exact h
  | cons m rest ih => exact ih (ascending_merge m h)

theorem ascending_mergeAll [Std.TransOrd κ] (maps : List (List (κ × α))) : Ascending (mergeAll maps) :=
  ascending_foldl_merge maps List.Pairwise.nil

variable [Std.LawfulEqOrd κ]

theorem find?_foldl_merge_of_forall {first : List (κ × α)} {maps : List (List (κ × α))}
    (h : ∀ m ∈ maps, key ∉ keys m) : find? key (maps.foldl merge first) = find? key first := by
  induction maps generalizing first with
  | nil => rfl
  | cons m rest ih =>
      obtain ⟨hm, hrest⟩ := List.forall_mem_cons.mp h
      rw [List.foldl_cons, ih hrest, find?_merge, find?_eq_none_iff.mpr hm, Option.none_or]

theorem find?_mergeAll_of_forall {maps : List (List (κ × α))} (h : ∀ m ∈ maps, key ∉ keys m) :
    find? key (mergeAll maps) = none := find?_foldl_merge_of_forall h

/-- The last map with a key decides. -/
theorem find?_mergeAll_of_last (before : List (List (κ × α))) {m : List (κ × α)} {after : List (List (κ × α))}
    (hm : key ∈ keys m) (hafter : ∀ n ∈ after, key ∉ keys n) :
    find? key (mergeAll (before ++ m :: after)) = find? key m := by
  obtain ⟨a, ha⟩ := Option.ne_none_iff_exists'.mp fun hnone => find?_eq_none_iff.mp hnone hm
  rw [mergeAll, List.foldl_append, List.foldl_cons, find?_foldl_merge_of_forall hafter, find?_merge, ha, Option.some_or]

theorem mergeAll_assoc_left [Std.TransOrd κ] (a b c : List (κ × α)) :
    mergeAll [mergeAll [a, b], c] = mergeAll [a, b, c] := by
  refine eq_of_find?_eq (ascending_mergeAll _) (ascending_mergeAll _) fun key => ?_
  simp only [mergeAll, List.foldl_cons, List.foldl_nil, find?_merge, find?_nil, Option.or_none]

theorem mergeAll_assoc_right [Std.TransOrd κ] (a b c : List (κ × α)) :
    mergeAll [a, mergeAll [b, c]] = mergeAll [a, b, c] := by
  refine eq_of_find?_eq (ascending_mergeAll _) (ascending_mergeAll _) fun key => ?_
  simp only [mergeAll, List.foldl_cons, List.foldl_nil, find?_merge, find?_nil, Option.or_none, Option.or_assoc]

end Keyed

/-- What is present and no null value is found again as it was stored. -/
theorem Outcome.ofValue_stored {o : Outcome} (h : o.IsPresent) (hnull : o ≠ .value .null) :
    .ofValue (o.stored?.getD .null) = o := by
  cases o with
  | value v => exact ofValue_of_ne_null fun hv => hnull (congrArg value hv)
  | null => rfl
  | unset | error _ => exact absurd h id

namespace MapFunction

/-! ### Merging -/

theorem merged_maps (fields : Record) (maps : List Record) :
    merged fields (maps.map .map) = .ok (maps.foldl Keyed.merge fields) := by
  induction maps generalizing fields with
  | nil => rfl
  | cons m rest ih => exact ih (Keyed.merge fields m)

/-! ### Keys and values in turn -/

/-- The first components of some pairs, each followed by the second one. -/
def inTurn {α : Type} : List (α × α) → List α
  | [] => []
  | p :: rest => p.1 :: p.2 :: inTurn rest

theorem length_inTurn {α : Type} (pairs : List (α × α)) : (inTurn pairs).length = 2 * pairs.length := by
  induction pairs with
  | nil => rfl
  | cons p rest ih =>
      rw [inTurn, List.length_cons, List.length_cons, List.length_cons, ih]
      rfl

theorem map_inTurn {α β : Type} (g : α → β) (pairs : List (α × α)) :
    (inTurn pairs).map g = inTurn (pairs.map (Prod.map g g)) := by
  induction pairs with
  | nil => rfl
  | cons p rest ih => rw [inTurn, List.map_cons, List.map_cons, ih, List.map_cons, inTurn, Prod.map_fst, Prod.map_snd]

/-! ### Building a map -/

variable {f : Function} {fields result : Record} {key value : Outcome} {rest : List Outcome}
  {pairs : List (Outcome × Outcome)} {k : String}

theorem keyOf_eq_ok_iff : keyOf f key = .ok k ↔ key = .value (.string k) := by
  constructor
  · intro h
    unfold keyOf at h
    split at h
    · cases h
      rfl
    · cases h
    · cases h
  · rintro rfl
    rfl

/-- A map comes of a text and of what is present, bound to it in the map so far. -/
theorem ofPairs_cons_iff : ofPairs f fields (key :: value :: rest) = .value (.map result) ↔
    ∃ k, key = .value (.string k) ∧ value.IsPresent ∧
      ofPairs f (Keyed.insert k (value.stored?.getD .null) fields) rest = .value (.map result) := by
  constructor
  · intro h
    rw [ofPairs] at h
    split at h
    · cases h
    · rename_i hargument
      split at h
      · cases h
      · rename_i k hkey
        have hpresent := (Option.or_eq_none_iff.mp hargument).2
        exact ⟨k, keyOf_eq_ok_iff.mp hkey, Outcome.argumentError?_eq_none_iff.mp hpresent, h⟩
  · rintro ⟨k, rfl, hpresent, h⟩
    have hargument : (Outcome.value (.string k)).argumentError? f = none := rfl
    rw [ofPairs, hargument, Outcome.argumentError?_eq_none_iff.mpr hpresent]
    exact h

/-- The pairs that make a map. -/
theorem exists_ofPairs_iff (f : Function) (fields : Record) (pairs : List (Outcome × Outcome)) :
    (∃ result, ofPairs f fields (inTurn pairs) = .value (.map result)) ↔
      ∀ p ∈ pairs, (∃ k, p.1 = .value (.string k)) ∧ p.2.IsPresent := by
  induction pairs generalizing fields with
  | nil => exact ⟨fun _ => List.forall_mem_nil _, fun _ => ⟨fields, rfl⟩⟩
  | cons p rest ih =>
      rw [List.forall_mem_cons]
      constructor
      · rintro ⟨result, h⟩
        obtain ⟨k, hkey, hpresent, hrest⟩ := ofPairs_cons_iff.mp h
        exact ⟨⟨⟨k, hkey⟩, hpresent⟩, (ih _).mp ⟨result, hrest⟩⟩
      · rintro ⟨⟨⟨k, hkey⟩, hpresent⟩, hall⟩
        obtain ⟨result, hrest⟩ := (ih _).mpr hall
        exact ⟨result, ofPairs_cons_iff.mpr ⟨k, hkey, hpresent, hrest⟩⟩

theorem ascending_ofPairs (hfields : Keyed.Ascending fields)
    (h : ofPairs f fields (inTurn pairs) = .value (.map result)) : Keyed.Ascending result := by
  induction pairs generalizing fields with
  | nil =>
      cases h
      exact hfields
  | cons p rest ih =>
      obtain ⟨k, -, -, hrest⟩ := ofPairs_cons_iff.mp h
      exact ih (Keyed.ascending_insert hfields) hrest

/-- Pairs with other keys leave a look-up as it was. -/
theorem find?_ofPairs_of_forall (hother : ∀ p ∈ pairs, p.1 ≠ .value (.string k))
    (h : ofPairs f fields (inTurn pairs) = .value (.map result)) :
    Keyed.find? k result = Keyed.find? k fields := by
  induction pairs generalizing fields with
  | nil =>
      cases h
      rfl
  | cons p rest ih =>
      obtain ⟨hp, hothers⟩ := List.forall_mem_cons.mp hother
      obtain ⟨k', hkey, -, hrest⟩ := ofPairs_cons_iff.mp h
      have hne : k ≠ k' := by
        rintro rfl
        exact hp hkey
      rw [ih hothers hrest, Keyed.find?_insert_of_ne _ _ hne]

/-- The last pair with a key is present, and the look-up finds what it stored. -/
theorem find?_ofPairs_of_last {before after : List (Outcome × Outcome)}
    (hother : ∀ p ∈ after, p.1 ≠ .value (.string k))
    (h : ofPairs f fields (inTurn (before ++ (.value (.string k), value) :: after)) = .value (.map result)) :
    value.IsPresent ∧ Keyed.find? k result = some (value.stored?.getD .null) := by
  -- The pairs in front only change the map so far, which may be any map.
  induction before generalizing fields with
  | nil =>
      obtain ⟨k', hkey, hpresent, hrest⟩ := ofPairs_cons_iff.mp h
      cases hkey
      rw [find?_ofPairs_of_forall hother hrest, Keyed.find?_insert_self]
      exact ⟨hpresent, rfl⟩
  | cons p before ih =>
      obtain ⟨k', -, -, hrest⟩ := ofPairs_cons_iff.mp h
      exact ih hrest

end MapFunction

namespace Expression

/-! ### Maps in expressions -/

/-- The value of a key in a map. -/
def entryOf (m x : Expression) : Expression := call (.map .get) [m, x]

/-- A map without a key. -/
def withoutKey (m x : Expression) : Expression := call (.map .remove) [m, x]

def mergedMaps (args : List Expression) : Expression := call (.map .merge) args

/-- The map of some keys and values. -/
def mapOf (pairs : List (Expression × Expression)) : Expression := call (.map .map) (MapFunction.inTurn pairs)

section

variable (limits : Limits) (d : Document)

def IsMap (e : Expression) : Prop := ∃ fields, e.evaluate limits d = .value (.map fields)

/-- The expression gives a map in byte order. -/
def IsOrderedMap (e : Expression) : Prop :=
  ∃ fields, e.evaluate limits d = .value (.map fields) ∧ Keyed.InByteOrder fields

/-- The expression gives a map that has a key. -/
def HasKey (k : String) (e : Expression) : Prop :=
  ∃ fields, e.evaluate limits d = .value (.map fields) ∧ k ∈ Keyed.keys fields

/-- The expression gives a key. -/
def IsKey (k : String) (e : Expression) : Prop := e.evaluate limits d = .value (.string k)

end

variable {limits : Limits} {d : Document} {a b c e x : Expression} {args : List Expression} {fields : Record}
  {k : String}

theorem evaluate_entryOf (he : e.evaluate limits d = .value (.map fields)) (hx : IsKey limits d k x) :
    (entryOf e x).evaluate limits d = MapFunction.look fields k := by
  have hf : (Function.map .get).IsStrict := trivial
  have hargs : [e, x].map (evaluate limits d) = [Value.map fields, .string k].map .value :=
    map_evaluate_cons he (map_evaluate_cons hx rfl)
  exact evaluate_call_of_values limits d hf hargs rfl

theorem evaluate_withoutKey (he : e.evaluate limits d = .value (.map fields)) (hx : IsKey limits d k x) :
    (withoutKey e x).evaluate limits d = .value (.map (Keyed.erase k fields)) := by
  have hf : (Function.map .remove).IsStrict := trivial
  have hargs : [e, x].map (evaluate limits d) = [Value.map fields, .string k].map .value :=
    map_evaluate_cons he (map_evaluate_cons hx rfl)
  exact evaluate_call_of_values limits d hf hargs rfl

theorem evaluate_mergedMaps (hcount : (Function.map .merge).arity.Accepts args.length) (maps : List Record)
    (hargs : args.map (evaluate limits d) = maps.map fun m => .value (.map m)) :
    (mergedMaps args).evaluate limits d = .value (.map (Keyed.mergeAll maps)) := by
  have hf : (Function.map .merge).IsStrict := trivial
  have hlength : args.length = maps.length := by simpa only [List.length_map] using congrArg List.length hargs
  rw [mergedMaps, evaluate_call_of_parts limits d hf hargs (hlength ▸ hcount), Function.onValues, MapFunction.apply,
    MapFunction.merged_maps]
  rfl

theorem exists_maps (h : ∀ e ∈ args, IsMap limits d e) :
    ∃ maps : List Record, args.map (evaluate limits d) = maps.map fun m => .value (.map m) := by
  induction args with
  | nil => exact ⟨[], rfl⟩
  | cons e rest ih =>
      obtain ⟨⟨m, hm⟩, hrest⟩ := List.forall_mem_cons.mp h
      obtain ⟨maps, hmaps⟩ := ih hrest
      exact ⟨m :: maps, map_evaluate_cons hm hmaps⟩

/-! ### Merged maps -/

theorem isOrderedMap_mergedMaps (hcount : (Function.map .merge).arity.Accepts args.length)
    (hargs : ∀ e ∈ args, IsMap limits d e) : IsOrderedMap limits d (mergedMaps args) := by
  obtain ⟨maps, hmaps⟩ := exists_maps hargs
  exact ⟨_, evaluate_mergedMaps hcount maps hmaps, Keyed.inByteOrder_iff.mpr (Keyed.ascending_mergeAll maps)⟩

/-- Operands without a key are maps without the key. -/
theorem forall_not_mem_keys {maps : List Record} (hargs : ∀ e ∈ args, ¬ HasKey limits d k e)
    (hmaps : args.map (evaluate limits d) = maps.map fun m => .value (.map m)) :
    ∀ m ∈ maps, k ∉ Keyed.keys m := by
  intro m hm hk
  have hmem : .value (.map m) ∈ args.map (evaluate limits d) := hmaps ▸ List.mem_map_of_mem hm
  obtain ⟨e, he, heval⟩ := List.mem_map.mp hmem
  exact hargs e he ⟨m, heval, hk⟩

theorem entryOf_mergedMaps_of_forall (hx : IsKey limits d k x)
    (hcount : (Function.map .merge).arity.Accepts args.length) (hargs : ∀ e ∈ args, IsMap limits d e)
    (hother : ∀ e ∈ args, ¬ HasKey limits d k e) : (entryOf (mergedMaps args) x).evaluate limits d = .unset := by
  obtain ⟨maps, hmaps⟩ := exists_maps hargs
  rw [evaluate_entryOf (evaluate_mergedMaps hcount maps hmaps) hx, MapFunction.look,
    Keyed.find?_mergeAll_of_forall (forall_not_mem_keys hother hmaps)]

/-- The last operand with a key decides. -/
theorem entryOf_mergedMaps_of_last (hx : IsKey limits d k x) {before after : List Expression}
    (hcount : (Function.map .merge).arity.Accepts (before ++ e :: after).length)
    (hargs : ∀ b ∈ before ++ e :: after, IsMap limits d b) (he : HasKey limits d k e)
    (hother : ∀ b ∈ after, ¬ HasKey limits d k b) :
    (entryOf (mergedMaps (before ++ e :: after)) x).evaluate limits d = (entryOf e x).evaluate limits d := by
  obtain ⟨fields, hfields, hk⟩ := he
  obtain ⟨hbefore, hrest⟩ := List.forall_mem_append.mp hargs
  obtain ⟨first, hfirst⟩ := exists_maps hbefore
  obtain ⟨last, hlast⟩ := exists_maps (List.forall_mem_cons.mp hrest).2
  have hmaps : (before ++ e :: after).map (evaluate limits d) =
      (first ++ fields :: last).map fun m => .value (.map m) := by
    rw [List.map_append, List.map_append, hfirst]
    exact congrArg _ (map_evaluate_cons hfields hlast)
  rw [evaluate_entryOf (evaluate_mergedMaps hcount _ hmaps) hx, evaluate_entryOf hfields hx, MapFunction.look,
    MapFunction.look, Keyed.find?_mergeAll_of_last first hk (forall_not_mem_keys hother hlast)]

theorem mergedMaps_assoc (ha : IsMap limits d a) (hb : IsMap limits d b) (hc : IsMap limits d c) :
    (mergedMaps [a, mergedMaps [b, c]]).evaluate limits d = (mergedMaps [mergedMaps [a, b], c]).evaluate limits d ∧
      (mergedMaps [mergedMaps [a, b], c]).evaluate limits d = (mergedMaps [a, b, c]).evaluate limits d := by
  obtain ⟨m, hm⟩ := ha
  obtain ⟨n, hn⟩ := hb
  obtain ⟨o, ho⟩ := hc
  have hpair {x y : Expression} {p q : Record} (hx : x.evaluate limits d = .value (.map p))
      (hy : y.evaluate limits d = .value (.map q)) :
      (mergedMaps [x, y]).evaluate limits d = .value (.map (Keyed.mergeAll [p, q])) := by
    have hcount : (Function.map .merge).arity.Accepts [x, y].length := Nat.le_refl 2
    exact evaluate_mergedMaps hcount [p, q] (map_evaluate_cons hx (map_evaluate_cons hy rfl))
  have hthree : (Function.map .merge).arity.Accepts [a, b, c].length := Nat.le_succ 2
  have hall : (mergedMaps [a, b, c]).evaluate limits d = .value (.map (Keyed.mergeAll [m, n, o])) :=
    evaluate_mergedMaps hthree [m, n, o]
      (map_evaluate_cons hm (map_evaluate_cons hn (map_evaluate_cons ho rfl)))
  rw [hpair hm (hpair hn ho), hpair (hpair hm hn) ho, hall, Keyed.mergeAll_assoc_left, Keyed.mergeAll_assoc_right]
  exact ⟨rfl, rfl⟩

/-! ### Removed keys -/

theorem isOrderedMap_withoutKey (hx : IsKey limits d k x) (he : IsOrderedMap limits d e) :
    IsOrderedMap limits d (withoutKey e x) := by
  obtain ⟨fields, hfields, horder⟩ := he
  have hascending := Keyed.inByteOrder_iff.mp horder
  exact ⟨_, evaluate_withoutKey hfields hx, Keyed.inByteOrder_iff.mpr (Keyed.ascending_erase hascending)⟩

theorem entryOf_withoutKey_self (hx : IsKey limits d k x) (he : IsMap limits d e) :
    (entryOf (withoutKey e x) x).evaluate limits d = .unset := by
  obtain ⟨fields, hfields⟩ := he
  rw [evaluate_entryOf (evaluate_withoutKey hfields hx) hx, MapFunction.look, Keyed.find?_erase_self]

theorem entryOf_withoutKey_of_ne {y : Expression} {other : String} (hx : IsKey limits d k x)
    (hy : IsKey limits d other y) (hne : other ≠ k) (he : IsMap limits d e) :
    (entryOf (withoutKey e x) y).evaluate limits d = (entryOf e y).evaluate limits d := by
  obtain ⟨fields, hfields⟩ := he
  rw [evaluate_entryOf (evaluate_withoutKey hfields hx) hy, evaluate_entryOf hfields hy, MapFunction.look,
    Keyed.find?_erase_of_ne _ hne, MapFunction.look]

/-! ### Maps of keys and values -/

section

variable {pairs : List (Expression × Expression)}

theorem evaluate_mapOf (limits : Limits) (d : Document) (pairs : List (Expression × Expression)) :
    (mapOf pairs).evaluate limits d = MapFunction.ofPairs (.map .map) []
      (MapFunction.inTurn (pairs.map (Prod.map (evaluate limits d) (evaluate limits d)))) := by
  have hcount : (Function.map .map).arity.Accepts ((MapFunction.inTurn pairs).map (evaluate limits d)).length := by
    rw [List.length_map, MapFunction.length_inTurn]
    exact Nat.mul_mod_right 2 _
  rw [mapOf, evaluate_call, Function.apply, if_pos hcount, MapFunction.map_inTurn]
  rfl

/-- Without an error, the pairs make a map. -/
theorem exists_map_of_pairs (h : ¬ ((mapOf pairs).evaluate limits d).isError) :
    ∃ fields, (mapOf pairs).evaluate limits d = .value (.map fields) ∧ MapFunction.ofPairs (.map .map) []
      (MapFunction.inTurn (pairs.map (Prod.map (evaluate limits d) (evaluate limits d)))) = .value (.map fields) := by
  rw [evaluate_mapOf] at h ⊢
  obtain ⟨fields, hfields⟩ := (MapFunction.ofPairs_isError_or_eq_map _ _ _).resolve_left h
  exact ⟨fields, hfields, hfields⟩

theorem not_isError_mapOf_iff : ¬ ((mapOf pairs).evaluate limits d).isError ↔
    ∀ p ∈ pairs, (∃ key, IsKey limits d key p.1) ∧ (p.2.evaluate limits d).IsPresent := by
  have hbuilt := MapFunction.exists_ofPairs_iff (.map .map) []
    (pairs.map (Prod.map (evaluate limits d) (evaluate limits d)))
  rw [List.forall_mem_map] at hbuilt
  refine Iff.trans ⟨fun h => ?_, fun ⟨fields, hfields⟩ => ?_⟩ hbuilt
  · obtain ⟨fields, -, hfields⟩ := exists_map_of_pairs h
    exact ⟨fields, hfields⟩
  · rw [evaluate_mapOf, hfields]
    exact Bool.false_ne_true

theorem isOrderedMap_mapOf (h : ¬ ((mapOf pairs).evaluate limits d).isError) :
    IsOrderedMap limits d (mapOf pairs) := by
  obtain ⟨fields, hfields, hbuilt⟩ := exists_map_of_pairs h
  exact ⟨fields, hfields, Keyed.inByteOrder_iff.mpr (MapFunction.ascending_ofPairs List.Pairwise.nil hbuilt)⟩

theorem entryOf_mapOf_of_forall (hx : IsKey limits d k x) (h : ¬ ((mapOf pairs).evaluate limits d).isError)
    (hother : ∀ p ∈ pairs, ¬ IsKey limits d k p.1) : (entryOf (mapOf pairs) x).evaluate limits d = .unset := by
  obtain ⟨fields, hfields, hbuilt⟩ := exists_map_of_pairs h
  rw [evaluate_entryOf hfields hx, MapFunction.look,
    MapFunction.find?_ofPairs_of_forall (List.forall_mem_map.mpr hother) hbuilt, Keyed.find?_nil]

/-- The last pair with a key decides. -/
theorem entryOf_mapOf_of_last (hx : IsKey limits d k x) {before after : List (Expression × Expression)}
    {p : Expression × Expression} (h : ¬ ((mapOf (before ++ p :: after)).evaluate limits d).isError)
    (hp : IsKey limits d k p.1) (hother : ∀ q ∈ after, ¬ IsKey limits d k q.1) :
    (entryOf (mapOf (before ++ p :: after)) x).evaluate limits d = p.2.evaluate limits d := by
  obtain ⟨fields, hfields, hbuilt⟩ := exists_map_of_pairs h
  rw [List.map_append, List.map_cons, Prod.map_apply', hp] at hbuilt
  obtain ⟨hpresent, hfound⟩ := MapFunction.find?_ofPairs_of_last (List.forall_mem_map.mpr hother) hbuilt
  rw [evaluate_entryOf hfields hx, MapFunction.look, hfound]
  exact Outcome.ofValue_stored hpresent (evaluate_ne_value_null limits d p.2)

end

/-- **The laws of maps.**  Of merged maps the last one with a key gives its value, and a key of none of them is not
set; merging is associative.  A removed key is not set, and other keys keep their values.  A map of keys and values,
which fails to come about only if a key is no text or a value is missing or failed, gives for a key the outcome of the
last value bound to it, and leaves other keys unset.  In each of these maps a key stands once, in byte order, as it does
in the map that a key is removed from. -/
theorem maps_obey_the_laws (limits : Limits) (d : Document) {x : Expression} {k : String} (hx : IsKey limits d k x) :
    (∀ args : List Expression, (Function.map .merge).arity.Accepts args.length → (∀ e ∈ args, IsMap limits d e) →
        IsOrderedMap limits d (mergedMaps args) ∧
        (∀ before e after, args = before ++ e :: after → HasKey limits d k e → (∀ b ∈ after, ¬ HasKey limits d k b) →
          (entryOf (mergedMaps args) x).evaluate limits d = (entryOf e x).evaluate limits d) ∧
        ((∀ e ∈ args, ¬ HasKey limits d k e) → (entryOf (mergedMaps args) x).evaluate limits d = .unset)) ∧
      (∀ a b c, IsMap limits d a → IsMap limits d b → IsMap limits d c →
        (mergedMaps [a, mergedMaps [b, c]]).evaluate limits d = (mergedMaps [mergedMaps [a, b], c]).evaluate limits d ∧
          (mergedMaps [mergedMaps [a, b], c]).evaluate limits d = (mergedMaps [a, b, c]).evaluate limits d) ∧
      (∀ e, IsMap limits d e →
        (IsOrderedMap limits d e → IsOrderedMap limits d (withoutKey e x)) ∧
        (entryOf (withoutKey e x) x).evaluate limits d = .unset ∧
        ∀ y other, IsKey limits d other y → other ≠ k →
          (entryOf (withoutKey e x) y).evaluate limits d = (entryOf e y).evaluate limits d) ∧
      ∀ pairs : List (Expression × Expression),
        (¬ ((mapOf pairs).evaluate limits d).isError ↔
          ∀ p ∈ pairs, (∃ key, IsKey limits d key p.1) ∧ (p.2.evaluate limits d).IsPresent) ∧
        (¬ ((mapOf pairs).evaluate limits d).isError →
          IsOrderedMap limits d (mapOf pairs) ∧
          (∀ before p after, pairs = before ++ p :: after → IsKey limits d k p.1 →
            (∀ q ∈ after, ¬ IsKey limits d k q.1) →
              (entryOf (mapOf pairs) x).evaluate limits d = p.2.evaluate limits d) ∧
          ((∀ p ∈ pairs, ¬ IsKey limits d k p.1) → (entryOf (mapOf pairs) x).evaluate limits d = .unset)) := by
  refine ⟨fun args hcount hargs =>
      ⟨isOrderedMap_mergedMaps hcount hargs, ?_, entryOf_mergedMaps_of_forall hx hcount hargs⟩,
    fun a b c => mergedMaps_assoc, fun e he => ⟨isOrderedMap_withoutKey hx, entryOf_withoutKey_self hx he, ?_⟩,
    fun pairs => ⟨not_isError_mapOf_iff, fun h => ⟨isOrderedMap_mapOf h, ?_, entryOf_mapOf_of_forall hx h⟩⟩⟩
  · rintro before e after rfl
    exact entryOf_mergedMaps_of_last hx hcount hargs
  · intro y other hy hne
    exact entryOf_withoutKey_of_ne hx hy hne he
  · rintro before p after rfl
    exact entryOf_mapOf_of_last hx h

/-- The second of three maps gives the value of the key that it shares with the first, whose null is found.  A null
that is bound after a number replaces it. -/
theorem maps_obey_the_laws_for_nulls :
    let d : Document := ⟨⟨["c", "d"]⟩, [], none⟩
    let key (s : String) := literal (.string s)
    let m := literal (.map [("a", .integer 1), ("b", .null)])
    let n := literal (.map [("a", .integer 2)])
    let o := literal (.map [])
    let pairs := [(key "é", literal (.integer 1)), (key "z", literal (.integer 2)), (key "é", literal .null)]
    (∀ s, IsKey {} d s (key s)) ∧
      (entryOf (mergedMaps [m, n, o]) (key "a")).evaluate {} d = .value (.integer 2) ∧
      (entryOf (mergedMaps [m, n, o]) (key "b")).evaluate {} d = .null ∧
      (mergedMaps [mergedMaps [m, n], o]).evaluate {} d = (mergedMaps [m, n, o]).evaluate {} d ∧
      (entryOf (withoutKey m (key "a")) (key "a")).evaluate {} d = .unset ∧
      (entryOf (withoutKey m (key "a")) (key "b")).evaluate {} d = .null ∧
      (entryOf (mapOf pairs) (key "é")).evaluate {} d = .null ∧
      (entryOf (mapOf pairs) (key "a")).evaluate {} d = .unset ∧ IsOrderedMap {} d (mapOf pairs) := by
  intro d key m n o pairs
  have hkey (s : String) : IsKey {} d s (key s) := rfl
  have hm : IsMap {} d m := ⟨_, rfl⟩
  have hn : IsMap {} d n := ⟨_, rfl⟩
  have ho : IsMap {} d o := ⟨_, rfl⟩
  have hargs : ∀ e ∈ [m, n, o], IsMap {} d e := by simp [hm, hn, ho]
  have hcount : (Function.map .merge).arity.Accepts [m, n, o].length := Nat.le_succ 2
  have hnb : ¬ HasKey {} d "b" n := by
    rintro ⟨fields, hfields, hb⟩
    cases hfields
    revert hb
    decide
  have hempty (s : String) : ¬ HasKey {} d s o := by
    rintro ⟨fields, hfields, hs⟩
    cases hfields
    exact List.not_mem_nil hs
  have hother {s t : String} (hst : t ≠ s) : ¬ IsKey {} d s (key t) := fun h =>
    hst (Value.string.inj (Outcome.value.inj h))
  have hpairs : ∀ p ∈ pairs, (∃ k, IsKey {} d k p.1) ∧ (p.2.evaluate {} d).IsPresent := by
    intro p hp
    simp only [pairs, List.mem_cons, List.not_mem_nil, or_false] at hp
    rcases hp with rfl | rfl | rfl <;> exact ⟨⟨_, hkey _⟩, trivial⟩
  obtain ⟨hmerge, hassoc, hremove, hmap⟩ := maps_obey_the_laws {} d (hkey "a")
  obtain ⟨hmerge', -⟩ := maps_obey_the_laws {} d (hkey "b")
  obtain ⟨-, -, -, hmap'⟩ := maps_obey_the_laws {} d (hkey "é")
  obtain ⟨-, ha, -⟩ := hmerge _ hcount hargs
  obtain ⟨-, hb, -⟩ := hmerge' _ hcount hargs
  obtain ⟨-, hgone, hkept⟩ := hremove m hm
  have hmade := (hmap pairs).1.mpr hpairs
  obtain ⟨horder, -, hnone⟩ := (hmap pairs).2 hmade
  obtain ⟨-, hlast, -⟩ := (hmap' pairs).2 hmade
  refine ⟨hkey, ?_, ?_, (hassoc m n o hm hn ho).2, hgone, ?_, ?_, ?_, horder⟩
  · exact ha [m] n [o] rfl ⟨_, rfl, List.mem_cons_self⟩ (by simp [hempty])
  · exact hb [] m [n, o] rfl ⟨_, rfl, by decide⟩ (by simp [hempty, hnb])
  · exact hkept (key "b") "b" (hkey "b") (by decide)
  · exact hlast [_, _] _ [] rfl rfl (List.forall_mem_nil _)
  · exact hnone (by simp [pairs, hother])

end Expression

end DocumentQuery
