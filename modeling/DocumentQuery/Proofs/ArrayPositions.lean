import Mathlib.Algebra.Ring.Nat
import DocumentQuery.Proofs.StrictFunctions

/-! # Positions in arrays

An index names a position of an array from the start, or from the end if it is negative.  So an index that names a
position is the position itself or lies below it by the length of the array (`ArrayFunction.itemAt_of_position`), and
all other indices lie outside (`ArrayFunction.itemAt_of_outside`).  These two facts settle every law of access: the
reversed array is read by mirrored indices, and joined arrays are read one after the other.

The arrays that two functions join, one of arrays and one of texts, are the same (`ArrayFunction.concatenated_arrays`,
`StringFunction.concatenated_arrays`). -/

namespace DocumentQuery

namespace ArrayFunction

/-! ### Items by index -/

variable {items others : List Value} {index : Int}

theorem itemAt_of_position {j : Nat} (hj : j < items.length) (h : index = j ∨ index = j - items.length) :
    itemAt items index = .ofValue items[j] := by
  have hposition : position? items.length index = some j := by
    unfold position?
    dsimp only
    rcases h with rfl | rfl
    · have hstart : ¬ (j : Int) < 0 := by omega
      rw [if_neg hstart, if_pos ⟨by omega, by omega⟩, Int.toNat_natCast]
    · have hend : (j : Int) - items.length < 0 := by omega
      have hresolved : (items.length : Int) + (j - items.length) = j := by omega
      rw [if_pos hend, hresolved, if_pos ⟨by omega, by omega⟩, Int.toNat_natCast]
  rw [itemAt, hposition, Option.bind_some, List.getElem?_eq_getElem hj]

theorem itemAt_of_outside (h : index < -items.length ∨ items.length ≤ index) : itemAt items index = .unset := by
  have hposition : position? items.length index = none := by
    unfold position?
    dsimp only
    split_ifs
    · omega
    · rfl
    · omega
    · rfl
  rw [itemAt, hposition, Option.bind_none]

/-- An index names a position, or lies outside. -/
theorem position_or_outside (size : Nat) (index : Int) :
    (∃ j < size, index = j ∨ index = j - size) ∨ index < -size ∨ size ≤ index := by
  by_cases h : 0 ≤ index
  · by_cases hin : index < size
    · exact .inl ⟨index.toNat, by omega, by omega⟩
    · omega
  · by_cases hin : -size ≤ index
    · exact .inl ⟨(size + index).toNat, by omega, by omega⟩
    · omega

/-- A reversed array is read from the other end. -/
theorem itemAt_reverse (items : List Value) (index : Int) : itemAt items.reverse index = itemAt items (-1 - index) := by
  have hlength : items.reverse.length = items.length := List.length_reverse
  rcases position_or_outside items.length index with ⟨j, hj, hindex⟩ | hout
  · have hmirror : items.length - 1 - j < items.length := by omega
    rw [itemAt_of_position (hlength ▸ hj) (by omega), itemAt_of_position hmirror (by omega), List.getElem_reverse]
  · rw [itemAt_of_outside (by omega), itemAt_of_outside (by omega)]

theorem itemAt_append_left (h : 0 ≤ index) (hlt : index < items.length) :
    itemAt (items ++ others) index = itemAt items index := by
  have hj : index.toNat < items.length := by omega
  have happend : index.toNat < (items ++ others).length := by
    rw [List.length_append]
    omega
  rw [itemAt_of_position happend (by omega), itemAt_of_position hj (by omega), List.getElem_append_left hj]

theorem itemAt_append_right (h : items.length ≤ index) :
    itemAt (items ++ others) index = itemAt others (index - items.length) := by
  have hlength : (items ++ others).length = items.length + others.length := List.length_append
  by_cases hin : index < items.length + others.length
  · have hj : (index - items.length).toNat < others.length := by omega
    have happend : index.toNat < (items ++ others).length := by omega
    have hright : items.length ≤ index.toNat := by omega
    have hposition : index.toNat - items.length = (index - items.length).toNat := by omega
    rw [itemAt_of_position happend (by omega), itemAt_of_position hj (by omega), List.getElem_append_right hright]
    simp only [hposition]
  · rw [itemAt_of_outside (by omega), itemAt_of_outside (by omega)]

/-! ### Joined arrays -/

theorem concatenated_arrays (arrays : List (List Value)) :
    concatenated (arrays.map .array) = .ok arrays.flatten := by
  induction arrays with
  | nil => rfl
  | cons items rest ih =>
      rw [List.map_cons, concatenated, ih]
      rfl

end ArrayFunction

namespace StringFunction

theorem concatArrays_arrays (arrays : List (List Value)) :
    concatArrays (arrays.map .array) = .ok arrays.flatten := by
  induction arrays with
  | nil => rfl
  | cons items rest ih =>
      rw [List.map_cons, concatArrays, ih]
      rfl

theorem concatenated_arrays {arrays : List (List Value)} (h : arrays ≠ []) :
    concatenated (arrays.map .array) = .ok (.array arrays.flatten) := by
  obtain ⟨items, rest, rfl⟩ := List.exists_cons_of_ne_nil h
  have hjoined : concatArrays (.array items :: rest.map .array) = .ok (items :: rest).flatten :=
    concatArrays_arrays (items :: rest)
  rw [List.map_cons, concatenated, hjoined]
  rfl

end StringFunction

namespace Expression

/-! ### Access in expressions -/

/-- The item of an array at an index. -/
def itemOf (a i : Expression) : Expression := call (.array .get) [a, i]

def reversedArray (a : Expression) : Expression := call (.array .reverse) [a]

def arrayLength (a : Expression) : Expression := call (.array .length) [a]

def joinedArrays (args : List Expression) : Expression := call (.array .concat) args

variable {limits : Limits} {d : Document} {a b x : Expression} {as bs : List Value} {i : Int64}

theorem evaluate_itemOf (ha : a.evaluate limits d = .value (.array as))
    (hx : x.evaluate limits d = .value (.integer i)) :
    (itemOf a x).evaluate limits d = ArrayFunction.itemAt as i.toInt := by
  have hf : (Function.array .get).IsStrict := trivial
  have hargs : [a, x].map (evaluate limits d) = [Value.array as, .integer i].map .value :=
    map_evaluate_cons ha (map_evaluate_cons hx rfl)
  exact evaluate_call_of_values limits d hf hargs rfl

theorem evaluate_reversedArray (ha : a.evaluate limits d = .value (.array as)) :
    (reversedArray a).evaluate limits d = .value (.array as.reverse) := by
  have hf : (Function.array .reverse).IsStrict := trivial
  have hargs : [a].map (evaluate limits d) = [Value.array as].map .value :=
    map_evaluate_cons ha rfl
  exact evaluate_call_of_values limits d hf hargs rfl

theorem evaluate_arrayLength (ha : a.evaluate limits d = .value (.array as)) :
    (arrayLength a).evaluate limits d = .value (.integer (Int64.ofNat as.length)) := by
  have hf : (Function.array .length).IsStrict := trivial
  have hargs : [a].map (evaluate limits d) = [Value.array as].map .value :=
    map_evaluate_cons ha rfl
  exact evaluate_call_of_values limits d hf hargs rfl

section

variable {args : List Expression} {arrays : List (List Value)}

theorem evaluate_joinedArrays (hne : arrays ≠ [])
    (hargs : args.map (evaluate limits d) = arrays.map fun items => .value (.array items)) :
    (joinedArrays args).evaluate limits d = .value (.array arrays.flatten) := by
  have hf : (Function.array .concat).IsStrict := trivial
  have hcount : 1 ≤ arrays.length := List.length_pos_iff.mpr hne
  rw [joinedArrays, evaluate_call_of_parts limits d hf hargs hcount, Function.onValues, ArrayFunction.apply,
    ArrayFunction.concatenated_arrays]
  rfl

/-- The function that joins texts joins arrays just so. -/
theorem evaluate_concat_arrays (hne : arrays ≠ [])
    (hargs : args.map (evaluate limits d) = arrays.map fun items => .value (.array items)) :
    (call (.string .concat) args).evaluate limits d = .value (.array arrays.flatten) := by
  have hf : (Function.string .concat).IsStrict := trivial
  have hcount : 1 ≤ arrays.length := List.length_pos_iff.mpr hne
  rw [evaluate_call_of_parts limits d hf hargs hcount, Function.onValues, StringFunction.apply,
    StringFunction.concatenated_arrays hne]
  rfl

theorem evaluate_joinedArrays_pair (ha : a.evaluate limits d = .value (.array as))
    (hb : b.evaluate limits d = .value (.array bs)) :
    (joinedArrays [a, b]).evaluate limits d = .value (.array (as ++ bs)) := by
  have hargs : [a, b].map (evaluate limits d) = [as, bs].map fun items => .value (.array items) :=
    map_evaluate_cons ha (map_evaluate_cons hb rfl)
  rw [evaluate_joinedArrays (List.cons_ne_nil _ _) hargs, List.flatten_cons, List.flatten_singleton]

end

/-- **Access to arrays.**  An index from `0` counts positions from the start and one below `0` from the end; outside
the array nothing is set, and a null that is found is null.  A reversed array is read at the mirrored index, which
always has a word.  Two joined arrays are read one after the other.  Joining any arrays, by the function of arrays or
by that of texts, gives all their items in order, as many as they have together. -/
theorem array_access_follows_positions (limits : Limits) (d : Document) {a b x : Expression} {as bs : List Value}
    {i : Int64} (ha : a.evaluate limits d = .value (.array as)) (hb : b.evaluate limits d = .value (.array bs))
    (hx : x.evaluate limits d = .value (.integer i)) :
    (∀ j (hj : j < as.length), i.toInt = j ∨ i.toInt = j - as.length →
        (itemOf a x).evaluate limits d = .ofValue as[j]) ∧
      (i.toInt < -as.length ∨ as.length ≤ i.toInt → (itemOf a x).evaluate limits d = .unset) ∧
      (∃ j : Int64, j.toInt = -1 - i.toInt ∧
        (itemOf (reversedArray a) x).evaluate limits d = (itemOf a (literal (.integer j))).evaluate limits d) ∧
      (0 ≤ i.toInt → i.toInt < as.length →
        (itemOf (joinedArrays [a, b]) x).evaluate limits d = (itemOf a x).evaluate limits d) ∧
      (as.length ≤ i.toInt → ∃ j : Int64, j.toInt = i.toInt - as.length ∧
        (itemOf (joinedArrays [a, b]) x).evaluate limits d = (itemOf b (literal (.integer j))).evaluate limits d) ∧
      ∀ (args : List Expression) (arrays : List (List Value)), args ≠ [] →
        args.map (evaluate limits d) = (arrays.map fun items => .value (.array items)) →
          (joinedArrays args).evaluate limits d = .value (.array arrays.flatten) ∧
            (call (.string .concat) args).evaluate limits d = (joinedArrays args).evaluate limits d ∧
            ∃ n : Int64, (arrayLength (joinedArrays args)).evaluate limits d = .value (.integer n) ∧
              ((arrays.map List.length).sum < 0x8000000000000000 → n.toInt = (arrays.map List.length).sum) := by
  have hjoined := evaluate_joinedArrays_pair ha hb
  have hi : Integer.Fits i.toInt := Integer.fits_toInt i
  refine ⟨fun j hj hindex => ?_, fun hout => ?_, ?_, fun hzero hlt => ?_, fun hle => ?_,
    fun args arrays hne hargs => ?_⟩
  · rw [evaluate_itemOf ha hx, ArrayFunction.itemAt_of_position hj hindex]
  · rw [evaluate_itemOf ha hx, ArrayFunction.itemAt_of_outside hout]
  · obtain ⟨j, hj⟩ := Integer.exists_toInt_eq (n := -1 - i.toInt) (by unfold Integer.Fits at hi ⊢; omega)
    refine ⟨j, hj, ?_⟩
    rw [evaluate_itemOf (evaluate_reversedArray ha) hx, evaluate_itemOf ha rfl, hj, ArrayFunction.itemAt_reverse]
  · rw [evaluate_itemOf hjoined hx, evaluate_itemOf ha hx, ArrayFunction.itemAt_append_left hzero hlt]
  · obtain ⟨j, hj⟩ := Integer.exists_toInt_eq (n := i.toInt - as.length) (by unfold Integer.Fits at hi ⊢; omega)
    refine ⟨j, hj, ?_⟩
    rw [evaluate_itemOf hjoined hx, evaluate_itemOf hb rfl, hj, ArrayFunction.itemAt_append_right hle]
  · have harrays : arrays ≠ [] := by
      rintro rfl
      exact hne (List.map_eq_nil_iff.mp hargs)
    have hall := evaluate_joinedArrays harrays hargs
    refine ⟨hall, (evaluate_concat_arrays harrays hargs).trans hall.symm, _, evaluate_arrayLength hall, fun hfits => ?_⟩
    rw [← List.length_flatten] at hfits ⊢
    exact Int64.toInt_ofNat_of_lt hfits

/-- Of the items `1`, null and `3`, index `-2` finds the null, and so does the mirrored index in the reversed array.
The index behind the last item goes on in the array that is joined.  The least index lies outside, as the greatest one
does in the reversed array. -/
theorem array_access_follows_positions_at_the_ends :
    let d : Document := ⟨⟨["c", "d"]⟩, [], none⟩
    let a := literal (.array [.integer 1, .null, .integer 3])
    let b := literal (.array [.string "x"])
    let least := literal (.integer Int64.minValue)
    (a.evaluate {} d = .value (.array [.integer 1, .null, .integer 3]) ∧
        b.evaluate {} d = .value (.array [.string "x"])) ∧
      (itemOf a (literal (.integer (-2)))).evaluate {} d = .null ∧
      (itemOf (reversedArray a) (literal (.integer (-2)))).evaluate {} d =
        (itemOf a (literal (.integer 1))).evaluate {} d ∧
      (itemOf (joinedArrays [a, b]) (literal (.integer 3))).evaluate {} d = .value (.string "x") ∧
      (itemOf a least).evaluate {} d = .unset ∧
      (itemOf (reversedArray a) least).evaluate {} d =
        (itemOf a (literal (.integer Int64.maxValue))).evaluate {} d ∧
      (call (.string .concat) [a, b, a]).evaluate {} d = (joinedArrays [a, b, a]).evaluate {} d := by
  intro d a b least
  have ha : a.evaluate {} d = .value (.array [.integer 1, .null, .integer 3]) := rfl
  have hb : b.evaluate {} d = .value (.array [.string "x"]) := rfl
  have hindex (i : Int64) : (literal (.integer i)).evaluate {} d = .value (.integer i) := rfl
  obtain ⟨hitem, -, ⟨j, hj, hmirror⟩, -⟩ := array_access_follows_positions {} d ha hb (hindex (-2))
  obtain ⟨-, -, -, -, hjoined, hall⟩ := array_access_follows_positions {} d ha hb (hindex 3)
  obtain ⟨-, hout, ⟨k, hk, hends⟩, -⟩ := array_access_follows_positions {} d ha hb (hindex Int64.minValue)
  obtain ⟨m, hm, hright⟩ := hjoined (by decide)
  obtain rfl : j = 1 := Int64.toInt_inj.mp (hj.trans (by decide))
  obtain rfl : k = Int64.maxValue := Int64.toInt_inj.mp (hk.trans (by decide))
  obtain rfl : m = 0 := Int64.toInt_inj.mp (hm.trans (by decide))
  obtain ⟨-, hsame, -⟩ := hall [a, b, a]
    [[.integer 1, .null, .integer 3], [.string "x"], [.integer 1, .null, .integer 3]] (List.cons_ne_nil _ _) rfl
  exact ⟨⟨ha, hb⟩, hitem 1 (by decide) (.inr (by decide)), hmirror, hright, hout (.inl (by decide)), hends, hsame⟩

end Expression

end DocumentQuery
