import DocumentQuery.Proofs.StrictFunctions

/-! # Pieces of texts

Strings are sequences of characters and byte strings sequences of bytes (`Value.IsSequence`), and the functions that
cut, join and reverse them are the functions of lists in either case.  A piece starts where its position says, counted
from the end if the position is negative, and never outside (`StringFunction.startOf`); its length carries it no
farther than the end.  So a piece is a stretch of the items, and the laws of cutting in two and of cutting from the end
are those of `List.take`, `List.drop` and `List.reverse`. -/

namespace DocumentQuery

/-- How values hold sequences: strings hold characters and byte strings hold bytes. -/
inductive Value.IsSequence : {α : Type} → (List α → Value) → Prop where
  | string : IsSequence fun cs => .string (String.ofList cs)
  | bytes : IsSequence .bytes

namespace StringFunction

/-! ### Where a piece starts and ends -/

/-- Where a position lies in a sequence of some size. -/
def startOf (size : Nat) (position : Int) : Nat :=
  (if 0 ≤ position then min position size else max 0 (size + position)).toNat

theorem startOf_of_nonneg (size : Nat) {position : Int} (h : 0 ≤ position) :
    startOf size position = min position.toNat size := by
  rw [startOf, if_pos h]
  omega

theorem startOf_neg (size : Nat) {count : Int} (h : 0 < count) : startOf size (-count) = size - count.toNat := by
  rw [startOf, if_neg (by omega)]
  omega

theorem startOf_eq (size : Nat) (position : Int) : startOf size position =
    if position < 0 then (size + position).toNat else min position.toNat size := by
  unfold startOf
  split_ifs <;> omega

theorem span_none (size : Nat) (p : Int64) : span size p none = .ok (startOf size p.toInt, size) := by
  rw [startOf_eq]
  rfl

theorem span_some (size : Nat) (p : Int64) {l : Int64} (h : 0 ≤ l.toInt) :
    span size p (some l) = .ok (startOf size p.toInt, min (startOf size p.toInt + l.toInt.toNat) size) := by
  have hl : ¬ l.toInt < 0 := by omega
  rw [startOf_eq]
  exact if_neg hl

theorem span_of_neg (size : Nat) (p : Int64) {l : Int64} (h : l.toInt < 0) :
    span size p (some l) = .error (.invalidArgument (.negativeLength l)) :=
  if_pos h

theorem cut_to_end {α : Type} (items : List α) (start : Nat) : cut items (start, items.length) = items.drop start := by
  have hlength : (items.drop start).length ≤ items.length - start := Nat.le_of_eq List.length_drop
  exact List.take_of_length_le hlength

/-! ### Functions of sequences -/

variable {α : Type} {make : List α → Value}

theorem piece_sequence (hmake : Value.IsSequence make) (items : List α) (p : Int64) (l : Option Int64) :
    piece (make items) (.integer p) (l.map .integer) =
      (span items.length p l).map fun ends => make (cut items ends) := by
  cases hmake with
  | string =>
      have hpiece : piece (.string (String.ofList items)) (.integer p) (l.map .integer) =
          (span (String.ofList items).toList.length p l).map fun ends =>
            .string (String.ofList (cut (String.ofList items).toList ends)) := by
        cases l <;> rfl
      rw [hpiece, String.toList_ofList]
  | bytes => cases l <;> rfl

/-- Without a length, a piece goes on to the end. -/
theorem piece_from (hmake : Value.IsSequence make) (items : List α) (p : Int64) :
    piece (make items) (.integer p) none = .ok (make (items.drop (startOf items.length p.toInt))) := by
  have hpiece := piece_sequence hmake items p none
  rw [span_none, Except.map, cut_to_end] at hpiece
  exact hpiece

theorem piece_of_length (hmake : Value.IsSequence make) (items : List α) (p : Int64) {l : Int64} (h : 0 ≤ l.toInt) :
    piece (make items) (.integer p) (some (.integer l)) =
      .ok (make (items.extract (startOf items.length p.toInt)
        (min (startOf items.length p.toInt + l.toInt.toNat) items.length))) := by
  have hpiece := piece_sequence hmake items p (some l)
  rw [span_some items.length p h] at hpiece
  exact hpiece

theorem piece_of_neg_length (hmake : Value.IsSequence make) (items : List α) (p : Int64) {l : Int64}
    (h : l.toInt < 0) :
    piece (make items) (.integer p) (some (.integer l)) = .error (.invalidArgument (.negativeLength l)) := by
  have hpiece := piece_sequence hmake items p (some l)
  rw [span_of_neg items.length p h] at hpiece
  exact hpiece

theorem reversed_sequence (hmake : Value.IsSequence make) (items : List α) :
    reversed (make items) = .ok (make items.reverse) := by
  cases hmake with
  | string => rw [reversed, String.toList_ofList]
  | bytes => rfl

theorem concatenated_sequences (hmake : Value.IsSequence make) (xs ys : List α) :
    concatenated [make xs, make ys] = .ok (make (xs ++ ys)) := by
  cases hmake with
  | string =>
      show Except.ok (Value.string (String.ofList xs ++ (String.ofList ys ++ ""))) = _
      rw [String.append_empty, ← String.ofList_append]
  | bytes =>
      show Except.ok (Value.bytes (xs ++ (ys ++ []))) = _
      rw [List.append_nil]

end StringFunction

namespace Expression

open StringFunction

/-! ### Pieces in expressions -/

/-- All of a text from a position. -/
def textFrom (s p : Expression) : Expression := call (.string .substring) [s, p]

/-- A piece of a text from a position, of some length. -/
def textPiece (s p l : Expression) : Expression := call (.string .substring) [s, p, l]

def joinedTexts (args : List Expression) : Expression := call (.string .concat) args

def reversedText (s : Expression) : Expression := call (.string .reverse) [s]

variable {limits : Limits} {d : Document} {α : Type} {make : List α → Value} {items others : List α}
  {s t x y : Expression} {p l : Int64}

/-- A piece is what its start, its length and the text determine. -/
theorem evaluate_textPiece {v : Value} (hs : s.evaluate limits d = .value v)
    (hx : x.evaluate limits d = .value (.integer p)) (hy : y.evaluate limits d = .value (.integer l)) :
    (textPiece s x y).evaluate limits d =
      .ofResult (.string .substring) ((piece v (.integer p) (some (.integer l))).map .value) := by
  have hf : (Function.string .substring).IsStrict := trivial
  have hcount : (Function.string .substring).arity.Accepts 3 := by decide
  have hargs : [s, x, y].map (evaluate limits d) = [v, .integer p, .integer l].map .value :=
    map_evaluate_cons hs (map_evaluate_cons hx (map_evaluate_cons hy rfl))
  exact evaluate_call_of_values limits d hf hargs hcount

section

variable (hmake : Value.IsSequence make) (hs : s.evaluate limits d = .value (make items))

include hmake hs

theorem evaluate_textFrom (hx : x.evaluate limits d = .value (.integer p)) :
    (textFrom s x).evaluate limits d = .value (make (items.drop (startOf items.length p.toInt))) := by
  have hf : (Function.string .substring).IsStrict := trivial
  have hcount : (Function.string .substring).arity.Accepts 2 := by decide
  have hargs : [s, x].map (evaluate limits d) = [make items, .integer p].map .value :=
    map_evaluate_cons hs (map_evaluate_cons hx rfl)
  rw [textFrom, evaluate_call_of_values limits d hf hargs hcount, Function.onValues, StringFunction.apply,
    piece_from hmake]
  rfl

theorem evaluate_textPiece_of_length (hx : x.evaluate limits d = .value (.integer p))
    (hy : y.evaluate limits d = .value (.integer l)) (h : 0 ≤ l.toInt) :
    (textPiece s x y).evaluate limits d =
      .value (make (items.extract (startOf items.length p.toInt)
        (min (startOf items.length p.toInt + l.toInt.toNat) items.length))) := by
  rw [evaluate_textPiece hs hx hy, piece_of_length hmake items p h]
  rfl

/-- The piece at the start, as many items as its length says. -/
theorem evaluate_textPiece_zero (hy : y.evaluate limits d = .value (.integer l)) (h : 0 ≤ l.toInt) :
    (textPiece s (literal (.integer 0)) y).evaluate limits d = .value (make (items.take l.toInt.toNat)) := by
  have hstart : startOf items.length (0 : Int64).toInt = 0 := by rw [startOf_of_nonneg _ (by decide)]; rfl
  rw [evaluate_textPiece_of_length hmake hs rfl hy h, hstart, Nat.zero_add, List.extract_eq_take_drop,
    List.drop_zero, Nat.sub_zero, ← List.take_eq_take_min]

theorem evaluate_reversedText : (reversedText s).evaluate limits d = .value (make items.reverse) := by
  have hf : (Function.string .reverse).IsStrict := trivial
  have hargs : [s].map (evaluate limits d) = [make items].map .value :=
    map_evaluate_cons hs rfl
  rw [reversedText, evaluate_call_of_values limits d hf hargs rfl, Function.onValues, StringFunction.apply,
    reversed_sequence hmake]
  rfl

theorem evaluate_joinedTexts (ht : t.evaluate limits d = .value (make others)) :
    (joinedTexts [s, t]).evaluate limits d = .value (make (items ++ others)) := by
  have hf : (Function.string .concat).IsStrict := trivial
  have hcount : (Function.string .concat).arity.Accepts 2 := by decide
  have hargs : [s, t].map (evaluate limits d) = [make items, make others].map .value :=
    map_evaluate_cons hs (map_evaluate_cons ht rfl)
  rw [joinedTexts, evaluate_call_of_values limits d hf hargs hcount, Function.onValues, StringFunction.apply,
    concatenated_sequences hmake]
  rfl

end

/-- **Pieces are stretches of items.**  A piece of a string or byte string holds the items from its start up to its
end: the start is the position, counted from the end if it is negative and kept inside; the end is as much farther as
the length says, but not behind the last item, and without a length it is there.  A negative length is refused.  So
cutting at any position loses nothing and doubles nothing, and the end of a text, reversed, is the start of the
reversed text. -/
theorem pieces_are_stretches (limits : Limits) (d : Document) {α : Type} {make : List α → Value}
    (hmake : Value.IsSequence make) {items : List α} {s x : Expression} {p : Int64}
    (hs : s.evaluate limits d = .value (make items)) (hx : x.evaluate limits d = .value (.integer p)) :
    (textFrom s x).evaluate limits d = .value (make (items.drop (startOf items.length p.toInt))) ∧
      (∀ (y : Expression) (l : Int64), y.evaluate limits d = .value (.integer l) →
        (0 ≤ l.toInt → (textPiece s x y).evaluate limits d =
          .value (make (items.extract (startOf items.length p.toInt)
            (min (startOf items.length p.toInt + l.toInt.toNat) items.length)))) ∧
        (l.toInt < 0 → (textPiece s x y).evaluate limits d =
          .error ⟨.string .substring, .invalidArgument (.negativeLength l)⟩)) ∧
      (0 ≤ p.toInt → (joinedTexts [textPiece s (literal (.integer 0)) x, textFrom s x]).evaluate limits d =
        s.evaluate limits d) ∧
      (0 < p.toInt → ∃ q : Int64, q.toInt = -p.toInt ∧
        (reversedText (textFrom s (literal (.integer q)))).evaluate limits d =
          (textPiece (reversedText s) (literal (.integer 0)) x).evaluate limits d) := by
  have hp : Integer.Fits p.toInt := Integer.fits_toInt p
  refine ⟨evaluate_textFrom hmake hs hx, fun y l hy => ⟨evaluate_textPiece_of_length hmake hs hx hy, fun hl => ?_⟩,
    fun hzero => ?_, fun hpos => ?_⟩
  · rw [evaluate_textPiece hs hx hy, piece_of_neg_length hmake items p hl]
    rfl
  · have hfront := evaluate_textPiece_zero hmake hs hx hzero
    have hback := evaluate_textFrom hmake hs hx
    rw [startOf_of_nonneg _ hzero, ← List.drop_eq_drop_min] at hback
    rw [evaluate_joinedTexts hmake hfront hback, List.take_append_drop, hs]
  · obtain ⟨q, hq⟩ := Integer.exists_toInt_eq (n := -p.toInt) (by unfold Integer.Fits at hp ⊢; omega)
    refine ⟨q, hq, ?_⟩
    have hreversed := evaluate_reversedText hmake hs
    have hback := evaluate_textFrom hmake hs (x := literal (.integer q)) rfl
    rw [evaluate_reversedText hmake hback, evaluate_textPiece_zero hmake hreversed hx (Int.le_of_lt hpos), hq,
      startOf_neg _ hpos, List.take_reverse]

/-- A letter of two bytes is one character.  From `-3` on, the greatest length reaches the end and no farther, and a
negative one is refused; at `2` the text is cut in two, and its last two letters in reverse are the first two of the
reversed text.  The least position is the start of a byte string. -/
theorem pieces_are_stretches_of_characters :
    let d : Document := ⟨⟨["c", "d"]⟩, [], none⟩
    let s := literal (.string "héllo")
    let b := literal (.bytes [1, 2, 255])
    let zero := literal (.integer 0)
    let two := literal (.integer 2)
    (s.evaluate {} d = .value (.string (String.ofList ['h', 'é', 'l', 'l', 'o'])) ∧
        b.evaluate {} d = .value (.bytes [1, 2, 255])) ∧
      (textPiece s (literal (.integer (-3))) (literal (.integer Int64.maxValue))).evaluate {} d =
        .value (.string "llo") ∧
      (textPiece s (literal (.integer (-3))) (literal (.integer (-1)))).evaluate {} d =
        .error ⟨.string .substring, .invalidArgument (.negativeLength (-1))⟩ ∧
      (joinedTexts [textPiece s zero two, textFrom s two]).evaluate {} d = s.evaluate {} d ∧
      (reversedText (textFrom s (literal (.integer (-2))))).evaluate {} d =
        (textPiece (reversedText s) zero two).evaluate {} d ∧
      (textFrom b (literal (.integer Int64.minValue))).evaluate {} d = .value (.bytes [1, 2, 255]) := by
  intro d s b zero two
  have hs : s.evaluate {} d = .value (.string (String.ofList ['h', 'é', 'l', 'l', 'o'])) := rfl
  have hb : b.evaluate {} d = .value (.bytes [1, 2, 255]) := rfl
  have hindex (i : Int64) : (literal (.integer i)).evaluate {} d = .value (.integer i) := rfl
  obtain ⟨-, hlengths, -⟩ := pieces_are_stretches {} d .string hs (hindex (-3))
  obtain ⟨-, -, hcut, hreverse⟩ := pieces_are_stretches {} d .string hs (hindex 2)
  obtain ⟨hall, -⟩ := pieces_are_stretches {} d .bytes hb (hindex Int64.minValue)
  obtain ⟨q, hq, hend⟩ := hreverse (by decide)
  obtain rfl : q = -2 := Int64.toInt_inj.mp (hq.trans (by decide))
  exact ⟨⟨hs, hb⟩, (hlengths _ _ (hindex Int64.maxValue)).1 (by decide), (hlengths _ _ (hindex (-1))).2 (by decide),
    hcut (by decide), hend, hall⟩

end Expression

end DocumentQuery
