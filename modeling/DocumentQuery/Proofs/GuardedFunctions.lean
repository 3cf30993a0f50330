import DocumentQuery.Function.Apply
import DocumentQuery.Proofs.FunctionResults
import DocumentQuery.Proofs.Guarded

/-! # Guarded functions

The body of a function reads its operands at fixed positions, and nothing in the body asks whether they are there:
the number of operands is accepted or refused before, by `Function.arity` and in one place.  Here every family is
carried out in guarded steps, with the positions that its bodies read.  Three functions also compute with positions
or in words: the piece of a sequence, the item at an index, and the conversions and shifts of timestamps.  Their sums
and products are guarded too.

Each guarded body comes with the statement that on an accepted number of operands which fit in memory it is the
function itself, without a fault (`Function.applyAcceptedGuarded_eq`). -/

namespace DocumentQuery

open Guarded

variable {args : List Value}

/-! ### Arithmetic, comparison and vectors -/

def Arithmetic.applyGuarded (op : Arithmetic) (args : List Value) : Guarded (Except Cause Outcome) :=
  match op with
  | .add | .subtract | .multiply | .divide | .mod | .pow | .log => do
    let a ← read args 0
    let b ← read args 1
    return op.apply [a, b]
  | .exp | .ln | .log10 | .sqrt | .abs | .ceil | .floor | .round => do
    let a ← read args 0
    return op.apply [a]

theorem Arithmetic.applyGuarded_eq (op : Arithmetic) (h : (Function.arithmetic op).arity.Accepts args.length) :
    op.applyGuarded args = .ok (op.apply args) := by
  cases op with
  | add | subtract | multiply | divide | mod | pow | log =>
      obtain ⟨a, b, rfl⟩ := List.length_eq_two.mp h
      rfl
  | exp | ln | log10 | sqrt | abs | ceil | floor | round =>
      obtain ⟨a, rfl⟩ := List.length_eq_one_iff.mp h
      rfl

def Comparison.applyGuarded (op : Comparison) (args : List Value) : Guarded (Except Cause Outcome) := do
  let left ← read args 0
  let right ← read args 1
  return op.apply [left, right]

theorem Comparison.applyGuarded_eq (op : Comparison) (h : (Function.comparison op).arity.Accepts args.length) :
    op.applyGuarded args = .ok (op.apply args) := by
  obtain ⟨a, b, rfl⟩ := List.length_eq_two.mp h
  rfl

/-- With a number of operands that is not accepted, the body runs into a fault. -/
example (v : Value) : Comparison.eq.applyGuarded [v] = .error (.position 1 1) := rfl

def VectorFunction.applyGuarded (op : VectorFunction) (args : List Value) : Guarded (Except Cause Outcome) :=
  match op with
  | .length => do
    let a ← read args 0
    return op.apply [a]
  | .dotProduct | .cosineDistance | .euclideanDistance => do
    let a ← read args 0
    let b ← read args 1
    return op.apply [a, b]

theorem VectorFunction.applyGuarded_eq (op : VectorFunction) (h : (Function.vector op).arity.Accepts args.length) :
    op.applyGuarded args = .ok (op.apply args) := by
  cases op with
  | length =>
      obtain ⟨a, rfl⟩ := List.length_eq_one_iff.mp h
      rfl
  | dotProduct | cosineDistance | euclideanDistance =>
      obtain ⟨a, b, rfl⟩ := List.length_eq_two.mp h
      rfl

/-! ### Maps -/

/-- A union goes through its operands one by one, and a map is not made of values but of outcomes. -/
def MapFunction.applyGuarded (op : MapFunction) (args : List Value) : Guarded (Except Cause Outcome) :=
  match op with
  | .get | .remove => do
    let fields ← read args 0
    let key ← read args 1
    return op.apply [fields, key]
  | .merge | .map => return op.apply args

theorem MapFunction.applyGuarded_eq (op : MapFunction) (h : (Function.map op).arity.Accepts args.length) :
    op.applyGuarded args = .ok (op.apply args) := by
  cases op with
  | get | remove =>
      obtain ⟨a, b, rfl⟩ := List.length_eq_two.mp h
      rfl
  | merge | map => rfl

/-! ### Arrays -/

namespace ArrayFunction

/-- The item at an index, by sums and comparisons of words. -/
def itemAtGuarded (items : List Value) (i : Int64) : Guarded Outcome := do
  let resolved ← fromEnd (Int64.ofNat items.length) i
  if resolved < 0 ∨ Int64.ofNat items.length ≤ resolved then return .unset
  else return .ofValue (← read items (index resolved))

theorem itemAtGuarded_eq {items : List Value} (h : (Value.array items).InMemory) (i : Int64) :
    itemAtGuarded items i = .ok (itemAt items i.toInt) := by
  have hsize : (Int64.ofNat items.length).toInt = items.length := Int64.toInt_ofNat_of_lt h
  obtain ⟨w, hw, hresolved⟩ := fromEnd_eq h i
  have houtside : (w < 0 ∨ Int64.ofNat items.length ≤ w) ↔ (w.toInt < 0 ∨ (items.length : Int) ≤ w.toInt) := by
    rw [neg_iff, Int64.le_iff_toInt_le, hsize]
  unfold itemAtGuarded itemAt position?
  dsimp only
  rw [hw, ← hresolved]
  show (if w < 0 ∨ Int64.ofNat items.length ≤ w then .ok Outcome.unset
    else (read items (index w)).map Outcome.ofValue) = _
  by_cases hin : 0 ≤ w.toInt ∧ w.toInt < items.length
  · have hposition : w.toInt.toNat < items.length := by omega
    have hread : read items (index w) = .ok items[w.toInt.toNat] := by
      rw [index_eq hin.1]
      exact read_of_getElem? (List.getElem?_eq_getElem hposition)
    rw [if_neg (mt houtside.mp (by omega)), if_pos hin, hread, Option.bind_some,
      List.getElem?_eq_getElem hposition]
    rfl
  · rw [if_pos (houtside.mpr (by omega)), if_neg hin, Option.bind_none]

/-- An array is not made of values but of outcomes, so that its case is never reached here. -/
def applyGuarded (op : ArrayFunction) (args : List Value) : Guarded (Except Cause Outcome) :=
  match op with
  | .contains | .containsAny | .containsAll => do
    let a ← read args 0
    let b ← read args 1
    return op.apply [a, b]
  | .length | .reverse => do
    let a ← read args 0
    return op.apply [a]
  | .concat => do
    let a ← read args 0
    let others ← stretch args 1 args.length
    return op.apply (a :: others)
  | .get => do
    let a ← read args 0
    whenOk a.toArray fun items => do
      let b ← read args 1
      whenOk b.toInteger fun i => (itemAtGuarded items i).map .ok
  | .array => return op.apply args

theorem applyGuarded_eq (op : ArrayFunction) (h : (Function.array op).arity.Accepts args.length)
    (hfits : ∀ v ∈ args, v.InMemory) : op.applyGuarded args = .ok (op.apply args) := by
  cases op with
  | contains | containsAny | containsAll =>
      obtain ⟨a, b, rfl⟩ := List.length_eq_two.mp h
      rfl
  | length | reverse =>
      obtain ⟨a, rfl⟩ := List.length_eq_one_iff.mp h
      rfl
  | concat =>
      obtain ⟨a, others, rfl⟩ := List.exists_cons_of_length_pos h
      have hread : read (a :: others) 0 = .ok a := rfl
      unfold applyGuarded
      rw [hread, stretch_cons_one]
      rfl
  | get =>
      obtain ⟨a, b, rfl⟩ := List.length_eq_two.mp h
      have hguarded : applyGuarded .get [a, b] =
          whenOk a.toArray fun items => whenOk b.toInteger fun i => (itemAtGuarded items i).map .ok := rfl
      have happly : apply .get [a, b] =
          a.toArray >>= fun items => b.toInteger >>= fun i => .ok (itemAt items i.toInt) := rfl
      rw [hguarded, happly]
      refine whenOk_eq fun items hitems => whenOk_eq fun i _ => ?_
      have ha : (Value.array items).InMemory := by
        have hfirst : a.InMemory := hfits a List.mem_cons_self
        cases a with
        | array found =>
            obtain rfl : found = items := Except.ok.inj hitems
            exact hfirst
        | _ => cases hitems
      rw [itemAtGuarded_eq ha]
      rfl
  | array => rfl

end ArrayFunction

/-! ### Strings and byte strings -/

namespace StringFunction

/-- Where a piece of a sequence starts: counted from the end if the position is negative, and kept inside. -/
def startGuarded (size : Nat) (position : Int64) : Guarded Int64 := do
  let resolved ← fromEnd (Int64.ofNat size) position
  return if position < 0 then max resolved 0 else min resolved (Int64.ofNat size)

/-- Where a piece of a sequence starts and ends, by sums and comparisons of words. -/
def spanGuarded (size : Nat) (position : Int64) (length : Option Int64) : Guarded (Except Cause (Nat × Nat)) := do
  let start ← startGuarded size position
  match length with
  | none => return .ok (index start, index (Int64.ofNat size))
  | some l =>
    if l < 0 then return .error (.invalidArgument (.negativeLength l))
    else return .ok (index start, index (min (saturatingSum start l) (Int64.ofNat size)))

theorem startGuarded_eq {size : Nat} (h : size < 0x8000000000000000) (position : Int64) :
    ∃ w, startGuarded size position = .ok w ∧ w.toInt =
      ((if position.toInt < 0 then (size + position.toInt).toNat else min position.toInt.toNat size : Nat) : Int) := by
  have hsize : (Int64.ofNat size).toInt = size := Int64.toInt_ofNat_of_lt h
  obtain ⟨w, hw, hresolved⟩ := fromEnd_eq h position
  refine ⟨if position < 0 then max w 0 else min w (Int64.ofNat size), ?_, ?_⟩
  · unfold startGuarded
    rw [hw]
    rfl
  · by_cases hneg : position.toInt < 0
    · rw [if_pos hneg] at hresolved
      rw [if_pos ((neg_iff position).mpr hneg), if_pos hneg, toInt_max, Int64.toInt_zero]
      omega
    · rw [if_neg hneg] at hresolved
      rw [if_neg (mt (neg_iff position).mp hneg), if_neg hneg, toInt_min, hsize]
      omega

theorem spanGuarded_eq {size : Nat} (h : size < 0x8000000000000000) (position : Int64) (length : Option Int64) :
    spanGuarded size position length = .ok (span size position length) := by
  have hsize : (Int64.ofNat size).toInt = size := Int64.toInt_ofNat_of_lt h
  obtain ⟨w, hw, hstart⟩ := startGuarded_eq h position
  have hindex : index w =
      if position.toInt < 0 then (size + position.toInt).toNat else min position.toInt.toNat size := by
    rw [index_eq (by omega), hstart, Int.toNat_natCast]
  unfold spanGuarded span
  rw [hw, ← hindex]
  cases length with
  | none =>
      have hstop : index (Int64.ofNat size) = size := by rw [index_eq (by omega), hsize, Int.toNat_natCast]
      show Except.ok (Except.ok (index w, index (Int64.ofNat size))) = Except.ok (Except.ok (index w, size))
      rw [hstop]
  | some l =>
      show (if l < 0 then Except.ok (Except.error (Cause.invalidArgument (.negativeLength l)))
          else Except.ok (Except.ok (index w, index (min (saturatingSum w l) (Int64.ofNat size))))) =
        Except.ok (if l.toInt < 0 then Except.error (Cause.invalidArgument (.negativeLength l))
          else Except.ok (index w, min (index w + l.toInt.toNat) size))
      by_cases hl : l.toInt < 0
      · rw [if_pos ((neg_iff l).mpr hl), if_pos hl]
      · have hsum : (saturatingSum w l).toInt = min (w.toInt + l.toInt) 0x7fffffffffffffff :=
          toInt_saturatingSum (by omega) (by omega)
        have hend : index (min (saturatingSum w l) (Int64.ofNat size)) = min (index w + l.toInt.toNat) size := by
          rw [index_eq (by rw [toInt_min]; omega), index_eq (by omega), toInt_min, hsum, hsize]
          omega
        rw [if_neg (mt (neg_iff l).mp hl), if_neg hl, hend]

/-- The ends of a piece are in order and inside the sequence. -/
theorem span_bounds {size : Nat} {position : Int64} {length : Option Int64} {ends : Nat × Nat}
    (h : span size position length = .ok ends) : ends.1 ≤ ends.2 ∧ ends.2 ≤ size := by
  unfold span at h
  dsimp only at h
  have hstart : (if position.toInt < 0 then (size + position.toInt).toNat
      else min position.toInt.toNat size) ≤ size := by
    split_ifs <;> omega
  cases length with
  | none =>
      cases h
      exact ⟨hstart, Nat.le_refl size⟩
  | some l =>
      dsimp only at h
      split_ifs at h
      all_goals
        cases h
        dsimp only
        omega

/-- The items between the ends of a piece. -/
def cutGuarded {α : Type} (items : List α) (position : Int64) (length : Option Int64) :
    Guarded (Except Cause (List α)) := do
  whenOk (← spanGuarded items.length position length) fun ends => (stretch items ends.1 ends.2).map .ok

theorem cutGuarded_eq {α : Type} {items : List α} (h : items.length < 0x8000000000000000) (position : Int64)
    (length : Option Int64) :
    cutGuarded items position length = .ok ((span items.length position length).map (cut items)) := by
  unfold cutGuarded
  rw [spanGuarded_eq h]
  cases hends : span items.length position length with
  | error cause => rfl
  | ok ends =>
      obtain ⟨hle, hstop⟩ := span_bounds hends
      show (stretch items ends.1 ends.2).map Except.ok = _
      rw [stretch_of_le hle hstop]
      rfl

/-- A piece of a string or byte string; the length is an operand that may be left out. -/
def pieceGuarded (args : List Value) : Guarded (Except Cause Value) := do
  let position ← read args 1
  whenOk position.toInteger fun p =>
    whenOk (args[2]?.mapM Value.toInteger) fun l => do
      match ← read args 0 with
      | .string s => whenOk (← cutGuarded s.toList p l) fun cs => return .ok (.string (String.ofList cs))
      | .bytes b => whenOk (← cutGuarded b p l) fun b => return .ok (.bytes b)
      | v => return .error (.typeMismatch .stringOrBytes v.kind)

theorem pieceGuarded_eq {text position : Value} (h : text.InMemory) (rest : List Value) :
    pieceGuarded (text :: position :: rest) = .ok (piece text position rest.head?) := by
  have hlength : (text :: position :: rest)[2]? = rest.head? := by
    rw [List.getElem?_cons_succ, List.getElem?_cons_succ, List.head?_eq_getElem?]
  have hguarded : pieceGuarded (text :: position :: rest) =
      whenOk position.toInteger fun p => whenOk ((text :: position :: rest)[2]?.mapM Value.toInteger) fun l =>
        match text with
        | .string s => do whenOk (← cutGuarded s.toList p l) fun cs => return .ok (.string (String.ofList cs))
        | .bytes b => do whenOk (← cutGuarded b p l) fun b => return .ok (.bytes b)
        | v => return .error (.typeMismatch .stringOrBytes v.kind) := rfl
  rw [hguarded, hlength]
  unfold piece
  refine whenOk_eq fun p _ => whenOk_eq fun l _ => ?_
  cases text with
  | string s =>
      dsimp only
      rw [cutGuarded_eq h.length_lt]
      cases span s.toList.length p l <;> rfl
  | bytes b =>
      dsimp only
      rw [cutGuarded_eq h]
      cases span b.length p l <;> rfl
  | _ => rfl

/-- A concatenation reads its first operand and goes through all of them. -/
def applyGuarded (limits : Limits) (op : StringFunction) (args : List Value) : Guarded (Except Cause Outcome) :=
  match op with
  | .concat => do
    let _ ← read args 0
    return op.apply limits args
  | .byteLength | .charLength | .toLower | .toUpper | .trim | .trimStart | .trimEnd | .reverse => do
    let a ← read args 0
    return op.apply limits [a]
  | .like | .regexMatch | .regexContains | .startsWith | .endsWith | .contains => do
    let a ← read args 0
    let b ← read args 1
    return op.apply limits [a, b]
  | .substring => do
    let v ← pieceGuarded args
    return v.map .value

theorem applyGuarded_eq (limits : Limits) (op : StringFunction)
    (h : (Function.string op).arity.Accepts args.length) (hfits : ∀ v ∈ args, v.InMemory) :
    op.applyGuarded limits args = .ok (op.apply limits args) := by
  cases op with
  | concat =>
      obtain ⟨a, others, rfl⟩ := List.exists_cons_of_length_pos h
      rfl
  | byteLength | charLength | toLower | toUpper | trim | trimStart | trimEnd | reverse =>
      obtain ⟨a, rfl⟩ := List.length_eq_one_iff.mp h
      rfl
  | like | regexMatch | regexContains | startsWith | endsWith | contains =>
      obtain ⟨a, b, rfl⟩ := List.length_eq_two.mp h
      rfl
  | substring =>
      obtain ⟨htwo, hthree⟩ : 2 ≤ args.length ∧ args.length ≤ 3 := h
      obtain ⟨a, b, rest, rfl⟩ : ∃ a b rest, args = a :: b :: rest := by
        match args, htwo with
        | a :: b :: rest, _ => exact ⟨a, b, rest, rfl⟩
      have hguarded : applyGuarded limits .substring (a :: b :: rest) =
          (pieceGuarded (a :: b :: rest)).map fun v => v.map .value := rfl
      rw [hguarded, pieceGuarded_eq (hfits a List.mem_cons_self)]
      match rest, hthree with
      | [], _ => rfl
      | [c], _ => rfl

end StringFunction

/-! ### Timestamps -/

/-- Nanoseconds since 1970, by a product and a sum in a 128-bit word. -/
def Timestamp.epochNanosGuarded (t : Timestamp) : Guarded Int := do
  let ofSeconds ← long (t.seconds * nanosPerSecond)
  long (ofSeconds + t.nanos)

theorem Timestamp.epochNanosGuarded_eq {t : Timestamp} (h : (Value.timestamp t).InMemory) :
    t.epochNanosGuarded = .ok t.epochNanos := by
  obtain ⟨hseconds, hlower, hupper⟩ := h
  unfold Integer.Fits at hseconds
  have hproduct : long (t.seconds * nanosPerSecond) = .ok (t.seconds * nanosPerSecond) := by
    unfold nanosPerSecond
    exact long_of_bounds (by omega) (by omega)
  have hsum : long (t.seconds * nanosPerSecond + t.nanos) = .ok (t.seconds * nanosPerSecond + t.nanos) := by
    unfold nanosPerSecond
    exact long_of_bounds (by omega) (by omega)
  unfold epochNanosGuarded
  rw [hproduct]
  exact hsum

theorem Timestamp.epochNanos_bounds {t : Timestamp} (h : (Value.timestamp t).InMemory) :
    -0x800000000000000000000000 ≤ t.epochNanos ∧ t.epochNanos < 0x800000000000000000000000 := by
  obtain ⟨hseconds, hlower, hupper⟩ := h
  unfold Integer.Fits at hseconds
  unfold epochNanos nanosPerSecond
  omega

namespace TimestampFunction

/-- The timestamp of a count of some part of a second. -/
def ofCountGuarded (nanos : Int) (count : Value) : Guarded (Except Cause Outcome) :=
  whenOk count.toInteger fun n => do
    let since ← long (n.toInt * nanos)
    return inRange (Timestamp.ofEpochNanos? since)

theorem ofCountGuarded_eq {nanos : Int} (h : nanos.natAbs ≤ 1000000) (count : Value) :
    ofCountGuarded nanos count =
      .ok (count.toInteger >>= fun n => inRange (Timestamp.ofEpochNanos? (n.toInt * nanos))) := by
  refine whenOk_eq fun n _ => ?_
  rw [long_mul (natAbs_toInt_le n) h (by omega)]
  rfl

/-- The nanoseconds of a shifted timestamp, by products and a sum in a 128-bit word. -/
def shiftedNanosGuarded (t : Timestamp) (sign : Int) (amount : Int64) (u : TimeUnit) : Guarded Int := do
  let since ← t.epochNanosGuarded
  let signed ← long (sign * amount.toInt)
  let distance ← long (signed * u.nanos)
  long (since + distance)

theorem TimeUnit.natAbs_nanos_le (u : TimeUnit) : u.nanos.natAbs ≤ 86400000000000 := by
  cases u <;> decide

theorem shiftedNanosGuarded_eq {t : Timestamp} (h : (Value.timestamp t).InMemory) {sign : Int}
    (hsign : sign.natAbs ≤ 1) (amount : Int64) (u : TimeUnit) :
    shiftedNanosGuarded t sign amount u = .ok (t.epochNanos + sign * amount.toInt * u.nanos) := by
  obtain ⟨hlower, hupper⟩ := Timestamp.epochNanos_bounds h
  -- The amount is a 64-bit word and a unit at most a day, so that the products stay far below 2 ^ 127.
  have hsigned : (sign * amount.toInt).natAbs ≤ 1 * 0x8000000000000000 := by
    rw [Int.natAbs_mul]
    exact Nat.mul_le_mul hsign (natAbs_toInt_le amount)
  have hdistance : (sign * amount.toInt * u.nanos).natAbs ≤ 0x8000000000000000 * 86400000000000 := by
    rw [Int.natAbs_mul]
    exact Nat.mul_le_mul hsigned u.natAbs_nanos_le
  have hfirst : long (sign * amount.toInt) = .ok (sign * amount.toInt) :=
    long_mul hsign (natAbs_toInt_le amount) (by omega)
  have hsecond : long (sign * amount.toInt * u.nanos) = .ok (sign * amount.toInt * u.nanos) :=
    long_mul hsigned u.natAbs_nanos_le (by omega)
  have hthird : long (t.epochNanos + sign * amount.toInt * u.nanos) =
      .ok (t.epochNanos + sign * amount.toInt * u.nanos) := long_of_bounds (by omega) (by omega)
  unfold shiftedNanosGuarded
  simp only [Timestamp.epochNanosGuarded_eq h, hfirst, hsecond, bind, Except.bind]
  exact hthird

/-- The timestamp that lies an amount of some unit after another one; `sign` tells after from before. -/
def shiftedGuarded (sign : Int) (args : List Value) : Guarded (Except Cause Outcome) := do
  let time ← read args 0
  whenOk time.toTimestamp fun t => do
    let unit ← read args 1
    whenOk (unitOf unit) fun u => do
      let amount ← read args 2
      whenOk amount.toInteger fun n =>
        (shiftedNanosGuarded t sign n u).map fun since => inRange (Timestamp.ofEpochNanos? since)

/-- What stands in a timestamp that fits in memory. -/
theorem inMemory_of_toTimestamp {time : Value} (h : time.InMemory) {t : Timestamp} (ht : time.toTimestamp = .ok t) :
    (Value.timestamp t).InMemory := by
  cases time with
  | timestamp found =>
      obtain rfl : found = t := Except.ok.inj ht
      exact h
  | _ => cases ht

theorem shiftedGuarded_eq {sign : Int} (hsign : sign.natAbs ≤ 1) {time : Value} (h : time.InMemory)
    (unit amount : Value) : shiftedGuarded sign [time, unit, amount] = .ok (shifted sign time unit amount) := by
  have hguarded : shiftedGuarded sign [time, unit, amount] =
      whenOk time.toTimestamp fun t => whenOk (unitOf unit) fun u => whenOk amount.toInteger fun n =>
        (shiftedNanosGuarded t sign n u).map fun since => inRange (Timestamp.ofEpochNanos? since) := rfl
  rw [hguarded]
  unfold shifted
  refine whenOk_eq fun t ht => whenOk_eq fun u _ => whenOk_eq fun n _ => ?_
  rw [shiftedNanosGuarded_eq (inMemory_of_toTimestamp h ht) hsign]
  rfl

/-- A count of some part of a second since 1970, rounded down. -/
def toCountGuarded (nanos : Int) (time : Value) : Guarded (Except Cause Outcome) :=
  whenOk time.toTimestamp fun t => do
    let since ← t.epochNanosGuarded
    return .ok (integer (Int64.ofInt (since / nanos)))

theorem toCountGuarded_eq {time : Value} (h : time.InMemory) (nanos : Int) :
    toCountGuarded nanos time =
      .ok (time.toTimestamp.map fun t => integer (Int64.ofInt (t.epochNanos / nanos))) := by
  unfold toCountGuarded
  cases ht : time.toTimestamp with
  | error cause => rfl
  | ok t =>
      unfold whenOk
      dsimp only
      rw [Timestamp.epochNanosGuarded_eq (inMemory_of_toTimestamp h ht)]
      rfl

def applyGuarded (op : TimestampFunction) (args : List Value) : Guarded (Except Cause Outcome) :=
  match op with
  | .ofUnixMicros => do ofCountGuarded 1000 (← read args 0)
  | .ofUnixMillis => do ofCountGuarded 1000000 (← read args 0)
  | .toUnixMicros => do toCountGuarded 1000 (← read args 0)
  | .toUnixMillis => do toCountGuarded 1000000 (← read args 0)
  | .ofUnixSeconds | .toUnixSeconds => do
    let a ← read args 0
    return op.apply [a]
  | .add => shiftedGuarded 1 args
  | .sub => shiftedGuarded (-1) args

theorem applyGuarded_eq (op : TimestampFunction) (h : (Function.timestamp op).arity.Accepts args.length)
    (hfits : ∀ v ∈ args, v.InMemory) : op.applyGuarded args = .ok (op.apply args) := by
  cases op with
  | ofUnixMicros | ofUnixMillis =>
      obtain ⟨a, rfl⟩ := List.length_eq_one_iff.mp h
      exact ofCountGuarded_eq (by decide) a
  | toUnixMicros | toUnixMillis =>
      obtain ⟨a, rfl⟩ := List.length_eq_one_iff.mp h
      exact toCountGuarded_eq (hfits a List.mem_cons_self) _
  | ofUnixSeconds | toUnixSeconds =>
      obtain ⟨a, rfl⟩ := List.length_eq_one_iff.mp h
      rfl
  | add =>
      obtain ⟨a, b, c, rfl⟩ := List.length_eq_three.mp h
      exact shiftedGuarded_eq (by decide) (hfits a List.mem_cons_self) b c
  | sub =>
      obtain ⟨a, b, c, rfl⟩ := List.length_eq_three.mp h
      exact shiftedGuarded_eq (by decide) (hfits a List.mem_cons_self) b c

end TimestampFunction

/-! ### All functions that see their operands -/

namespace Function

def onValuesGuarded (limits : Limits) (f : Function) (args : List Value) : Guarded (Except Cause Outcome) :=
  match f with
  | arithmetic op => op.applyGuarded args
  | comparison op => op.applyGuarded args
  | array op => op.applyGuarded args
  | string op => op.applyGuarded limits args
  | map op => op.applyGuarded args
  | timestamp op => op.applyGuarded args
  | vector op => op.applyGuarded args
  | logical _ | typeCheck _ => return wrongCount args

variable {f : Function}

theorem onValuesGuarded_eq (limits : Limits) (h : f.arity.Accepts args.length) (hfits : ∀ v ∈ args, v.InMemory) :
    f.onValuesGuarded limits args = .ok (f.onValues limits args) := by
  cases f with
  | arithmetic op => exact op.applyGuarded_eq h
  | comparison op => exact op.applyGuarded_eq h
  | array op => exact op.applyGuarded_eq h hfits
  | string op => exact op.applyGuarded_eq limits h hfits
  | map op => exact op.applyGuarded_eq h
  | timestamp op => exact op.applyGuarded_eq h hfits
  | vector op => exact op.applyGuarded_eq h
  | logical op | typeCheck op => rfl

/-- A strict function on operands that settle the outcome, or on their values. -/
def applyStrictGuarded (limits : Limits) (f : Function) (args : List Outcome) : Guarded Outcome :=
  match f.operands args with
  | .ok values => (f.onValuesGuarded limits values).map (.ofResult f)
  | .error o => return o

theorem eq_map_of_operands {args : List Outcome} {values : List Value} (h : f.operands args = .ok values) :
    args = values.map .value := by
  unfold operands at h
  split at h
  · cases h
  · split at h
    next hvalues =>
      cases h
      exact eq_map_of_valuesOf hvalues
    next => cases h

theorem applyStrictGuarded_eq (limits : Limits) {args : List Outcome} (h : f.arity.Accepts args.length)
    (hfits : ∀ o ∈ args, o.InMemory) : f.applyStrictGuarded limits args = .ok (f.applyStrict limits args) := by
  unfold applyStrictGuarded applyStrict
  cases hoperands : f.operands args with
  | error o => rfl
  | ok values =>
      obtain rfl := eq_map_of_operands hoperands
      rw [List.length_map] at h
      have hvalues : ∀ v ∈ values, v.InMemory := fun v hv => hfits (.value v) (List.mem_map_of_mem hv)
      dsimp only
      rw [onValuesGuarded_eq limits h hvalues]
      rfl

/-- The functions that look at outcomes take them one by one, and read no position. -/
def applyAcceptedGuarded (limits : Limits) (f : Function) (args : List Outcome) : Guarded Outcome :=
  match f with
  | logical _ | typeCheck _ | array .array | map .map => return f.applyAccepted limits args
  | f => f.applyStrictGuarded limits args

/-- On an accepted number of operands that fit in memory, no body meets a fault. -/
theorem applyAcceptedGuarded_eq (limits : Limits) {args : List Outcome} (h : f.arity.Accepts args.length)
    (hfits : ∀ o ∈ args, o.InMemory) : f.applyAcceptedGuarded limits args = .ok (f.applyAccepted limits args) := by
  cases f with
  | logical op | typeCheck op => rfl
  | array op =>
      cases op with
      | array => rfl
      | _ => exact applyStrictGuarded_eq limits h hfits
  | map op =>
      cases op with
      | map => rfl
      | _ => exact applyStrictGuarded_eq limits h hfits
  | _ => exact applyStrictGuarded_eq limits h hfits

end Function

end DocumentQuery
