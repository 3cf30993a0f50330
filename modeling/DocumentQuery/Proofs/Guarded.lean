import DocumentQuery.Integer
import DocumentQuery.Outcome
import Mathlib.Data.String.Basic

/-! # Guarded steps

Reading a position, taking a stretch of a sequence and adding in a machine word are steps that a machine may be
unable to take.  A `Guarded` computation carries them out under their bounds and ends with the first `Fault`.

A sequence that is kept in memory has fewer than `2 ^ 63` bytes, so that its length is a positive 64-bit word, and the
parts of a timestamp are words of their widths (`Value.InMemory`).  Nothing else is assumed of values; a computation
that would have to keep any other value ends with the fault `Fault.memory`.

`Reaches fits r a` says of a computation `r` that it comes to `a`, and that nothing but a value without room in memory
keeps it from that: no position is outside its sequence, no stretch runs over an end, no word overflows. -/

namespace DocumentQuery

/-- What a machine cannot do. -/
inductive Fault where
  /-- Reading a position that the sequence does not have. -/
  | position (index size : Nat)
  /-- Taking a stretch of the sequence whose ends are not in order or not inside it. -/
  | stretch (start stop size : Nat)
  /-- Computing a number that the word does not hold. -/
  | word (n : Int)
  /-- Keeping a value that has no room in memory. -/
  | memory
deriving DecidableEq, Repr

/-- A computation that ends with the first fault. -/
abbrev Guarded (α : Type) := Except Fault α

namespace Guarded

variable {α β : Type}

/-! ### Positions and stretches -/

def read (items : List α) (i : Nat) : Guarded α :=
  match items[i]? with
  | some a => .ok a
  | none => .error (.position i items.length)

/-- The items from a position up to another one. -/
def stretch (items : List α) (start stop : Nat) : Guarded (List α) :=
  if start ≤ stop ∧ stop ≤ items.length then .ok ((items.drop start).take (stop - start))
  else .error (.stretch start stop items.length)

theorem read_of_getElem? {items : List α} {i : Nat} {a : α} (h : items[i]? = some a) : read items i = .ok a := by
  unfold read
  rw [h]

theorem stretch_of_le {items : List α} {start stop : Nat} (h : start ≤ stop) (hstop : stop ≤ items.length) :
    stretch items start stop = .ok ((items.drop start).take (stop - start)) :=
  if_pos ⟨h, hstop⟩

/-- Everything behind the first item. -/
theorem stretch_cons_one (a : α) (items : List α) : stretch (a :: items) 1 (a :: items).length = .ok items := by
  have hone : 1 ≤ (a :: items).length := Nat.le_add_left 1 items.length
  have hrest : (a :: items).length - 1 = items.length := rfl
  rw [stretch_of_le hone (Nat.le_refl _), hrest, List.drop_one, List.tail_cons, List.take_length]

/-- The items without those in front; an end behind the sequence cannot be cut off. -/
def drain (items : List α) (count : Nat) : Guarded (List α) :=
  if count ≤ items.length then .ok (items.drop count) else .error (.stretch 0 count items.length)

/-- The items that a test keeps. -/
def filter (test : α → Guarded Bool) : List α → Guarded (List α)
  | [] => .ok []
  | a :: rest => do
    let keep ← test a
    let others ← filter test rest
    return if keep then a :: others else others

/-! ### Words -/

/-- The sum of two 64-bit words. -/
def sum (a b : Int64) : Guarded Int64 :=
  match Integer.ofInt? (a.toInt + b.toInt) with
  | some w => .ok w
  | none => .error (.word (a.toInt + b.toInt))

/-- A position that counts from the end if it is negative. -/
def fromEnd (size position : Int64) : Guarded Int64 :=
  if position < 0 then sum size position else .ok position

/-- The sum of two 64-bit words, or the bound that it passes. -/
def saturatingSum (a b : Int64) : Int64 :=
  match Integer.ofInt? (a.toInt + b.toInt) with
  | some w => w
  | none => if b < 0 then Int64.minValue else Int64.maxValue

/-- A number that was computed in a 128-bit word. -/
def long (n : Int) : Guarded Int :=
  if -0x80000000000000000000000000000000 ≤ n ∧ n < 0x80000000000000000000000000000000 then .ok n
  else .error (.word n)

/-- The difference of two lengths. -/
def difference (a b : Nat) : Guarded Nat :=
  if b ≤ a then .ok (a - b) else .error (.word (a - b))

/-- The position that a word stands for: its bits without a sign. -/
def index (w : Int64) : Nat := w.toUInt64.toNat

theorem sum_of_fits {a b : Int64} (h : Integer.Fits (a.toInt + b.toInt)) :
    ∃ w, sum a b = .ok w ∧ w.toInt = a.toInt + b.toInt := by
  refine ⟨Int64.ofInt (a.toInt + b.toInt), ?_, Int64.toInt_ofInt_of_le h.1 h.2⟩
  unfold sum Integer.ofInt?
  rw [if_pos h]

theorem neg_iff (w : Int64) : w < 0 ↔ w.toInt < 0 := by
  rw [Int64.lt_iff_toInt_lt, Int64.toInt_zero]

theorem toInt_max (a b : Int64) : (max a b).toInt = max a.toInt b.toInt := by
  show (if a ≤ b then b else a).toInt = _
  by_cases h : a ≤ b
  · rw [if_pos h, Int.max_eq_right (Int64.le_iff_toInt_le.mp h)]
  · have hle : ¬ a.toInt ≤ b.toInt := mt Int64.le_iff_toInt_le.mpr h
    rw [if_neg h, Int.max_eq_left (by omega)]

theorem toInt_min (a b : Int64) : (min a b).toInt = min a.toInt b.toInt := by
  show (if a ≤ b then a else b).toInt = _
  by_cases h : a ≤ b
  · rw [if_pos h, Int.min_eq_left (Int64.le_iff_toInt_le.mp h)]
  · have hle : ¬ a.toInt ≤ b.toInt := mt Int64.le_iff_toInt_le.mpr h
    rw [if_neg h, Int.min_eq_right (by omega)]

/-- A length and a negative word have a sum in range. -/
theorem fromEnd_eq {size : Nat} (h : size < 0x8000000000000000) (position : Int64) :
    ∃ w, fromEnd (Int64.ofNat size) position = .ok w ∧
      w.toInt = if position.toInt < 0 then size + position.toInt else position.toInt := by
  unfold fromEnd
  by_cases hneg : position.toInt < 0
  · have hsize : (Int64.ofNat size).toInt = size := Int64.toInt_ofNat_of_lt h
    -- A length is not below zero and the position not below the least word, and neither is their sum.
    have hfits : Integer.Fits ((Int64.ofNat size).toInt + position.toInt) := by
      have hlower := position.le_toInt
      unfold Integer.Fits
      omega
    obtain ⟨w, hw, hsum⟩ := sum_of_fits hfits
    rw [if_pos ((neg_iff position).mpr hneg), if_pos hneg, ← hsize]
    exact ⟨w, hw, hsum⟩
  · rw [if_neg (mt (neg_iff position).mp hneg), if_neg hneg]
    exact ⟨position, rfl, rfl⟩

/-- Above zero, the sum is exact below the greatest word and this word from there on. -/
theorem toInt_saturatingSum {a b : Int64} (ha : 0 ≤ a.toInt) (hb : 0 ≤ b.toInt) :
    (saturatingSum a b).toInt = min (a.toInt + b.toInt) 0x7fffffffffffffff := by
  unfold saturatingSum Integer.ofInt?
  by_cases h : Integer.Fits (a.toInt + b.toInt)
  · rw [if_pos h]
    have hw : (Int64.ofInt (a.toInt + b.toInt)).toInt = a.toInt + b.toInt := Int64.toInt_ofInt_of_le h.1 h.2
    have hupper := h.2
    rw [hw]
    omega
  · rw [if_neg h]
    have hnot : ¬ b < 0 := by
      rw [neg_iff]
      omega
    have hlarge : 0x8000000000000000 ≤ a.toInt + b.toInt := by
      unfold Integer.Fits at h
      omega
    have hmax : Int64.maxValue.toInt = 0x7fffffffffffffff := by decide
    simp only [hnot, if_false]
    rw [hmax]
    omega

theorem index_eq {w : Int64} (h : 0 ≤ w.toInt) : index w = w.toInt.toNat := by
  have hzero : 0 ≤ w := by
    rw [Int64.le_iff_toInt_le, Int64.toInt_zero]
    exact h
  exact Int64.toNat_toUInt64_of_le hzero

theorem long_of_bounds {n : Int} (h : -0x80000000000000000000000000000000 ≤ n)
    (h' : n < 0x80000000000000000000000000000000) : long n = .ok n :=
  if_pos ⟨h, h'⟩

/-- Products of numbers of bounded size. -/
theorem long_mul {a b : Int} {m n : Nat} (ha : a.natAbs ≤ m) (hb : b.natAbs ≤ n)
    (h : m * n < 0x80000000000000000000000000000000) : long (a * b) = .ok (a * b) := by
  have hab : (a * b).natAbs ≤ m * n := by
    rw [Int.natAbs_mul]
    exact Nat.mul_le_mul ha hb
  exact long_of_bounds (by omega) (by omega)

theorem natAbs_toInt_le (w : Int64) : w.toInt.natAbs ≤ 0x8000000000000000 := by
  have hlower := w.le_toInt
  have hupper := w.toInt_lt
  omega

/-! ### Complaints of functions -/

/-- Goes on with an answer, and hands a complaint on. -/
def whenOk (r : Except Cause α) (next : α → Guarded (Except Cause β)) : Guarded (Except Cause β) :=
  match r with
  | .ok a => next a
  | .error cause => .ok (.error cause)

theorem whenOk_eq {r : Except Cause α} {next : α → Guarded (Except Cause β)} {f : α → Except Cause β}
    (h : ∀ a, r = .ok a → next a = .ok (f a)) : whenOk r next = .ok (r >>= f) := by
  cases r with
  | ok a => exact h a rfl
  | error cause => rfl

end Guarded

/-! ### Room in memory -/

/-- The machine can keep the value.  What is inside the value is not looked at. -/
def Value.InMemory : Value → Prop
  | .string s => s.utf8ByteSize < 0x8000000000000000
  | .bytes b => b.length < 0x8000000000000000
  | .array items => items.length < 0x8000000000000000
  | .vector entries => entries.length < 0x8000000000000000
  | .timestamp t => Integer.Fits t.seconds ∧ -0x80000000 ≤ t.nanos ∧ t.nanos < 0x80000000
  | _ => True

instance : DecidablePred Value.InMemory
  | .string s => inferInstanceAs (Decidable (s.utf8ByteSize < 0x8000000000000000))
  | .bytes b => inferInstanceAs (Decidable (b.length < 0x8000000000000000))
  | .array items => inferInstanceAs (Decidable (items.length < 0x8000000000000000))
  | .vector entries => inferInstanceAs (Decidable (entries.length < 0x8000000000000000))
  | .timestamp t => inferInstanceAs
      (Decidable (Integer.Fits t.seconds ∧ -0x80000000 ≤ t.nanos ∧ t.nanos < 0x80000000))
  | .null | .boolean _ | .integer _ | .double _ | .reference _ | .geoPoint _ | .map _ => .isTrue trivial

/-- A string has no more characters than bytes. -/
theorem Value.InMemory.length_lt {s : String} (h : (Value.string s).InMemory) :
    s.toList.length < 0x8000000000000000 := by
  have hle (cs : List Char) : cs.length ≤ String.utf8Len cs := by
    induction cs with
    | nil => exact Nat.zero_le _
    | cons c cs ih =>
        have hc := c.utf8Size_pos
        rw [String.utf8Len_cons, List.length_cons]
        omega
  have hbytes : s.utf8ByteSize = String.utf8Len s.toList := by
    rw [← String.utf8ByteSize_ofList, String.ofList_toList]
  have hs : s.utf8ByteSize < 0x8000000000000000 := h
  rw [hbytes] at hs
  exact Nat.lt_of_le_of_lt (hle s.toList) hs

namespace Outcome

/-- The value has room in memory, if there is one. -/
def InMemory : Outcome → Prop
  | value v => v.InMemory
  | _ => True

instance : DecidablePred InMemory
  | value v => inferInstanceAs (Decidable v.InMemory)
  | null | unset | error _ => .isTrue trivial

/-- Keeps an outcome. -/
def kept (o : Outcome) : Guarded Outcome := if o.InMemory then .ok o else .error .memory

theorem inMemory_of_kept {o o' : Outcome} (h : o.kept = .ok o') : o'.InMemory := by
  unfold kept at h
  split_ifs at h with ho
  cases h
  exact ho

end Outcome

/-! ### What a computation comes to -/

/-- The computation comes to the answer; if the values do not fit it may run out of memory instead. -/
def Reaches {α : Type} (fits : Prop) (r : Guarded α) (a : α) : Prop :=
  r = .ok a ∨ ¬ fits ∧ r = .error .memory

namespace Reaches

variable {α β : Type} {fits fits' : Prop} {r : Guarded α} {a : α} {b : β}

theorem ok (a : α) : Reaches fits (.ok a) a := Or.inl rfl

theorem of_eq (h : r = .ok a) : Reaches fits r a := Or.inl h

/-- With fewer values that must fit, fewer faults are excused. -/
theorem mono (h : Reaches fits r a) (hfits : fits' → fits) : Reaches fits' r a := by
  rcases h with h | ⟨hnot, h⟩
  · exact Or.inl h
  · exact Or.inr ⟨fun hfits' => hnot (hfits hfits'), h⟩

theorem bind {next : α → Guarded β} (hr : Reaches fits r a) (hnext : r = .ok a → Reaches fits (next a) b) :
    Reaches fits (r >>= next) b := by
  rcases hr with hr | ⟨hnot, hr⟩
  · have heq : r >>= next = next a := by rw [hr]; rfl
    rw [heq]
    exact hnext hr
  · refine Or.inr ⟨hnot, ?_⟩
    rw [hr]
    rfl

theorem map {f : α → β} (hr : Reaches fits r a) : Reaches fits (r.map f) (f a) := by
  rcases hr with hr | ⟨hnot, hr⟩
  · exact Or.inl (by rw [hr]; rfl)
  · exact Or.inr ⟨hnot, by rw [hr]; rfl⟩

/-- Answers that are computed one after the other. -/
theorem mapM {γ : Type} {g : γ → Guarded α} {f : γ → α} {items : List γ} (h : ∀ c ∈ items, Reaches fits (g c) (f c)) :
    Reaches fits (items.mapM g) (items.map f) := by
  induction items with
  | nil => exact ok []
  | cons c items ih =>
      obtain ⟨hhead, htail⟩ := List.forall_mem_cons.mp h
      rw [List.mapM_cons, List.map_cons]
      exact hhead.bind fun _ => (ih htail).bind fun _ => ok _

theorem filter {test : α → Guarded Bool} {p : α → Bool} {items : List α}
    (h : ∀ a ∈ items, Reaches fits (test a) (p a)) : Reaches fits (Guarded.filter test items) (items.filter p) := by
  induction items with
  | nil => exact ok []
  | cons a items ih =>
      obtain ⟨hhead, htail⟩ := List.forall_mem_cons.mp h
      rw [List.filter_cons]
      exact hhead.bind fun _ => (ih htail).bind fun _ => ok _

theorem kept {o : Outcome} (h : fits → o.InMemory) : Reaches fits o.kept o := by
  by_cases ho : o.InMemory
  · exact Or.inl (if_pos ho)
  · exact Or.inr ⟨fun hfits => ho (h hfits), if_neg ho⟩

end Reaches

end DocumentQuery
