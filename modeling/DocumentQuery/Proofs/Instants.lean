import DocumentQuery.Timestamp
import Mathlib.Order.Bounds.Defs

/-! # Timestamps as instants

A valid timestamp is an instant: its nanoseconds since 1970 tell it apart from every other one, and they give it back
(`Timestamp.ofEpochNanos?_eq_some_iff`).  The instants that have a timestamp are those between the earliest and the
latest one (`Timestamp.InSpan`), and timestamps are in the order of their instants.

Counts of a coarser unit are instants too (`Resolution.ofCount?_eq`), and a count of an instant is its number of whole
units, rounded down (`Resolution.toInt_toCount`); that number fits a word, since the span is shorter than a word of
microseconds.  Both ends of the span lie so that rounding down does not leave it (`Resolution.inSpan_floor`). -/

namespace DocumentQuery

namespace Timestamp

variable {t : Timestamp} {n : Int}

/-! ### The span of timestamps -/

/-- The start of year 1. -/
def earliest : Timestamp := ⟨minSeconds, 0⟩

/-- The last nanosecond of year 9999. -/
def latest : Timestamp := ⟨maxSeconds, 999999999⟩

/-- The instants from the earliest timestamp to the latest one. -/
def InSpan (n : Int) : Prop := earliest.epochNanos ≤ n ∧ n ≤ latest.epochNanos

instance (n : Int) : Decidable (InSpan n) := inferInstanceAs (Decidable (_ ∧ _))

theorem valid_earliest : earliest.Valid := by decide

theorem inSpan_iff : InSpan n ↔ -62135596800000000000 ≤ n ∧ n ≤ 253402300799999999999 := Iff.rfl

theorem valid_iff : t.Valid ↔
    -62135596800 ≤ t.seconds ∧ t.seconds ≤ 253402300799 ∧ 0 ≤ t.nanos ∧ t.nanos < 1000000000 := Iff.rfl

theorem epochNanos_eq (t : Timestamp) : t.epochNanos = t.seconds * 1000000000 + t.nanos := rfl

/-! ### Instants -/

/-- There is one timestamp for each instant that has any. -/
theorem ofEpochNanos?_eq_some_iff : ofEpochNanos? n = some t ↔ t.Valid ∧ t.epochNanos = n := by
  obtain ⟨seconds, nanos⟩ := t
  have hunit : nanosPerSecond = 1000000000 := rfl
  rw [ofEpochNanos?, ofParts?_eq_some_iff, mk.injEq, valid_iff, epochNanos_eq, hunit]
  dsimp only
  omega

theorem inSpan_epochNanos (h : t.Valid) : InSpan t.epochNanos := by
  rw [valid_iff] at h
  rw [inSpan_iff, epochNanos_eq]
  omega

theorem exists_ofEpochNanos? (h : InSpan n) : ∃ t, ofEpochNanos? n = some t := by
  refine ⟨⟨n / 1000000000, n % 1000000000⟩, ofEpochNanos?_eq_some_iff.mpr ?_⟩
  rw [inSpan_iff] at h
  rw [valid_iff, epochNanos_eq]
  dsimp only
  omega

theorem isSome_ofEpochNanos?_iff : (ofEpochNanos? n).isSome ↔ InSpan n := by
  rw [Option.isSome_iff_exists]
  refine ⟨?_, exists_ofEpochNanos?⟩
  rintro ⟨t, ht⟩
  obtain ⟨hvalid, rfl⟩ := ofEpochNanos?_eq_some_iff.mp ht
  exact inSpan_epochNanos hvalid

theorem compare_eq_compare_of_iff {a b c d : Int} (hlt : a < b ↔ c < d) (heq : a = b ↔ c = d) :
    Ord.compare a b = Ord.compare c d := by
  show compareOfLessAndEq a b = compareOfLessAndEq c d
  simp only [compareOfLessAndEq, hlt, heq]

/-- Earlier timestamps have earlier instants. -/
theorem compare_eq_compare_epochNanos {a b : Timestamp} (ha : a.Valid) (hb : b.Valid) :
    Ord.compare a b = Ord.compare a.epochNanos b.epochNanos := by
  have hdef : Ord.compare a b = (Ord.compare a.seconds b.seconds).then (Ord.compare a.nanos b.nanos) := rfl
  rw [valid_iff] at ha hb
  rw [hdef, epochNanos_eq, epochNanos_eq]
  -- An earlier second outweighs the nanoseconds, which stay below one second.
  rcases Int.lt_trichotomy a.seconds b.seconds with hlt | heq | hgt
  · have hinstant : a.seconds * 1000000000 + a.nanos < b.seconds * 1000000000 + b.nanos := by omega
    rw [Int.compare_eq_lt.mpr hlt, Int.compare_eq_lt.mpr hinstant]
    rfl
  · rw [heq, Int.compare_eq_eq.mpr rfl, Ordering.eq_then]
    exact compare_eq_compare_of_iff (by omega) (by omega)
  · have hinstant : b.seconds * 1000000000 + b.nanos < a.seconds * 1000000000 + a.nanos := by omega
    rw [Int.compare_eq_gt.mpr hgt, Int.compare_eq_gt.mpr hinstant]
    rfl

/-- The timestamp at a number of nanoseconds in words: the quotient must fit 64 bits, and the remainder is cut to 32. -/
def ofEpochNanosInWords? (n : Int) : Option Timestamp := do
  let seconds ← Integer.ofInt? (n / nanosPerSecond)
  ofParts? seconds.toInt (Int32.ofInt (n % nanosPerSecond)).toInt

/-- The words lose nothing: a quotient that does not fit lies out of range, and a remainder always fits. -/
theorem ofEpochNanosInWords?_eq (n : Int) : ofEpochNanosInWords? n = ofEpochNanos? n := by
  have hunit : nanosPerSecond = 1000000000 := rfl
  have hnanos : (Int32.ofInt (n % 1000000000)).toInt = n % 1000000000 :=
    Int32.toInt_ofInt_of_le (by omega) (by omega)
  rw [ofEpochNanosInWords?, ofEpochNanos?, hunit, hnanos]
  cases hseconds : Integer.ofInt? (n / 1000000000) with
  | some seconds =>
      rw [← Integer.ofInt?_eq_some_iff.mp hseconds]
      rfl
  | none =>
      have hwide := Integer.ofInt?_eq_none_iff.mp hseconds
      have hout : ¬ Valid ⟨n / 1000000000, n % 1000000000⟩ := by
        rw [valid_iff]
        unfold Integer.Fits at hwide
        dsimp only
        omega
      exact (if_neg hout).symm

end Timestamp

/-! ### Counts of coarser units -/

/-- A unit in which instants are counted by words. -/
inductive Resolution where
  | micros | millis | seconds
deriving DecidableEq, Repr

namespace Resolution

def nanos : Resolution → Int
  | micros => 1000
  | millis => 1000000
  | seconds => 1000000000

/-- The timestamp of a count, if it is valid. -/
def ofCount? : Resolution → Int64 → Option Timestamp
  | micros => Timestamp.ofUnixMicros?
  | millis => Timestamp.ofUnixMillis?
  | seconds => Timestamp.ofUnixSeconds?

/-- The count of a timestamp. -/
def toCount : Resolution → Timestamp → Int64
  | micros => Timestamp.toUnixMicros
  | millis => Timestamp.toUnixMillis
  | seconds => Timestamp.toUnixSeconds

variable {t : Timestamp}

/-- The seconds are taken as they are, which is where a count of seconds lies. -/
theorem ofCount?_eq (r : Resolution) (count : Int64) :
    r.ofCount? count = Timestamp.ofEpochNanos? (count.toInt * r.nanos) := by
  cases r with
  | micros | millis => rfl
  | seconds =>
      have hquotient : count.toInt * 1000000000 / Timestamp.nanosPerSecond = count.toInt :=
        Int.mul_ediv_cancel _ (by decide)
      have hremainder : count.toInt * 1000000000 % Timestamp.nanosPerSecond = 0 := Int.mul_emod_left _ _
      show Timestamp.ofParts? count.toInt 0 = Timestamp.ofEpochNanos? (count.toInt * 1000000000)
      rw [Timestamp.ofEpochNanos?, hquotient, hremainder]

/-- A count is the number of whole units, rounded down; no bit of it is cut off. -/
theorem toInt_toCount (r : Resolution) (h : t.Valid) : (r.toCount t).toInt = t.epochNanos / r.nanos := by
  have hspan := Timestamp.inSpan_iff.mp (Timestamp.inSpan_epochNanos h)
  cases r with
  | micros => exact Int64.toInt_ofInt_of_le (by omega) (by omega)
  | millis => exact Int64.toInt_ofInt_of_le (by omega) (by omega)
  | seconds =>
      rw [Timestamp.valid_iff] at h
      have hseconds : (Int64.ofInt t.seconds).toInt = t.seconds := Int64.toInt_ofInt_of_le (by omega) (by omega)
      show (Int64.ofInt t.seconds).toInt = t.epochNanos / 1000000000
      rw [hseconds, Timestamp.epochNanos_eq]
      omega

/-- Rounding down does not leave the span of timestamps. -/
theorem inSpan_floor (r : Resolution) (h : t.Valid) : Timestamp.InSpan (t.epochNanos / r.nanos * r.nanos) := by
  have hspan := Timestamp.inSpan_iff.mp (Timestamp.inSpan_epochNanos h)
  rw [Timestamp.inSpan_iff]
  cases r with
  | micros | millis | seconds =>
      dsimp only [nanos]
      omega

theorem nanos_pos (r : Resolution) : 0 < r.nanos := by
  cases r <;> decide

/-- There is a timestamp of a count exactly if its instant is in the span of timestamps. -/
theorem isSome_ofCount?_iff (r : Resolution) (count : Int64) :
    (r.ofCount? count).isSome ↔ Timestamp.InSpan (count.toInt * r.nanos) := by
  rw [ofCount?_eq, Timestamp.isSome_ofEpochNanos?_iff]

theorem epochNanos_of_ofCount? {r : Resolution} {count : Int64} (h : r.ofCount? count = some t) :
    t.Valid ∧ t.epochNanos = count.toInt * r.nanos := by
  rw [ofCount?_eq] at h
  exact Timestamp.ofEpochNanos?_eq_some_iff.mp h

theorem toCount_of_ofCount? {r : Resolution} {count : Int64} (h : r.ofCount? count = some t) :
    r.toCount t = count := by
  obtain ⟨hvalid, hinstant⟩ := epochNanos_of_ofCount? h
  apply Int64.toInt_inj.mp
  rw [toInt_toCount r hvalid, hinstant, Int.mul_ediv_cancel _ (Int.ne_of_gt r.nanos_pos)]

theorem exists_ofCount?_toCount (r : Resolution) (h : t.Valid) :
    ∃ t', r.ofCount? (r.toCount t) = some t' ∧ t'.epochNanos = t.epochNanos / r.nanos * r.nanos := by
  obtain ⟨t', ht'⟩ := Timestamp.exists_ofEpochNanos? (inSpan_floor r h)
  rw [← toInt_toCount r h, ← ofCount?_eq] at ht'
  refine ⟨t', ht', ?_⟩
  rw [(epochNanos_of_ofCount? ht').2, toInt_toCount r h]

/-- Rounding down gives the last multiple of the unit that is not later. -/
theorem isGreatest_floor (r : Resolution) (n : Int) :
    IsGreatest {m | r.nanos ∣ m ∧ m ≤ n} (n / r.nanos * r.nanos) := by
  refine ⟨⟨Int.dvd_mul_left _ _, Int.ediv_mul_le n (Int.ne_of_gt r.nanos_pos)⟩, ?_⟩
  rintro m ⟨⟨k, rfl⟩, hle⟩
  have hk : k ≤ n / r.nanos := Int.le_ediv_of_mul_le r.nanos_pos (by rwa [Int.mul_comm])
  rw [Int.mul_comm]
  exact Int.mul_le_mul_of_nonneg_right hk (Int.le_of_lt r.nanos_pos)

end Resolution

/-- **Conversions of timestamps are exact.**  A number of nanoseconds has a timestamp exactly if it lies between the
earliest and the latest one, also when quotient and remainder are kept in words; that timestamp is valid and has this
number, and every valid timestamp is the one of its number.  The same holds of counts of microseconds, milliseconds and
seconds.  A count of a valid timestamp is never cut off, and the timestamp of the count is the last multiple of the unit
that is not later.  Valid timestamps are in the order of their nanoseconds. -/
theorem timestamp_conversions_are_exact :
    (∀ n : Int, ((Timestamp.ofEpochNanos? n).isSome ↔
        Timestamp.earliest.epochNanos ≤ n ∧ n ≤ Timestamp.latest.epochNanos) ∧
      (∀ t, Timestamp.ofEpochNanos? n = some t → t.Valid ∧ t.epochNanos = n) ∧
      Timestamp.ofEpochNanosInWords? n = Timestamp.ofEpochNanos? n) ∧
    (∀ t : Timestamp, t.Valid → Timestamp.ofEpochNanos? t.epochNanos = some t) ∧
    (∀ (r : Resolution) (count : Int64),
      ((r.ofCount? count).isSome ↔ Timestamp.InSpan (count.toInt * r.nanos)) ∧
      ∀ t, r.ofCount? count = some t →
        t.Valid ∧ t.epochNanos = count.toInt * r.nanos ∧ r.toCount t = count) ∧
    (∀ (r : Resolution) (t : Timestamp), t.Valid →
      (r.toCount t).toInt = t.epochNanos / r.nanos ∧
      ∃ t', r.ofCount? (r.toCount t) = some t' ∧
        IsGreatest {n | r.nanos ∣ n ∧ n ≤ t.epochNanos} t'.epochNanos) ∧
    ∀ a b : Timestamp, a.Valid → b.Valid → Ord.compare a b = Ord.compare a.epochNanos b.epochNanos := by
  refine ⟨fun n => ?_, fun t ht => Timestamp.ofEpochNanos?_eq_some_iff.mpr ⟨ht, rfl⟩, fun r count => ?_,
    fun r t ht => ?_, fun a b => Timestamp.compare_eq_compare_epochNanos⟩
  · exact ⟨Timestamp.isSome_ofEpochNanos?_iff, fun t => Timestamp.ofEpochNanos?_eq_some_iff.mp,
      Timestamp.ofEpochNanosInWords?_eq n⟩
  · refine ⟨Resolution.isSome_ofCount?_iff r count, fun t ht => ?_⟩
    obtain ⟨hvalid, hinstant⟩ := Resolution.epochNanos_of_ofCount? ht
    exact ⟨hvalid, hinstant, Resolution.toCount_of_ofCount? ht⟩
  · obtain ⟨t', hback, hfloor⟩ := Resolution.exists_ofCount?_toCount r ht
    refine ⟨Resolution.toInt_toCount r ht, t', hback, ?_⟩
    rw [hfloor]
    exact Resolution.isGreatest_floor r t.epochNanos

/-- The last nanosecond of 1969 lies in the millisecond that is counted -1, and a count of milliseconds stands for the
start of it. -/
theorem timestamp_conversions_are_exact_before_epoch :
    let t : Timestamp := ⟨-1, 999999999⟩
    let start : Timestamp := ⟨-1, 999000000⟩
    t.Valid ∧ Timestamp.ofEpochNanos? (-1) = some t ∧ t.epochNanos = -1 ∧
      Timestamp.ofEpochNanos? t.epochNanos = some t ∧
      Resolution.millis.ofCount? (-1) = some start ∧ Resolution.millis.toCount start = -1 ∧
      (Resolution.millis.toCount t).toInt = t.epochNanos / 1000000 ∧
      (∃ t', Resolution.millis.ofCount? (Resolution.millis.toCount t) = some t' ∧
        IsGreatest {n | Resolution.millis.nanos ∣ n ∧ n ≤ t.epochNanos} t'.epochNanos) ∧
      start.Valid ∧ Ord.compare start t = Ord.compare start.epochNanos t.epochNanos := by
  intro t start
  obtain ⟨hinstants, hback, hcounts, hfloors, horder⟩ := timestamp_conversions_are_exact
  have hvalid : t.Valid := by decide
  have hstart : start.Valid := by decide
  have hinstant : Timestamp.ofEpochNanos? (-1) = some t := by decide
  have hcount : Resolution.millis.ofCount? (-1) = some start := by decide
  obtain ⟨hfloor, hgreatest⟩ := hfloors .millis t hvalid
  exact ⟨hvalid, hinstant, ((hinstants (-1)).2.1 t hinstant).2, hback t hvalid, hcount,
    ((hcounts .millis (-1)).2 start hcount).2.2, hfloor, hgreatest, hstart, horder start t hstart hvalid⟩

end DocumentQuery
