import DocumentQuery.Value.Order
import Mathlib.Tactic.Linarith

/-! # The order of numbers

An integer word and a double are compared in steps: a NaN decides by itself, a double outside the words by its
side, any other by its whole part and then by the fraction.  `Double.compareInt_eq` says that the steps together
compare exact values, in the units of `Double.rank`.  Every number therefore has one place on the integer line
(`Value.numericRank`), whichever of the two kinds it is, and the order of numbers is the order of the places
(`Value.compareNumeric_eq`).  The places below negative infinity are those of NaN alone
(`Value.isNaN_iff_numericRank_lt`). -/

namespace DocumentQuery

namespace Double

/-! ### An integer word against a double -/

theorem unit_pos : 0 < unit := by decide +kernel

theorem wordRank_lt_infiniteRank : wordRank < infiniteRank := by decide +kernel

/-- The whole part is less than one away from the number. -/
theorem wholePart_mul_unit (d : Double) :
    d.scaled < d.wholePart * unit + unit ∧ d.wholePart * unit < d.scaled + unit := by
  have hsum : d.scaled.tmod unit + d.scaled.tdiv unit * unit = d.scaled :=
    Int.tmod_add_tdiv_mul d.scaled unit
  have hlt := Int.tmod_lt_of_pos d.scaled unit_pos
  have hgt := Int.lt_tmod_of_pos d.scaled unit_pos
  unfold wholePart
  omega

/-- A double within the words is finite, so its rank is its value. -/
theorem rank_eq_scaled {d : Double} (hn : d.isNaN = false) (hlo : -wordRank ≤ d.rank)
    (hhi : d.rank < wordRank) : d.rank = d.scaled := by
  have hw := wordRank_lt_infiniteRank
  unfold rank at hlo hhi ⊢
  simp only [hn, Bool.false_eq_true, if_false] at hlo hhi ⊢
  cases hf : d.isFinite with
  | true => simp
  | false =>
      cases hs : d.isNegative <;> simp only [hf, hs, Bool.false_eq_true, if_false, if_true] at hlo hhi <;> omega

/-- A word in the units of `rank`. -/
theorem mul_unit_bounds {i : Int} (hi : Integer.Fits i) :
    -wordRank ≤ i * unit ∧ i * unit < wordRank := by
  have hu := unit_pos
  unfold Integer.Fits at hi
  unfold wordRank
  constructor <;> nlinarith

/-- **The order of a word and a double is exact.** -/
theorem compareInt_eq {i : Int} (hi : Integer.Fits i) (d : Double) :
    compareInt i d = Ord.compare (i * unit) d.rank := by
  obtain ⟨hlo, hhi⟩ := mul_unit_bounds hi
  unfold compareInt
  cases hn : d.isNaN with
  | true =>
      have hw := wordRank_lt_infiniteRank
      have hr : d.rank = -infiniteRank - 1 := by simp [rank, hn]
      simp only [if_true]
      exact (Int.compare_eq_gt.mpr (by omega)).symm
  | false =>
      simp only [Bool.false_eq_true, if_false]
      split_ifs with hbelow habove
      · exact (Int.compare_eq_gt.mpr (by omega)).symm
      · exact (Int.compare_eq_lt.mpr (by omega)).symm
      · have hr := rank_eq_scaled hn (by omega) (by omega)
        obtain ⟨hup, hdown⟩ := d.wholePart_mul_unit
        have hu := unit_pos
        -- Whole parts that differ are at least a unit apart, more than a fraction makes up.
        rcases lt_trichotomy i d.wholePart with h | h | h
        · have hstep : (i + 1) * unit ≤ d.wholePart * unit := Int.mul_le_mul_of_nonneg_right h hu.le
          have hexact : Ord.compare (i * unit) d.rank = .lt := Int.compare_eq_lt.mpr (by linarith)
          rw [hexact, show Ord.compare i d.wholePart = .lt from Int.compare_eq_lt.mpr h]
          rfl
        · rw [h, Std.ReflOrd.compare_self]
          rfl
        · have hstep : (d.wholePart + 1) * unit ≤ i * unit := Int.mul_le_mul_of_nonneg_right h hu.le
          have hexact : Ord.compare (i * unit) d.rank = .gt := Int.compare_eq_gt.mpr (by linarith)
          rw [hexact, show Ord.compare i d.wholePart = .gt from Int.compare_eq_gt.mpr h]
          rfl

instance : Std.TransCmp compare :=
  inferInstanceAs (Std.TransCmp (compareOn rank))

/-! ### The place of NaN -/

/-- The exponent bounds the magnitude. -/
theorem magnitude_lt {d : Double} {e : Nat} (h : d.exponent ≤ e + 1) :
    d.magnitude < 0x20000000000000 * Nat.pow 2 e := by
  have hfrac : d.fraction < 0x10000000000000 := Nat.mod_lt _ (by decide)
  have hsum : 0x10000000000000 + d.fraction < 0x20000000000000 := by omega
  have hpow : Nat.pow 2 (d.exponent - 1) ≤ Nat.pow 2 e := Nat.pow_le_pow_right (by decide) (by omega)
  have hpos : 0 < Nat.pow 2 e := Nat.two_pow_pos e
  unfold magnitude
  split_ifs
  · exact hfrac.trans_le (by omega)
  · calc (0x10000000000000 + d.fraction) * Nat.pow 2 (d.exponent - 1)
        ≤ (0x10000000000000 + d.fraction) * Nat.pow 2 e := Nat.mul_le_mul_left _ hpow
      _ < 0x20000000000000 * Nat.pow 2 e := Nat.mul_lt_mul_of_pos_right hsum hpos

/-- No finite number reaches the rank of infinity. -/
theorem magnitude_lt_infiniteRank {d : Double} (hf : d.isFinite) : (d.magnitude : Int) < infiniteRank := by
  have hexp : d.exponent < 2047 := of_decide_eq_true hf
  have hlt := magnitude_lt (show d.exponent ≤ 2045 + 1 by omega)
  exact Int.ofNat_lt.mpr (hlt.trans (by decide +kernel))

/-- **NaN alone lies below negative infinity.** -/
theorem isNaN_iff_rank_lt {d : Double} : d.isNaN ↔ d.rank < -infiniteRank := by
  have hpos : 0 < infiniteRank := by decide +kernel
  unfold rank
  cases hn : d.isNaN with
  | true => simp only [if_true, true_iff]; omega
  | false =>
      cases hf : d.isFinite with
      | false =>
          simp only [Bool.false_eq_true, if_false, false_iff, not_lt]
          split_ifs <;> omega
      | true =>
          have hmag := magnitude_lt_infiniteRank hf
          simp only [Bool.false_eq_true, if_false, if_true, false_iff, not_lt]
          unfold scaled
          split_ifs <;> omega

/-- Equality of arithmetic is a tie of the order without a NaN. -/
theorem equals_iff {a b : Double} : a.equals b ↔ a.compare b = .eq ∧ a.isNaN = false := by
  rw [compare_eq_iff]
  unfold equals
  constructor
  · intro h
    simp only [Bool.and_eq_true, Bool.not_eq_true', beq_iff_eq] at h
    exact ⟨h.2, h.1.1⟩
  · rintro ⟨hrank, ha⟩
    have hb : b.isNaN = false := by
      rw [← Bool.not_eq_true, isNaN_iff_rank_lt] at ha ⊢
      rwa [← hrank]
    simp [hrank, ha, hb]

end Double

namespace Value

/-! ### One line of numbers -/

/-- The place of a number on the integer line, in the units of `Double.rank`; other values have none. -/
def numericRank : Value → Int
  | integer i => i.toInt * Double.unit
  | double d => d.rank
  | _ => 0

/-- Two words compare as their ranks do. -/
theorem compare_mul_unit (m n : Int) :
    Ord.compare (m * Double.unit) (n * Double.unit) = Ord.compare m n := by
  have hu := Double.unit_pos
  rcases lt_trichotomy m n with h | h | h
  · rw [Int.compare_eq_lt.mpr h, Int.compare_eq_lt.mpr (by nlinarith)]
  · rw [h, Std.ReflOrd.compare_self, Std.ReflOrd.compare_self]
  · rw [Int.compare_eq_gt.mpr h, Int.compare_eq_gt.mpr (by nlinarith)]

/-- **Numbers are ordered by their places**, whether they are words or doubles. -/
theorem compareNumeric_eq {a b : Value} (ha : a.isNumber) (hb : b.isNumber) :
    compareNumeric a b = Ord.compare a.numericRank b.numericRank := by
  cases a <;> simp only [isNumber, Bool.false_eq_true] at ha
  case integer i =>
      cases b <;> simp only [isNumber, Bool.false_eq_true] at hb
      case integer j => exact (compare_mul_unit i.toInt j.toInt).symm
      case double d => exact Double.compareInt_eq (Integer.fits_toInt i) d
  case double d =>
      cases b <;> simp only [isNumber, Bool.false_eq_true] at hb
      case integer j =>
          show (Double.compareInt j.toInt d).swap = Ord.compare d.rank (j.toInt * Double.unit)
          rw [Double.compareInt_eq (Integer.fits_toInt j) d, Int.compare_swap]
      case double e => rfl

/-- Only a NaN has a place below negative infinity. -/
theorem isNaN_iff_numericRank_lt {a : Value} (ha : a.isNumber) :
    a.isNaN ↔ a.numericRank < -Double.infiniteRank := by
  cases a <;> simp only [isNumber, Bool.false_eq_true] at ha
  case integer i =>
      have hlo := (Double.mul_unit_bounds (Integer.fits_toInt i)).1
      have hw := Double.wordRank_lt_infiniteRank
      simp only [isNaN, numericRank, Bool.false_eq_true, false_iff]
      omega
  case double d => exact Double.isNaN_iff_rank_lt

end Value

end DocumentQuery
