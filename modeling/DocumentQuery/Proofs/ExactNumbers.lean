import DocumentQuery.Proofs.QueryEquality
import Mathlib.Algebra.Order.Field.Rat
import Mathlib.Algebra.Order.Ring.Cast
import Mathlib.Tactic.Ring

/-! # The exact values of doubles

`Double.value` is the rational number that the sign, the exponent and the fraction of a finite pattern stand for.  Its
units of `2 ^ (-1074)` are counted by `Double.scaled` (`Double.value_mul_unit`), so comparing an integer word with a
double in these units compares the integer with the value (`Double.compareInt_of_isFinite`).  What is left of the
patterns lies outside the words, NaN and negative infinity below them and infinity above. -/

namespace DocumentQuery

namespace Double

/-! ### The value of a pattern -/

/-- The absolute value of a finite number by the fields of its pattern.  The numbers of the least exponent have no
leading one. -/
def absoluteValue (d : Double) : ℚ :=
  if d.exponent = 0 then d.fraction / 2 ^ 52 * 2 ^ (-1022 : ℤ)
  else (1 + d.fraction / 2 ^ 52) * 2 ^ ((d.exponent : ℤ) - 1023)

/-- The value of a finite number. -/
def value (d : Double) : ℚ := if d.isNegative then -d.absoluteValue else d.absoluteValue

theorem cast_two_pow (n : ℕ) : ((Nat.pow 2 n : ℕ) : ℚ) = 2 ^ (n : ℤ) := by
  rw [zpow_natCast]
  exact Nat.cast_pow 2 n

theorem cast_unit : (unit : ℚ) = 2 ^ ((1074 : ℕ) : ℤ) := by
  unfold unit
  generalize 1074 = n
  rw [Int.cast_natCast, cast_two_pow]

/-- The magnitude counts the value in units. -/
theorem absoluteValue_mul_unit (d : Double) : d.absoluteValue * unit = d.magnitude := by
  rw [cast_unit]
  unfold absoluteValue magnitude
  split_ifs with h
  · rw [mul_assoc, ← zpow_add₀ two_ne_zero]
    norm_num
  · have hpow : (2 : ℚ) ^ ((d.exponent : ℤ) - 1023 + (1074 : ℕ)) = 2 ^ (((d.exponent - 1 : ℕ) : ℤ) + 52) := by
      congr 1
      omega
    rw [mul_assoc, ← zpow_add₀ two_ne_zero, hpow, zpow_add₀ two_ne_zero, Nat.cast_mul, cast_two_pow]
    push_cast
    norm_num
    ring

theorem value_mul_unit (d : Double) : d.value * unit = d.scaled := by
  unfold value scaled
  split_ifs
  · rw [neg_mul, absoluteValue_mul_unit, Int.cast_neg, Int.cast_natCast]
  · rw [absoluteValue_mul_unit, Int.cast_natCast]

def infinity : Double := ⟨0x7ff0000000000000⟩

def negativeInfinity : Double := ⟨0xfff0000000000000⟩

/-- The largest exponent leaves NaN and the two infinities. -/
theorem isNaN_or_infinite {d : Double} (h : d.isFinite = false) : d.isNaN ∨ d = infinity ∨ d = negativeInfinity := by
  by_cases hn : d.isNaN
  · exact .inl hn
  have hexponent : d.exponent = 2047 := by
    have hbound : d.exponent < 0x800 := Nat.mod_lt _ (by decide)
    have := of_decide_eq_false h
    omega
  have hfraction : d.fraction = 0 := by
    simpa only [isNaN, hexponent, decide_true, Bool.true_and, decide_eq_true_iff, not_not] using hn
  have hbits : d.bits.toNat = 0x7ff0000000000000 ∨ d.bits.toNat = 0xfff0000000000000 := by
    have hbound := d.bits.toNat_lt
    unfold exponent at hexponent
    unfold fraction at hfraction
    omega
  have hmk {bits : UInt64} (h : d.bits.toNat = bits.toNat) : d = ⟨bits⟩ := congrArg mk (UInt64.toNat_inj.mp h)
  exact .inr (hbits.imp hmk hmk)

theorem rank_of_isFinite {d : Double} (h : d.isFinite) : d.rank = d.scaled := by
  have hn : ¬ d.isNaN := by
    have := of_decide_eq_true h
    simp only [isNaN, Bool.and_eq_true, decide_eq_true_iff]
    omega
  unfold rank
  rw [if_neg hn, if_pos h]

/-! ### An integer word against the value -/

variable {i : Int} {d : Double}

/-- Counted in units, an integer and a double stand as the integer and the value do. -/
theorem compare_mul_unit_scaled (i : Int) (d : Double) :
    Ord.compare (i * unit) d.scaled = Ord.compare (i : ℚ) d.value := by
  have hunit : (0 : ℚ) < unit := Int.cast_pos.mpr unit_pos
  have hlt : i * unit < d.scaled ↔ (i : ℚ) < d.value := by
    rw [← Int.cast_lt (R := ℚ), ← value_mul_unit, Int.cast_mul, mul_lt_mul_iff_left₀ hunit]
  have hgt : d.scaled < i * unit ↔ d.value < i := by
    rw [← Int.cast_lt (R := ℚ), ← value_mul_unit, Int.cast_mul, mul_lt_mul_iff_left₀ hunit]
  rcases lt_trichotomy (i : ℚ) d.value with h | h | h
  · rw [compare_lt_iff_lt.mpr h, Int.compare_eq_lt.mpr (hlt.mpr h)]
  · have heq : i * unit = d.scaled := by
      rw [← Int.cast_inj (α := ℚ), ← value_mul_unit, Int.cast_mul, h]
    rw [compare_eq_iff_eq.mpr h, Int.compare_eq_eq.mpr heq]
  · rw [compare_gt_iff_gt.mpr h, Int.compare_eq_gt.mpr (hgt.mpr h)]

theorem compareInt_of_isFinite (hi : Integer.Fits i) (h : d.isFinite) :
    compareInt i d = Ord.compare (i : ℚ) d.value := by
  rw [compareInt_eq hi, rank_of_isFinite h, compare_mul_unit_scaled]

theorem compareInt_below (hi : Integer.Fits i) (h : d.isNaN ∨ d = negativeInfinity) : compareInt i d = .gt := by
  have hlow : d.rank ≤ -infiniteRank := by
    rcases h with h | rfl
    · exact (isNaN_iff_rank_lt.mp h).le
    · decide +kernel
  have hword := (mul_unit_bounds hi).1
  have hbound := wordRank_lt_infiniteRank
  rw [compareInt_eq hi]
  exact Int.compare_eq_gt.mpr (by omega)

theorem compareInt_infinity (hi : Integer.Fits i) : compareInt i infinity = .lt := by
  have hrank : infinity.rank = infiniteRank := by decide +kernel
  have hword := (mul_unit_bounds hi).2
  have hbound := wordRank_lt_infiniteRank
  rw [compareInt_eq hi, hrank]
  exact Int.compare_eq_lt.mpr (by omega)

/-- Only a finite number ties with an integer word, and only if its value is the integer. -/
theorem compareInt_eq_eq_iff (hi : Integer.Fits i) : compareInt i d = .eq ↔ d.isFinite ∧ d.value = i := by
  cases hf : d.isFinite with
  | true => rw [compareInt_of_isFinite hi hf, compare_eq_iff_eq, eq_comm, eq_self, true_and]
  | false =>
      refine iff_of_false (fun htie => ?_) fun h => Bool.false_ne_true h.1
      rcases isNaN_or_infinite hf with hn | rfl | rfl
      · rw [compareInt_below hi (.inl hn)] at htie
        cases htie
      · rw [compareInt_infinity hi] at htie
        cases htie
      · rw [compareInt_below hi (.inr rfl)] at htie
        cases htie

end Double

namespace Value

theorem compare_integer_double (i : Int64) (d : Double) :
    (integer i).compare (double d) = Double.compareInt i.toInt d := by
  rw [compare_of_isNumber rfl rfl, Double.compareInt_eq (Integer.fits_toInt i)]
  rfl

theorem equals?_integer_double (i : Int64) (d : Double) :
    (integer i).equals? (double d) = some true ↔ d.isFinite ∧ d.value = i.toInt := by
  rw [equals?_of_isNumber rfl rfl, Option.some_inj, equalNumbers_iff rfl rfl, compare_integer_double,
    Double.compareInt_eq_eq_iff (Integer.fits_toInt i)]
  exact and_iff_left rfl

/-- **Integers and doubles compare by exact value**, with NaN and negative infinity below every integer and infinity
above.  The order does not depend on which of the two comes first, and equality confirms the ties of exact values
alone. -/
theorem integers_and_doubles_compare_exactly (i : Int64) (d : Double) :
    (d.isFinite → Double.compareInt i.toInt d = Ord.compare (i.toInt : ℚ) d.value) ∧
      (d.isNaN ∨ d = Double.negativeInfinity → Double.compareInt i.toInt d = .gt) ∧
      (d = Double.infinity → Double.compareInt i.toInt d = .lt) ∧
      (integer i).compare (double d) = Double.compareInt i.toInt d ∧
      (double d).compare (integer i) = (Double.compareInt i.toInt d).swap ∧
      ((integer i).equals? (double d) = some true ↔ d.isFinite ∧ d.value = i.toInt) := by
  have hi := Integer.fits_toInt i
  refine ⟨Double.compareInt_of_isFinite hi, Double.compareInt_below hi, ?_, compare_integer_double i d, ?_,
    equals?_integer_double i d⟩
  · rintro rfl
    exact Double.compareInt_infinity hi
  · rw [compare_swap, compare_integer_double]

/-- The least integer is the value of a double, and the integer after `2 ^ 53` lies beyond the double of `2 ^ 53`.  NaN
and the infinities lie outside all integers. -/
theorem integers_and_doubles_compare_exactly_at_the_ends :
    (Double.isFinite ⟨0xc3e0000000000000⟩ ∧ Double.value ⟨0xc3e0000000000000⟩ = Int64.minValue.toInt) ∧
      (Double.isFinite ⟨0x4340000000000000⟩ ∧
        Ord.compare ((9007199254740993 : Int64).toInt : ℚ) (Double.value ⟨0x4340000000000000⟩) = .gt) ∧
      (Double.nan.isNaN ∧ Double.compareInt Int64.minValue.toInt .nan = .gt) ∧
      Double.compareInt Int64.minValue.toInt .negativeInfinity = .gt ∧
      Double.compareInt Int64.maxValue.toInt .infinity = .lt := by
  obtain ⟨-, -, -, -, -, hleast⟩ := integers_and_doubles_compare_exactly Int64.minValue ⟨0xc3e0000000000000⟩
  obtain ⟨hexact, -⟩ := integers_and_doubles_compare_exactly 9007199254740993 ⟨0x4340000000000000⟩
  obtain ⟨-, hnan, -⟩ := integers_and_doubles_compare_exactly Int64.minValue .nan
  obtain ⟨-, hbelow, -⟩ := integers_and_doubles_compare_exactly Int64.minValue .negativeInfinity
  obtain ⟨-, -, habove, -⟩ := integers_and_doubles_compare_exactly Int64.maxValue .infinity
  have hfinite : Double.isFinite ⟨0x4340000000000000⟩ := by decide
  have hisNaN : Double.nan.isNaN := by decide
  refine ⟨hleast.mp (by decide +kernel), ⟨hfinite, ?_⟩, ⟨hisNaN, hnan (.inl hisNaN)⟩, hbelow (.inr rfl), habove rfl⟩
  rw [← hexact hfinite]
  decide +kernel

end Value

end DocumentQuery
