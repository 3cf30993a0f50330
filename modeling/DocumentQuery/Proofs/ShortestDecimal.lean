import DocumentQuery.Double.Decimal
import Mathlib.Algebra.Order.Field.Power
import Mathlib.Algebra.Order.Floor.Semifield
import Mathlib.Data.List.TakeWhile
import Mathlib.Data.Rat.Floor
import Mathlib.Tactic.FieldSimp
import Mathlib.Tactic.Linarith
import Mathlib.Tactic.Positivity
import Mathlib.Tactic.Ring

/-! # Decimals, and the search for one in an interval

A decimal says a rational number (`Decimal.value`), and so does its text (`Decimal.textValue_text`).  Whether an
interval admits a decimal is therefore a question about that number (`Interval.admits_iff`).  On one decimal grid the
search looks only at the two neighbours of the center: where the interval has any number of the grid, it has one of
these, and it is as near (`Interval.holds_neighbour`).  So the search takes the nearest number of the grid
(`Interval.nearest?_eq_some`), and where it finds none there is none (`Interval.nearest?_eq_none`). -/

namespace DocumentQuery

namespace Decimal

/-! ### The number of a decimal -/

/-- The number that a decimal says. -/
def value (d : Decimal) : ℚ := d.digits * 10 ^ d.exponent

theorem ten_zpow (e : ℤ) : (10 : ℚ) ^ e = 10 ^ e.toNat / 10 ^ (-e).toNat := by
  obtain ⟨n, rfl | rfl⟩ := e.eq_nat_or_neg <;> simp

theorem value_le_value {m n : ℕ} {exponent : ℤ} (h : m ≤ n) :
    value ⟨m, exponent⟩ ≤ value ⟨n, exponent⟩ :=
  mul_le_mul_of_nonneg_right (Nat.cast_le.2 h) (by positivity)

theorem value_reduced (d : Decimal) : d.reduced.value = d.value := by
  unfold reduced
  split_ifs with h
  · have hdigits : (d.digits : ℚ) = (d.digits / 10 : ℕ) * 10 := by
      exact_mod_cast (Nat.div_mul_cancel (Nat.dvd_of_mod_eq_zero h.2)).symm
    rw [value, value, hdigits, zpow_add_one₀ (by norm_num)]
    ring
  · rfl

/-! ### Text -/

/-- The number that positional text says: its digits, divided by a power of ten for those after the point. -/
def textValue (text : List Char) : ℚ :=
  Nat.ofDigitChars 10 (text.filter (· ≠ '.')) 0 / 10 ^ ((text.dropWhile (· ≠ '.')).length - 1)

theorem ne_point_of_isDigit {c : Char} (h : c.isDigit) : c ≠ '.' := by
  rintro rfl
  exact absurd h (by decide)

theorem textValue_of_digits {digits : List Char} (h : ∀ c ∈ digits, c.isDigit) :
    textValue digits = Nat.ofDigitChars 10 digits 0 := by
  have hpoint : ∀ c ∈ digits, c ≠ '.' := fun c hc => ne_point_of_isDigit (h c hc)
  have hfilter : digits.filter (· ≠ '.') = digits := List.filter_eq_self.2 (by simpa using hpoint)
  have hdrop : digits.dropWhile (· ≠ '.') = [] := List.dropWhile_eq_nil_iff.2 (by simpa using hpoint)
  rw [textValue, hfilter, hdrop, List.length_nil, Nat.zero_sub, pow_zero, div_one]

theorem textValue_of_point {whole fraction : List Char} (h : ∀ c ∈ whole ++ fraction, c.isDigit) :
    textValue (whole ++ '.' :: fraction) = Nat.ofDigitChars 10 (whole ++ fraction) 0 / 10 ^ fraction.length := by
  have hpoint : ∀ c ∈ whole ++ fraction, c ≠ '.' := fun c hc => ne_point_of_isDigit (h c hc)
  have hfilter : (whole ++ '.' :: fraction).filter (· ≠ '.') = whole ++ fraction := by
    rw [List.filter_append, List.filter_cons_of_neg (by simp), ← List.filter_append]
    exact List.filter_eq_self.2 (by simpa using hpoint)
  have hdrop : (whole ++ '.' :: fraction).dropWhile (· ≠ '.') = '.' :: fraction := by
    rw [List.dropWhile_append_of_pos (by simpa using fun c hc => hpoint c (List.mem_append_left _ hc)),
      List.dropWhile_cons_of_neg (by simp)]
  rw [textValue, hfilter, hdrop, List.length_cons, Nat.add_sub_cancel]

/-- The digits and zeros that a text is made of. -/
theorem isDigit_of_mem_shown {n zeros : ℕ} {c : Char}
    (h : c ∈ List.replicate zeros '0' ∨ c ∈ Nat.toDigits 10 n) : c.isDigit := by
  rcases h with h | h
  · rw [List.eq_of_mem_replicate h]
    decide
  · exact Nat.isDigit_of_mem_toDigits (by decide) (by decide) h

/-- The text of a decimal says its number. -/
theorem textValue_text (d : Decimal) : textValue d.text.toList = d.value := by
  unfold text value
  dsimp only
  split_ifs with h
  · have hdigits : ∀ c ∈ Nat.toDigits 10 d.digits ++ List.replicate d.exponent.toNat '0', c.isDigit := fun c hc =>
      isDigit_of_mem_shown (List.mem_append.1 hc).symm
    have hzero : (-d.exponent).toNat = 0 := Int.toNat_of_nonpos (by omega)
    rw [String.toList_ofList, textValue_of_digits hdigits, Nat.ofDigitChars_append, Nat.ofDigitChars_ten_toDigits,
      Nat.ofDigitChars_replicate_zero, ten_zpow, hzero, pow_zero, div_one, mul_comm]
    push_cast
    rfl
  · have hzero : d.exponent.toNat = 0 := Int.toNat_of_nonpos (by omega)
    generalize hplaces : (-d.exponent).toNat = places
    have hpadded : Nat.ofDigitChars 10 (List.replicate (places + 1 - (Nat.toDigits 10 d.digits).length) '0' ++
        Nat.toDigits 10 d.digits) 0 = d.digits := by
      rw [Nat.ofDigitChars_append, Nat.ofDigitChars_replicate_zero, mul_zero, Nat.ofDigitChars_ten_toDigits]
    have hdigits : ∀ c ∈ List.replicate (places + 1 - (Nat.toDigits 10 d.digits).length) '0' ++
        Nat.toDigits 10 d.digits, c.isDigit := fun c hc => isDigit_of_mem_shown (List.mem_append.1 hc)
    have hlength : places < (List.replicate (places + 1 - (Nat.toDigits 10 d.digits).length) '0' ++
        Nat.toDigits 10 d.digits).length := by
      rw [List.length_append, List.length_replicate]
      omega
    generalize List.replicate (places + 1 - (Nat.toDigits 10 d.digits).length) '0' ++ Nat.toDigits 10 d.digits =
      padded at *
    rw [String.toList_ofList, textValue_of_point (by rwa [List.take_append_drop]), List.take_append_drop, hpadded,
      List.length_drop, Nat.sub_sub_self hlength.le, ten_zpow, hzero, hplaces, pow_zero, ← div_eq_mul_one_div]

theorem mem_text {d : Decimal} {c : Char} (h : c ∈ d.text.toList) : c.isDigit ∨ c = '.' := by
  unfold text at h
  dsimp only at h
  split_ifs at h
  · rw [String.toList_ofList, List.mem_append] at h
    exact .inl (isDigit_of_mem_shown h.symm)
  · rw [String.toList_ofList, List.mem_append, List.mem_cons] at h
    rcases h with h | rfl | h
    · exact .inl (isDigit_of_mem_shown (List.mem_append.1 (List.mem_of_mem_take h)))
    · exact .inr rfl
    · exact .inl (isDigit_of_mem_shown (List.mem_append.1 (List.mem_of_mem_drop h)))

example : text ⟨1, 21⟩ = "1000000000000000000000" := by decide
example : text ⟨25, -3⟩ = "0.025" := by decide

end Decimal

namespace Double

theorem quarterUnits_pos : 0 < quarterUnits := by decide +kernel

namespace Interval

/-! ### What an interval holds -/

/-- Whether a number lies in the interval. -/
def Holds (i : Interval) (x : ℚ) : Prop :=
  if i.closed then i.low ≤ x * quarterUnits ∧ x * quarterUnits ≤ i.high
  else i.low < x * quarterUnits ∧ x * quarterUnits < i.high

/-- The number that the interval is about. -/
def center (i : Interval) : ℚ := i.value / quarterUnits

variable {i : Interval}

theorem holds_of_lt {x : ℚ} (h : i.low < x * quarterUnits) (h' : x * quarterUnits < i.high) : i.Holds x := by
  unfold Holds
  split_ifs
  · exact ⟨h.le, h'.le⟩
  · exact ⟨h, h'⟩

/-- An interval has no gaps. -/
theorem Holds.of_between {x y z : ℚ} (hx : i.Holds x) (hz : i.Holds z) (hxy : x ≤ y) (hyz : y ≤ z) :
    i.Holds y := by
  have hq : (0 : ℚ) ≤ quarterUnits := Nat.cast_nonneg _
  replace hxy := mul_le_mul_of_nonneg_right hxy hq
  replace hyz := mul_le_mul_of_nonneg_right hyz hq
  unfold Holds at *
  split_ifs at *
  · exact ⟨hx.1.trans hxy, hyz.trans hz.2⟩
  · exact ⟨hx.1.trans_le hxy, hyz.trans_lt hz.2⟩

theorem Holds.bounds {x : ℚ} (hx : i.Holds x) : i.low ≤ x * quarterUnits ∧ x * quarterUnits ≤ i.high := by
  unfold Holds at hx
  split_ifs at hx
  · exact hx
  · exact ⟨hx.1.le, hx.2.le⟩

theorem Holds.strict {x : ℚ} (hx : i.Holds x) (hopen : i.closed = false) :
    i.low < x * quarterUnits ∧ x * quarterUnits < i.high := by
  rwa [Holds, hopen, if_neg Bool.false_ne_true] at hx

theorem Holds.pos {x : ℚ} (hx : i.Holds x) (hlow : 0 < i.low) : 0 < x := by
  have hlow' : (0 : ℚ) < i.low := Nat.cast_pos.2 hlow
  exact (mul_pos_iff_of_pos_right (Nat.cast_pos.2 quarterUnits_pos)).1 (hlow'.trans_le hx.bounds.1)

theorem admits_iff {d : Decimal} : i.admits d ↔ i.Holds d.value := by
  have hscale : (0 : ℚ) < 10 ^ (-d.exponent).toNat := by positivity
  have hvalue : d.value * quarterUnits =
      (d.digits * 10 ^ d.exponent.toNat * quarterUnits : ℕ) / 10 ^ (-d.exponent).toNat := by
    push_cast
    rw [Decimal.value, Decimal.ten_zpow]
    ring
  unfold admits Holds
  rw [hvalue]
  simp only [Nat.pow_eq]
  split_ifs
  · rw [Bool.and_eq_true, decide_eq_true_iff, decide_eq_true_iff, le_div_iff₀ hscale, div_le_iff₀ hscale]
    norm_cast
  · rw [Bool.and_eq_true, decide_eq_true_iff, decide_eq_true_iff, lt_div_iff₀ hscale, div_lt_iff₀ hscale]
    norm_cast

/-! ### The neighbours on a grid -/

theorem ratio_eq (i : Interval) (exponent : ℤ) :
    ((i.value * Nat.pow 10 (-exponent).toNat : ℕ) : ℚ) / (quarterUnits * Nat.pow 10 exponent.toNat : ℕ) =
      i.center / 10 ^ exponent := by
  have hq : (quarterUnits : ℚ) ≠ 0 := Nat.cast_ne_zero.2 quarterUnits_pos.ne'
  rw [center, Decimal.ten_zpow]
  push_cast [Nat.pow_eq]
  field_simp

/-- Of the two neighbours of the center one is at most the center and the other above it. -/
theorem neighbours (i : Interval) (exponent : ℤ) :
    let n := i.value * Nat.pow 10 (-exponent).toNat / (quarterUnits * Nat.pow 10 exponent.toNat)
    Decimal.value ⟨n, exponent⟩ ≤ i.center ∧ i.center < Decimal.value ⟨n + 1, exponent⟩ := by
  intro n
  have hgrid : (0 : ℚ) < 10 ^ exponent := by positivity
  have hn : n = ⌊i.center / 10 ^ exponent⌋₊ := by rw [← ratio_eq, Nat.floor_div_eq_div]
  have hcenter : 0 ≤ i.center / 10 ^ exponent := by
    rw [← ratio_eq]
    exact div_nonneg (Nat.cast_nonneg _) (Nat.cast_nonneg _)
  unfold Decimal.value
  rw [hn, ← le_div_iff₀ hgrid, ← div_lt_iff₀ hgrid, Nat.cast_add_one]
  exact ⟨Nat.floor_le hcenter, Nat.lt_floor_add_one _⟩

/-- The remainder decides which neighbour is nearer. -/
theorem two_mul_mod_lt_iff (i : Interval) (exponent : ℤ) :
    let num := i.value * Nat.pow 10 (-exponent).toNat
    let den := quarterUnits * Nat.pow 10 exponent.toNat
    2 * (num % den) < den ↔
      i.center - Decimal.value ⟨num / den, exponent⟩ < Decimal.value ⟨num / den + 1, exponent⟩ - i.center := by
  intro num den
  have hgrid : (0 : ℚ) < 10 ^ exponent := by positivity
  have hden : (0 : ℚ) < den :=
    Nat.cast_pos.2 (Nat.mul_pos quarterUnits_pos (by rw [Nat.pow_eq]; positivity))
  have hcenter : i.center = (den * (num / den : ℕ) + (num % den : ℕ)) / den * 10 ^ exponent := by
    rw [← Nat.cast_mul, ← Nat.cast_add, Nat.div_add_mod, ratio_eq, div_mul_cancel₀ _ hgrid.ne']
  have hlower : i.center - Decimal.value ⟨num / den, exponent⟩ = (num % den : ℕ) * (10 ^ exponent / den) := by
    rw [hcenter, Decimal.value]
    field_simp
    ring
  have hupper :
      Decimal.value ⟨num / den + 1, exponent⟩ - i.center = (den - (num % den : ℕ)) * (10 ^ exponent / den) := by
    rw [hcenter, Decimal.value]
    push_cast
    field_simp
    ring
  rw [hlower, hupper, mul_lt_mul_iff_left₀ (div_pos hgrid hden), lt_sub_iff_add_lt, ← two_mul]
  clear_value num den
  norm_cast

variable {exponent : ℤ}

theorem holds_center (h : i.low < i.value) (h' : i.value < i.high) : i.Holds i.center := by
  have hcenter : i.center * quarterUnits = i.value :=
    div_mul_cancel₀ _ (Nat.cast_ne_zero.2 quarterUnits_pos.ne')
  refine holds_of_lt ?_ ?_ <;> rw [hcenter] <;> exact_mod_cast ‹_›

/-- Where the interval has a number of the grid, it has a neighbour of the center that is as near. -/
theorem holds_neighbour (hcenter : i.Holds i.center) {m : ℕ} (hm : i.Holds (Decimal.value ⟨m, exponent⟩)) :
    let n := i.value * Nat.pow 10 (-exponent).toNat / (quarterUnits * Nat.pow 10 exponent.toNat)
    ∃ k, (k = n ∨ k = n + 1) ∧ i.Holds (Decimal.value ⟨k, exponent⟩) ∧
      |Decimal.value ⟨k, exponent⟩ - i.center| ≤ |Decimal.value ⟨m, exponent⟩ - i.center| := by
  intro n
  obtain ⟨hle, hlt⟩ := neighbours i exponent
  rcases Nat.lt_or_ge n m with hside | hside
  · have hvalue : Decimal.value ⟨n + 1, exponent⟩ ≤ Decimal.value ⟨m, exponent⟩ :=
      Decimal.value_le_value hside
    refine ⟨n + 1, .inr rfl, hcenter.of_between hm hlt.le hvalue, ?_⟩
    rw [abs_of_nonneg (sub_nonneg.2 hlt.le), abs_of_nonneg (sub_nonneg.2 (hlt.le.trans hvalue))]
    exact sub_le_sub_right hvalue _
  · have hvalue : Decimal.value ⟨m, exponent⟩ ≤ Decimal.value ⟨n, exponent⟩ := Decimal.value_le_value hside
    refine ⟨n, .inl rfl, hm.of_between hcenter hvalue hle, ?_⟩
    rw [abs_of_nonpos (sub_nonpos.2 hle), abs_of_nonpos (sub_nonpos.2 (hvalue.trans hle)), neg_sub, neg_sub]
    exact sub_le_sub_left hvalue _

/-- The neighbour that is taken is the nearest number that the interval has on the grid. -/
theorem nearest?_eq_some (hcenter : i.Holds i.center) {d : Decimal} (h : i.nearest? exponent = some d) :
    d.exponent = exponent ∧ i.Holds d.value ∧
      ∀ m, i.Holds (Decimal.value ⟨m, exponent⟩) →
        |d.value - i.center| ≤ |Decimal.value ⟨m, exponent⟩ - i.center| := by
  obtain ⟨hle, hlt⟩ := neighbours i exponent
  have hneighbour := @holds_neighbour i exponent hcenter
  have hnearer := two_mul_mod_lt_iff i exponent
  unfold nearest? at h
  dsimp only at hneighbour hnearer h
  generalize i.value * Nat.pow 10 (-exponent).toNat / (quarterUnits * Nat.pow 10 exponent.toNat) = n at *
  split at h
  next hlower hupper =>
    rw [Option.some.injEq] at h
    have hdistance : |Decimal.value ⟨n, exponent⟩ - i.center| = i.center - Decimal.value ⟨n, exponent⟩ := by
      rw [abs_of_nonpos (sub_nonpos.2 hle), neg_sub]
    have hdistance' :
        |Decimal.value ⟨n + 1, exponent⟩ - i.center| = Decimal.value ⟨n + 1, exponent⟩ - i.center :=
      abs_of_nonneg (sub_nonneg.2 hlt.le)
    subst h
    split_ifs with hcloser <;> rw [hnearer] at hcloser
    · refine ⟨rfl, admits_iff.1 hlower, fun m hm => ?_⟩
      obtain ⟨k, rfl | rfl, -, hnear⟩ := hneighbour hm
      · exact hnear
      · exact le_trans (by rw [hdistance, hdistance']; exact hcloser.le) hnear
    · refine ⟨rfl, admits_iff.1 hupper, fun m hm => ?_⟩
      obtain ⟨k, rfl | rfl, -, hnear⟩ := hneighbour hm
      · exact le_trans (by rw [hdistance, hdistance']; exact not_lt.1 hcloser) hnear
      · exact hnear
  next hlower hupper =>
    cases h
    refine ⟨rfl, admits_iff.1 hlower, fun m hm => ?_⟩
    obtain ⟨k, rfl | rfl, hk, hnear⟩ := hneighbour hm
    · exact hnear
    · exact absurd (admits_iff.2 hk) (by simp [hupper])
  next hlower hupper =>
    cases h
    refine ⟨rfl, admits_iff.1 hupper, fun m hm => ?_⟩
    obtain ⟨k, rfl | rfl, hk, hnear⟩ := hneighbour hm
    · exact absurd (admits_iff.2 hk) (by simp [hlower])
    · exact hnear
  · cases h

theorem digits_le_of_nearest?_eq_some {d : Decimal} (h : i.nearest? exponent = some d) {k : ℕ}
    (hlt : i.center < 10 ^ (exponent + k)) : d.digits ≤ 10 ^ k := by
  have hle := (neighbours i exponent).1
  unfold nearest? at h
  dsimp only at hle h
  generalize i.value * Nat.pow 10 (-exponent).toNat / (quarterUnits * Nat.pow 10 exponent.toNat) = n at *
  have hn : n < 10 ^ k := by
    rw [zpow_add₀ (by norm_num), mul_comm, zpow_natCast] at hlt
    exact_mod_cast (mul_lt_mul_iff_left₀ (by positivity)).1 (hle.trans_lt hlt)
  have hd : d.digits = n ∨ d.digits = n + 1 := by
    split at h
    · rw [Option.some.injEq] at h
      subst h
      split_ifs <;> simp
    all_goals cases h
    · exact .inl rfl
    · exact .inr rfl
  omega

theorem nearest?_eq_none (hcenter : i.Holds i.center) (h : i.nearest? exponent = none) (m : ℕ) :
    ¬ i.Holds (Decimal.value ⟨m, exponent⟩) := by
  intro hm
  obtain ⟨k, hk, hholds, -⟩ := holds_neighbour hcenter hm
  rw [← admits_iff] at hholds
  unfold nearest? at h
  dsimp only at h
  split at h
  · cases h
  · cases h
  · cases h
  next hlower hupper => rcases hk with rfl | rfl <;> simp_all

end Interval

/-! ### The first digit -/

theorem digitCount_le_iff {n k : ℕ} : digitCount n ≤ k ↔ n < 10 ^ k := by
  unfold digitCount
  split_ifs with h
  · simp [h]
  rcases Nat.eq_zero_or_pos k with rfl | hk
  · have hlength : 0 < (Nat.toDigits 10 n).length := Nat.length_toDigits_pos
    simp only [pow_zero]
    omega
  · exact Nat.length_toDigits_le_iff (by decide) hk

theorem lt_digitCount_iff {n k : ℕ} : k < digitCount n ↔ 10 ^ k ≤ n := by
  rw [← not_le, digitCount_le_iff, not_lt]

theorem digitCount_pos {n : ℕ} (h : 0 < n) : 0 < digitCount n := lt_digitCount_iff.2 h

theorem leadingPlace_spec {v : ℕ} (hv : 0 < v) :
    (10 : ℚ) ^ (leadingPlace v - 1) ≤ v / quarterUnits ∧ (v : ℚ) / quarterUnits < 10 ^ leadingPlace v := by
  have hq := quarterUnits_pos
  unfold leadingPlace
  generalize quarterUnits = q at *
  rw [le_div_iff₀ (Nat.cast_pos.2 hq), div_lt_iff₀ (Nat.cast_pos.2 hq)]
  split_ifs with h
  · obtain ⟨k, hk⟩ := Nat.exists_eq_add_one.2 (digitCount_pos (Nat.div_pos h hq))
    have hle : 10 ^ k ≤ v / q := lt_digitCount_iff.1 (by omega)
    have hlt : v / q < 10 ^ (k + 1) := digitCount_le_iff.1 (by omega)
    rw [Nat.le_div_iff_mul_le hq] at hle
    rw [Nat.div_lt_iff_lt_mul hq] at hlt
    have hplace : ((k + 1 : ℕ) : ℤ) - 1 = k := by omega
    rw [hk, hplace, zpow_natCast, zpow_natCast]
    exact ⟨by exact_mod_cast hle, by exact_mod_cast hlt⟩
  · obtain ⟨k, hk⟩ := Nat.exists_eq_add_one.2 (digitCount_pos (Nat.div_pos (by omega : v ≤ q - 1) hv))
    have hle : 10 ^ k ≤ (q - 1) / v := lt_digitCount_iff.1 (by omega)
    have hlt : (q - 1) / v < 10 ^ (k + 1) := digitCount_le_iff.1 (by omega)
    rw [Nat.le_div_iff_mul_le hv, Nat.le_sub_one_iff_lt hq] at hle
    rw [Nat.div_lt_iff_lt_mul hv] at hlt
    replace hlt := Nat.le_of_pred_lt hlt
    have hplace : (1 : ℤ) - (k + 1 : ℕ) = -(k : ℕ) := by omega
    have hplace' : -(k : ℤ) - 1 = -(k + 1 : ℕ) := by omega
    rw [hk, hplace, hplace', zpow_neg, zpow_neg, zpow_natCast, zpow_natCast, inv_mul_le_iff₀ (by positivity),
      lt_inv_mul_iff₀ (by positivity)]
    exact ⟨by exact_mod_cast hlt, by exact_mod_cast hle⟩

end Double

end DocumentQuery
