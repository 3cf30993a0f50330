import DocumentQuery.Proofs.ExactNumbers
import DocumentQuery.Proofs.ShortestDecimal

/-! # The text of a double

The numbers that round to a double form an interval around it.  The intervals of two doubles lie one behind another,
and where their ends meet one of the two is open (`not_holds_of_smaller`), because of two neighbouring numbers one has
an odd fraction (`Smaller.gap`).  An interval is wider than a unit in the seventeenth digit of its number
(`value_lt_width`), so the search for a decimal ends, on the coarsest grid that has one.

The decimal that is found rounds to the number (`roundsTo_shortest`), no other decimal of the interval has fewer
digits, and of those with as many none is nearer (`shortest_spec`).  With its sign the text therefore determines every
number but NaN (`text_injective`). -/

namespace DocumentQuery.Double

/-! ### The interval of a double -/

/-- The fraction with the leading one, which the numbers of the least exponent lack. -/
def significand (d : Double) : ℕ := if d.exponent = 0 then d.fraction else 2 ^ 52 + d.fraction

/-- The distance to the next larger number, in units. -/
def spacing (d : Double) : ℕ := if d.exponent ≤ 1 then 1 else Nat.pow 2 (d.exponent - 1)

/-- Twice the distance that rounds up to the number, in quarter units: below a power of two the numbers lie closer. -/
def below (d : Double) : ℕ := if d.fraction = 0 ∧ 1 < d.exponent then d.spacing else 2 * d.spacing

theorem interval_eq (d : Double) :
    d.interval =
      ⟨4 * d.magnitude - d.below, 4 * d.magnitude, 4 * d.magnitude + 2 * d.spacing, d.fraction % 2 = 0⟩ :=
  rfl

theorem fraction_lt (d : Double) : d.fraction < 2 ^ 52 := Nat.mod_lt _ (by decide)

theorem spacing_pos (d : Double) : 0 < d.spacing := by
  unfold spacing
  split_ifs
  · decide
  · exact Nat.pow_pos (by decide)

theorem magnitude_eq (d : Double) : d.magnitude = d.significand * d.spacing := by
  unfold magnitude significand spacing
  split_ifs with h h' h'
  · rw [mul_one]
  · omega
  · have hexponent : d.exponent - 1 = 0 := by omega
    rw [hexponent]
    rfl
  · rfl

theorem below_le (d : Double) : d.below ≤ 2 * d.spacing := by
  unfold below
  split_ifs <;> omega

theorem interval_bounds {d : Double} (h : d.magnitude ≠ 0) :
    0 < d.interval.low ∧ d.interval.low < d.interval.value ∧ d.interval.value < d.interval.high := by
  have hspacing := d.spacing_pos
  have hbelow := d.below_le
  have hpos : 0 < d.below := by
    unfold below
    split_ifs <;> omega
  have hle : d.spacing ≤ d.magnitude := by
    rw [magnitude_eq] at h ⊢
    exact Nat.le_mul_of_pos_left _ (Nat.pos_of_mul_pos_right (Nat.pos_of_ne_zero h))
  rw [interval_eq]
  dsimp only
  omega

theorem two_mul_spacing_le {d d' : Double} (h : d.exponent < d'.exponent) (h' : 1 < d'.exponent) :
    2 * d.spacing ≤ d'.spacing := by
  unfold spacing
  rw [if_neg (not_le.2 h')]
  split_ifs with h₁
  · calc 2 * 1 = 2 ^ 1 := rfl
      _ ≤ 2 ^ (d'.exponent - 1) := Nat.pow_le_pow_right (by decide) (by omega)
  · calc 2 * 2 ^ (d.exponent - 1) = 2 ^ (d.exponent - 1 + 1) := (pow_succ' 2 _).symm
      _ ≤ 2 ^ (d'.exponent - 1) := Nat.pow_le_pow_right (by decide) (by omega)

theorem cast_quarterUnits : (quarterUnits : ℚ) = 4 * unit := by
  have hunits : (quarterUnits : ℤ) = 4 * unit := by decide +kernel
  rw [← Int.cast_natCast, hunits, Int.cast_mul, Int.cast_ofNat]

theorem absoluteValue_mul_quarterUnits (d : Double) : d.absoluteValue * quarterUnits = 4 * d.magnitude := by
  rw [cast_quarterUnits, mul_left_comm, absoluteValue_mul_unit]

theorem center_interval (d : Double) : d.interval.center = d.absoluteValue := by
  have hvalue : (d.interval.value : ℚ) = 4 * d.magnitude := Nat.cast_mul 4 d.magnitude
  rw [Interval.center, hvalue, ← absoluteValue_mul_quarterUnits,
    mul_div_cancel_right₀ _ (Nat.cast_ne_zero.2 quarterUnits_pos.ne')]

/-- Smaller in absolute value, by the fields of the patterns. -/
def Smaller (d d' : Double) : Prop := d.exponent < d'.exponent ∨ d.exponent = d'.exponent ∧ d.fraction < d'.fraction

/-- How a magnitude lies to a larger one.  Of two magnitudes that are only a spacing apart one has an odd fraction. -/
structure Gap (d d' : Double) : Prop where
  spacing_le : d.magnitude + d.spacing ≤ d'.magnitude
  below_le : 2 * d.magnitude + d'.below ≤ 2 * d'.magnitude
  odd : d.magnitude + d.spacing = d'.magnitude → d.fraction % 2 = 1 ∨ d'.fraction % 2 = 1

/-- Between powers of two the numbers lie at equal distances. -/
theorem gap_of_fraction_lt {d d' : Double} (hexponent : d.exponent = d'.exponent) (h : d.fraction < d'.fraction) :
    Gap d d' := by
  have hspacing : d'.spacing = d.spacing := by unfold spacing; rw [hexponent]
  have hbelow : d'.below = 2 * d.spacing := by rw [below, if_neg (by omega), hspacing]
  obtain ⟨k, hk⟩ : ∃ k, d'.significand = d.significand + 1 + k := Nat.exists_eq_add_of_le (by
    unfold significand
    rw [hexponent]
    split_ifs <;> omega)
  have hmagnitude := magnitude_eq d
  have hmagnitude' : d'.magnitude = d.significand * d.spacing + d.spacing + k * d.spacing := by
    rw [magnitude_eq, hk, hspacing]
    ring
  refine ⟨by omega, by omega, fun heq => ?_⟩
  have hzero : k = 0 := by
    have : k * d.spacing = 0 := by omega
    exact (Nat.mul_eq_zero.1 this).resolve_right d.spacing_pos.ne'
  subst hzero
  unfold significand at hk
  rw [hexponent] at hk
  split_ifs at hk <;> omega

/-- Past a power of two the distances are at least twice as large.  The last number before it has an odd fraction. -/
theorem gap_of_exponent_lt {d d' : Double} (h : d.exponent < d'.exponent) : Gap d d' := by
  have hf := d.fraction_lt
  have hmagnitude := magnitude_eq d
  have hmagnitude' : d'.magnitude = 2 ^ 52 * d'.spacing + d'.fraction * d'.spacing := by
    rw [magnitude_eq, significand, if_neg (by omega), Nat.add_mul]
  by_cases h' : 1 < d'.exponent
  · have hspacing := two_mul_spacing_le h h'
    have hbelow : d'.below ≤ d'.spacing + d'.fraction * d'.spacing := by
      unfold below
      split_ifs with hzero
      · omega
      · have hpos : 0 < d'.fraction := by omega
        have := Nat.le_mul_of_pos_left d'.spacing hpos
        omega
    have hnonneg := Nat.zero_le (d'.fraction * d'.spacing)
    have hlast : d.significand ≤ 9007199254740991 := by
      unfold significand
      split_ifs <;> omega
    have hproduct : d.significand * d.spacing ≤ 9007199254740991 * d.spacing := Nat.mul_le_mul_right _ hlast
    refine ⟨by linarith, by linarith, fun heq => .inl ?_⟩
    have hsignificand : d.significand = 9007199254740991 :=
      Nat.eq_of_mul_eq_mul_right d.spacing_pos (le_antisymm hproduct (by linarith))
    unfold significand at hsignificand
    split_ifs at hsignificand <;> omega
  · have hspacing : d.spacing = 1 ∧ d'.spacing = 1 := ⟨if_pos (by omega), if_pos (by omega)⟩
    have hbelow : d'.below = 2 := by rw [below, if_neg (by omega), hspacing.2]
    have hleast : d.significand = d.fraction := if_pos (by omega)
    rw [hspacing.1, hleast] at hmagnitude
    rw [hspacing.2] at hmagnitude'
    exact ⟨by omega, by omega, by omega⟩

theorem Smaller.gap {d d' : Double} (h : d.Smaller d') : Gap d d' :=
  h.elim gap_of_exponent_lt fun h => gap_of_fraction_lt h.1 h.2

/-- A unit in the seventeenth digit is less than the interval is wide. -/
theorem value_lt_width {d : Double} (h : d.magnitude ≠ 0) :
    (d.interval.value : ℚ) < 10 ^ 16 * (d.interval.high - d.interval.low) := by
  have hs := d.spacing_pos
  have hf := d.fraction_lt
  have hlow : d.interval.low + d.below = 4 * d.magnitude :=
    Nat.sub_add_cancel (Nat.le_of_lt (Nat.lt_of_sub_pos (interval_bounds h).1))
  have hhigh : d.interval.high = 4 * d.magnitude + 2 * d.spacing := rfl
  have hwidth : 4 * d.magnitude < 10 ^ 16 * (d.below + 2 * d.spacing) := by
    rw [magnitude_eq]
    by_cases hpower : d.fraction = 0 ∧ 1 < d.exponent
    · have hsignificand : d.significand = 2 ^ 52 := by rw [significand, if_neg (by omega), hpower.1, add_zero]
      rw [below, if_pos hpower, hsignificand]
      omega
    · have hlt : d.significand ≤ 2 ^ 53 := by
        unfold significand
        split_ifs <;> omega
      have hproduct := Nat.mul_le_mul_right d.spacing hlt
      rw [below, if_neg hpower]
      omega
  have hsub : (d.interval.high : ℚ) - d.interval.low = (d.below + 2 * d.spacing : ℕ) := by
    rw [hhigh, ← hlow]
    push_cast
    ring
  rw [hsub]
  exact_mod_cast hwidth

theorem exists_mul_between {a b g : ℚ} (ha : 0 ≤ a) (hg : 0 < g) (h : g < b - a) :
    ∃ m : ℕ, a < m * g ∧ m * g < b := by
  refine ⟨⌊a / g⌋₊ + 1, ?_, ?_⟩
  · rw [← div_lt_iff₀ hg]
    exact_mod_cast Nat.lt_floor_add_one (a / g)
  · have hfloor : (⌊a / g⌋₊ : ℚ) * g ≤ a := (le_div_iff₀ hg).1 (Nat.floor_le (div_nonneg ha hg.le))
    push_cast
    linarith

/-- Seventeen digits are enough. -/
theorem exists_holds_on_grid {d : Double} (h : d.magnitude ≠ 0) :
    ∃ m, d.interval.Holds (Decimal.value ⟨m, leadingPlace d.interval.value - 17⟩) := by
  obtain ⟨hlow, hvalue, -⟩ := interval_bounds h
  have hplace := (leadingPlace_spec (hlow.trans hvalue)).1
  rw [le_div_iff₀ (Nat.cast_pos.2 quarterUnits_pos)] at hplace
  have hwide := value_lt_width h
  generalize leadingPlace d.interval.value = place at *
  have hpow : (10 : ℚ) ^ (place - 1) = 10 ^ 16 * 10 ^ (place - 17) := by
    rw [← zpow_natCast, ← zpow_add₀ (by norm_num)]
    congr 1
    push_cast
    ring
  rw [hpow, mul_assoc] at hplace
  have hgrid : (0 : ℚ) < 10 ^ (place - 17) * quarterUnits :=
    mul_pos (zpow_pos (by norm_num) _) (Nat.cast_pos.2 quarterUnits_pos)
  obtain ⟨m, hm, hm'⟩ :=
    exists_mul_between (Nat.cast_nonneg d.interval.low) hgrid (b := d.interval.high) (by linarith)
  exact ⟨m, Interval.holds_of_lt (by rwa [Decimal.value, mul_assoc]) (by rwa [Decimal.value, mul_assoc])⟩

/-! ### The shortest decimal -/

/-- The search ends on the coarsest grid that has a number of the interval. -/
theorem exists_nearest?_of_shortest {d : Double} (h : d.magnitude ≠ 0) :
    ∃ k D, d.interval.nearest? (leadingPlace d.interval.value - (k + 1 : ℕ)) = some D ∧ d.shortest = D.reduced ∧
      ∀ j < k, d.interval.nearest? (leadingPlace d.interval.value - (j + 1 : ℕ)) = none := by
  have hcenter := Interval.holds_center (interval_bounds h).2.1 (interval_bounds h).2.2
  have hfound : (List.range 17).findSome?
      (fun k => d.interval.nearest? (leadingPlace d.interval.value - (k + 1 : ℕ))) ≠ none := by
    intro hnone
    obtain ⟨m, hm⟩ := exists_holds_on_grid h
    exact Interval.nearest?_eq_none hcenter (List.findSome?_eq_none_iff.1 hnone 16 (by decide)) m hm
  obtain ⟨D, hD⟩ := Option.ne_none_iff_exists'.1 hfound
  obtain ⟨before, k, after, hrange, hk, hbefore⟩ := List.findSome?_eq_some_iff.1 hD
  have hrange' : before = List.range k := by
    rw [List.range_eq_range', List.range'_eq_append_iff] at hrange
    obtain ⟨j, -, rfl, hrest⟩ := hrange
    obtain ⟨rfl, -⟩ := List.range'_eq_cons_iff.1 hrest.symm
    rw [zero_add, mul_one, List.range_eq_range']
  refine ⟨k, D, hk, ?_, fun j hj => hbefore j (by simpa [hrange'])⟩
  rw [shortest, if_neg h]
  dsimp only
  rw [hD, Option.getD_some]

variable {d : Double}

theorem center_bounds (h : d.magnitude ≠ 0) :
    (10 : ℚ) ^ (leadingPlace d.interval.value - 1) ≤ d.interval.center ∧
      d.interval.center < 10 ^ leadingPlace d.interval.value :=
  leadingPlace_spec ((interval_bounds h).1.trans (interval_bounds h).2.1)

/-- A decimal of the interval has a number at least as near on the grid of its last digit, or of the first digit. -/
theorem exists_holds_on_coarser_grid (h : d.magnitude ≠ 0) {D : Decimal} (hD : d.interval.Holds D.value) :
    ∃ j m, j < digitCount D.digits ∧
      d.interval.Holds (Decimal.value ⟨m, leadingPlace d.interval.value - (j + 1 : ℕ)⟩) ∧
      |Decimal.value ⟨m, leadingPlace d.interval.value - (j + 1 : ℕ)⟩ - d.interval.center| ≤
        |D.value - d.interval.center| := by
  obtain ⟨hlow, hvalue, hhigh⟩ := interval_bounds h
  have hcenter := Interval.holds_center hvalue hhigh
  obtain ⟨hfirst, hnext⟩ := center_bounds h
  generalize leadingPlace d.interval.value = place at *
  have hpos : 0 < digitCount D.digits := by
    refine digitCount_pos (Nat.pos_of_ne_zero fun hzero => ?_)
    have := hD.pos hlow
    rw [Decimal.value, hzero, Nat.cast_zero, zero_mul] at this
    exact lt_irrefl _ this
  rcases lt_or_ge D.value (10 ^ (place - 1)) with hless | hless
  · have hone : Decimal.value ⟨1, place - (0 + 1 : ℕ)⟩ = 10 ^ (place - 1) := by simp [Decimal.value]
    refine ⟨0, 1, hpos, ?_, ?_⟩ <;> rw [hone]
    · exact hD.of_between hcenter hless.le hfirst
    · exact abs_le_abs_of_nonpos (sub_nonpos.2 hfirst) (sub_le_sub_right hless.le _)
  rcases lt_or_ge D.value (10 ^ place) with hmore | hmore
  · have hplace : place - digitCount D.digits ≤ D.exponent := by
      have hlt : D.value < 10 ^ ((digitCount D.digits : ℤ) + D.exponent) := by
        rw [zpow_add₀ (by norm_num), zpow_natCast]
        exact mul_lt_mul_of_pos_right (by exact_mod_cast digitCount_le_iff.1 le_rfl) (by positivity)
      have := (zpow_lt_zpow_iff_right₀ (by norm_num)).1 (hless.trans_lt hlt)
      omega
    have hsame : Decimal.value ⟨D.digits * 10 ^ (D.exponent - (place - digitCount D.digits)).toNat,
        place - (digitCount D.digits - 1 + 1 : ℕ)⟩ = D.value := by
      rw [Nat.sub_add_cancel hpos, Decimal.value, Decimal.value, Nat.cast_mul, Nat.cast_pow, Nat.cast_ofNat, mul_assoc,
        ← zpow_natCast, Int.toNat_of_nonneg (by omega), ← zpow_add₀ (by norm_num), sub_add_cancel]
    exact ⟨digitCount D.digits - 1, _, by omega, by rwa [hsame], by rw [hsame]⟩
  · have hten : Decimal.value ⟨10, place - (0 + 1 : ℕ)⟩ = 10 ^ place := by
      rw [Decimal.value, Nat.cast_ofNat, ← zpow_one_add₀ (by norm_num)]
      congr 1
      push_cast
      ring
    refine ⟨0, 10, hpos, ?_, ?_⟩ <;> rw [hten]
    · exact hcenter.of_between hD hnext.le hmore
    · exact abs_le_abs_of_nonneg (sub_nonneg.2 hnext.le) (sub_le_sub_right hmore _)

theorem digitCount_reduced_le {D : Decimal} {k : ℕ} (h : D.digits ≤ 10 ^ (k + 1)) :
    digitCount D.reduced.digits ≤ k + 1 := by
  rw [digitCount_le_iff]
  have hpow : 10 ^ (k + 1) = 10 * 10 ^ k := pow_succ' 10 k
  have hpos : 0 < 10 ^ k := Nat.pow_pos (by decide)
  unfold Decimal.reduced
  split_ifs with hzero
  · dsimp only
    omega
  · omega

/-- The decimal that is taken lies in the interval, no other one there has fewer digits, and of those with as many
none is nearer. -/
theorem shortest_spec (h : d.magnitude ≠ 0) :
    d.interval.Holds d.shortest.value ∧
      ∀ D : Decimal, d.interval.Holds D.value →
        digitCount d.shortest.digits ≤ digitCount D.digits ∧
          (digitCount D.digits = digitCount d.shortest.digits →
            |d.shortest.value - d.absoluteValue| ≤ |D.value - d.absoluteValue|) := by
  obtain ⟨-, hvalue, hhigh⟩ := interval_bounds h
  have hcenter := Interval.holds_center hvalue hhigh
  obtain ⟨k, S, hS, hshortest, hnone⟩ := exists_nearest?_of_shortest h
  obtain ⟨-, hholds, hnearest⟩ := Interval.nearest?_eq_some hcenter hS
  have hdigits : digitCount d.shortest.digits ≤ k + 1 := by
    rw [hshortest]
    refine digitCount_reduced_le (Interval.digits_le_of_nearest?_eq_some hS ?_)
    rw [sub_add_cancel]
    exact (center_bounds h).2
  rw [hshortest, Decimal.value_reduced] at *
  rw [← center_interval]
  refine ⟨hholds, fun D hD => ?_⟩
  obtain ⟨j, m, hj, hm, hnear⟩ := exists_holds_on_coarser_grid h hD
  have hk : k ≤ j := by
    by_contra hlt
    exact Interval.nearest?_eq_none hcenter (hnone j (by omega)) m hm
  refine ⟨by omega, fun heq => ?_⟩
  obtain rfl : j = k := by omega
  exact (hnearest m hm).trans hnear

/-! ### Reading back -/

/-- No number is nearer, and one that is as near leaves it the even fraction. -/
def RoundsTo (x : ℚ) (d : Double) : Prop :=
  ∀ d' : Double, d'.absoluteValue ≠ d.absoluteValue →
    |x - d.absoluteValue| < |x - d'.absoluteValue| ∨
      |x - d.absoluteValue| = |x - d'.absoluteValue| ∧ d.fraction % 2 = 0

/-- No number lies in the intervals of two doubles. -/
theorem not_holds_of_smaller {d d' : Double} (h : d.Smaller d') {x : ℚ} (hx : d.interval.Holds x) :
    ¬ d'.interval.Holds x := by
  intro hx'
  obtain ⟨habove, hbelow, htouch⟩ := h.gap
  have hhigh := hx.bounds.2
  have hlow := hx'.bounds.1
  have hends : d.interval.high ≤ d'.interval.low := by
    rw [interval_eq, interval_eq]
    dsimp only
    omega
  have heq : d.interval.high = d'.interval.low :=
    le_antisymm hends (by exact_mod_cast hlow.trans hhigh)
  have htouch' : d.magnitude + d.spacing = d'.magnitude := by
    rw [interval_eq, interval_eq] at heq
    dsimp only at heq
    omega
  rcases htouch htouch' with hodd | hodd
  · have := (hx.strict (by rw [interval_eq]; simp [hodd])).2
    rw [heq] at this
    exact absurd hlow (not_le.2 this)
  · have := (hx'.strict (by rw [interval_eq]; simp [hodd])).1
    rw [← heq] at this
    exact absurd hhigh (not_le.2 this)

theorem smaller_or_eq_or_smaller (d d' : Double) :
    d.Smaller d' ∨ (d.exponent = d'.exponent ∧ d.fraction = d'.fraction) ∨ d'.Smaller d := by
  unfold Smaller
  omega

theorem absoluteValue_congr {d d' : Double} (h : d.exponent = d'.exponent ∧ d.fraction = d'.fraction) :
    d'.absoluteValue = d.absoluteValue := by
  unfold absoluteValue
  rw [h.1, h.2]

/-- The ends of an interval lie on the number's side of the middle between it and another number. -/
theorem two_mul_high_le {d d' : Double} (h : d.Smaller d') :
    2 * d.interval.high ≤ (d.absoluteValue + d'.absoluteValue) * quarterUnits := by
  have hends : 2 * d.interval.high ≤ 4 * d.magnitude + 4 * d'.magnitude := by
    have := h.gap.spacing_le
    rw [interval_eq]
    dsimp only
    omega
  rw [add_mul, absoluteValue_mul_quarterUnits, absoluteValue_mul_quarterUnits]
  exact_mod_cast hends

theorem le_two_mul_low {d d' : Double} (h : d'.Smaller d) :
    (d.absoluteValue + d'.absoluteValue) * quarterUnits ≤ 2 * d.interval.low := by
  have hends : 4 * d.magnitude + 4 * d'.magnitude ≤ 2 * d.interval.low := by
    have := h.gap.below_le
    rw [interval_eq]
    dsimp only
    omega
  rw [add_mul, absoluteValue_mul_quarterUnits, absoluteValue_mul_quarterUnits]
  exact_mod_cast hends

theorem absoluteValue_lt {d d' : Double} (h : d.Smaller d') : d.absoluteValue < d'.absoluteValue := by
  have hlt : d.magnitude < d'.magnitude := by
    have := h.gap.spacing_le
    have := d.spacing_pos
    omega
  refine lt_of_mul_lt_mul_right ?_ (Nat.cast_nonneg quarterUnits)
  rw [absoluteValue_mul_quarterUnits, absoluteValue_mul_quarterUnits]
  exact_mod_cast Nat.mul_lt_mul_of_pos_left hlt (by decide)

theorem sq_sub_sq_eq (x y z : ℚ) : (x - z) ^ 2 - (x - y) ^ 2 = (z - y) * (y + z - 2 * x) := by ring

theorem roundsTo_of_holds {x : ℚ} (hx : d.interval.Holds x) : RoundsTo x d := by
  have hq : (0 : ℚ) < quarterUnits := Nat.cast_pos.2 quarterUnits_pos
  intro d' hd'
  have hsquares := sq_sub_sq_eq x d.absoluteValue d'.absoluteValue
  rcases Nat.mod_two_eq_zero_or_one d.fraction with heven | hodd
  · obtain ⟨hlow, hhigh⟩ := hx.bounds
    refine (lt_or_eq_of_le (sq_le_sq.1 (sub_nonneg.1 (hsquares ▸ ?_)))).imp_right fun heq => ⟨heq, heven⟩
    rcases smaller_or_eq_or_smaller d d' with h | h | h
    · have hside : 2 * x ≤ d.absoluteValue + d'.absoluteValue :=
        le_of_mul_le_mul_right (by linarith [two_mul_high_le h]) hq
      exact mul_nonneg (sub_nonneg.2 (absoluteValue_lt h).le) (sub_nonneg.2 hside)
    · exact absurd (absoluteValue_congr h) hd'
    · have hside : d.absoluteValue + d'.absoluteValue ≤ 2 * x :=
        le_of_mul_le_mul_right (by linarith [le_two_mul_low h]) hq
      exact mul_nonneg_of_nonpos_of_nonpos (sub_nonpos.2 (absoluteValue_lt h).le) (sub_nonpos.2 hside)
  · obtain ⟨hlow, hhigh⟩ := hx.strict (by rw [interval_eq]; simp [hodd])
    refine .inl (sq_lt_sq.1 (sub_pos.1 (hsquares ▸ ?_)))
    rcases smaller_or_eq_or_smaller d d' with h | h | h
    · have hside : 2 * x < d.absoluteValue + d'.absoluteValue :=
        lt_of_mul_lt_mul_right (by linarith [two_mul_high_le h]) hq.le
      exact mul_pos (sub_pos.2 (absoluteValue_lt h)) (sub_pos.2 hside)
    · exact absurd (absoluteValue_congr h) hd'
    · have hside : d.absoluteValue + d'.absoluteValue < 2 * x :=
        lt_of_mul_lt_mul_right (by linarith [le_two_mul_low h]) hq.le
      exact mul_pos_of_neg_of_neg (sub_neg.2 (absoluteValue_lt h)) (sub_neg.2 hside)

theorem value_shortest_eq_zero_iff : d.shortest.value = 0 ↔ d.magnitude = 0 := by
  refine ⟨fun hzero => ?_, fun hzero => ?_⟩
  · by_contra h
    exact ((shortest_spec h).1.pos (interval_bounds h).1).ne' hzero
  · rw [shortest, if_pos hzero, Decimal.value, Nat.cast_zero, zero_mul]

/-- The decimal of a number is rounded back to it. -/
theorem roundsTo_shortest (d : Double) : RoundsTo d.shortest.value d := by
  by_cases h : d.magnitude = 0
  · have hvalue : d.absoluteValue = 0 := by
      have hmul := d.absoluteValue_mul_quarterUnits
      rw [h, Nat.cast_zero, mul_zero] at hmul
      exact (mul_eq_zero.1 hmul).resolve_right (Nat.cast_ne_zero.2 quarterUnits_pos.ne')
    intro d' hd'
    rw [hvalue] at hd' ⊢
    rw [value_shortest_eq_zero_iff.2 h, sub_zero, abs_zero, zero_sub, abs_neg]
    exact .inl (abs_pos.2 hd')
  · exact roundsTo_of_holds (shortest_spec h).1

/-! ### Text -/

theorem eq_of_fields {d d' : Double} (hsign : d.isNegative = d'.isNegative) (hexponent : d.exponent = d'.exponent)
    (hfraction : d.fraction = d'.fraction) : d = d' := by
  have hbound := d.bits.toNat_lt
  have hbound' := d'.bits.toNat_lt
  refine congrArg mk (UInt64.toNat_inj.1 ?_)
  unfold isNegative at hsign
  unfold exponent at hexponent
  unfold fraction at hfraction
  rw [decide_eq_decide] at hsign
  omega

/-- The text without the sign. -/
def body (d : Double) : List Char := if d.isFinite then d.shortest.text.toList else ['i', 'n', 'f']

theorem toList_text (h : d.isNaN = false) : d.text.toList = (if d.isNegative then ['-'] else []) ++ d.body := by
  unfold text body
  rw [h, if_neg (by decide), String.toList_append]
  split_ifs <;> rfl

theorem minus_not_mem_body (d : Double) : '-' ∉ d.body := by
  unfold body
  split_ifs
  · intro h
    exact absurd (Decimal.mem_text h) (by decide)
  · decide

theorem magnitude_eq_zero_iff : d.magnitude = 0 ↔ d.exponent = 0 ∧ d.fraction = 0 := by
  rw [magnitude_eq, Nat.mul_eq_zero, or_iff_left d.spacing_pos.ne']
  unfold significand
  split_ifs <;> omega

theorem fields_of_infinite (hnan : d.isNaN = false) (hinf : d.isFinite = false) :
    d.exponent = 2047 ∧ d.fraction = 0 := by
  have hbound : d.exponent < 2048 := Nat.mod_lt _ (by decide)
  have hexponent : d.exponent = 2047 := by
    have := of_decide_eq_false hinf
    omega
  refine ⟨hexponent, ?_⟩
  simpa [isNaN, hexponent] using hnan

theorem shortest_injective {d d' : Double} (h : d.shortest.value = d'.shortest.value) :
    d.exponent = d'.exponent ∧ d.fraction = d'.fraction := by
  by_cases hzero : d.magnitude = 0
  · have hzero' : d'.magnitude = 0 := by rwa [← value_shortest_eq_zero_iff, ← h, value_shortest_eq_zero_iff]
    rw [magnitude_eq_zero_iff] at hzero hzero'
    omega
  · have hzero' : d'.magnitude ≠ 0 := by
      rwa [ne_eq, ← value_shortest_eq_zero_iff, ← h, value_shortest_eq_zero_iff]
    have hholds := (shortest_spec hzero).1
    have hholds' := (shortest_spec hzero').1
    rw [← h] at hholds'
    rcases smaller_or_eq_or_smaller d d' with hless | heq | hless
    · exact absurd hholds' (not_holds_of_smaller hless hholds)
    · exact heq
    · exact absurd hholds (not_holds_of_smaller hless hholds')

theorem body_injective {d d' : Double} (hd : d.isNaN = false) (hd' : d'.isNaN = false) (h : d.body = d'.body) :
    d.exponent = d'.exponent ∧ d.fraction = d'.fraction := by
  have hletter (D : Decimal) : 'i' ∉ D.text.toList := fun hmem => absurd (Decimal.mem_text hmem) (by decide)
  unfold body at h
  split_ifs at h with hfinite hfinite' hfinite'
  · refine shortest_injective ?_
    rw [← Decimal.textValue_text, h, Decimal.textValue_text]
  · exact absurd (h ▸ List.mem_cons_self) (hletter d.shortest)
  · exact absurd (h ▸ List.mem_cons_self) (hletter d'.shortest)
  · obtain ⟨hexponent, hfraction⟩ := fields_of_infinite hd (by simpa using hfinite)
    obtain ⟨hexponent', hfraction'⟩ := fields_of_infinite hd' (by simpa using hfinite')
    omega

/-- The text tells the numbers apart. -/
theorem text_injective {d d' : Double} (hd : d.isNaN = false) (hd' : d'.isNaN = false) (h : d.text = d'.text) :
    d = d' := by
  have hlist := congrArg String.toList h
  rw [toList_text hd, toList_text hd'] at hlist
  have hminus := d.minus_not_mem_body
  have hminus' := d'.minus_not_mem_body
  obtain ⟨hsign, hbody⟩ : d.isNegative = d'.isNegative ∧ d.body = d'.body := by
    cases hs : d.isNegative <;> cases hs' : d'.isNegative <;> simp [hs, hs'] at hlist
    · exact ⟨rfl, hlist⟩
    · exact absurd (hlist ▸ List.mem_cons_self) hminus
    · exact absurd (hlist ▸ List.mem_cons_self) hminus'
    · exact ⟨rfl, hlist⟩
  obtain ⟨hexponent, hfraction⟩ := body_injective hd hd' hbody
  exact eq_of_fields hsign hexponent hfraction

example : text ⟨0x3fb999999999999a⟩ = "0.1" := by decide +kernel
example : text ⟨0xc4b0f0cf064dd592⟩ = "-80000000000000000000000" := by decide +kernel

end DocumentQuery.Double
