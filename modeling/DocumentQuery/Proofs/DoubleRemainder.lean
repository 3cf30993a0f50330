import DocumentQuery.Proofs.NumberOrder

/-! # Remainders of doubles

The magnitudes of two doubles are multiples of the spacings that their exponents stand for, so the remainder of one by
the other is a multiple of the smaller spacing, and less than `2 ^ 53` times as large (`Double.exists_pow_dvd_mod`).
Cutting it to 53 bits therefore loses nothing (`Double.fields_ofMagnitude`), and the remainder is exact
(`Double.scaled_remainder`). -/

namespace DocumentQuery.Double

theorem pow_dvd_magnitude (d : Double) : Nat.pow 2 (d.exponent - 1) ∣ d.magnitude := by
  unfold magnitude
  split_ifs with h
  · rw [h]
    exact Nat.one_dvd _
  · exact Nat.dvd_mul_left _ _

/-- The fields of a pattern that is put together. -/
theorem fields_of_bits {d : Double} {sign e f : ℕ} (hsign : sign ≤ 1) (he : e < 0x800) (hf : f < 0x10000000000000)
    (h : d.bits.toNat = sign * 0x8000000000000000 + e * 0x10000000000000 + f) :
    (d.isNegative ↔ sign = 1) ∧ d.exponent = e ∧ d.fraction = f := by
  unfold isNegative exponent fraction
  rw [h, decide_eq_true_iff]
  omega

/-- Cut off at the shift, a number has 53 bits, or fewer where nothing is cut off. -/
theorem shift_bounds {m k : ℕ} (hm : m < 0x20000000000000 * Nat.pow 2 k) :
    m.log2 - 52 ≤ k ∧ m / Nat.pow 2 (m.log2 - 52) < 0x20000000000000 ∧
      (m.log2 - 52 = 0 ∨ 0x10000000000000 ≤ m / Nat.pow 2 (m.log2 - 52)) := by
  have htop : 0x20000000000000 * Nat.pow 2 k = 2 ^ (53 + k) := (pow_add 2 53 k).symm
  have hshift : 0 < Nat.pow 2 (m.log2 - 52) := Nat.two_pow_pos _
  have hupper : m < 2 ^ (m.log2 + 1) := Nat.lt_log2_self
  have hcut : 0x20000000000000 * Nat.pow 2 (m.log2 - 52) = 2 ^ (53 + (m.log2 - 52)) := (pow_add 2 53 _).symm
  refine ⟨?_, ?_, ?_⟩
  · rcases Nat.eq_zero_or_pos m with rfl | hpos
    · exact Nat.zero_le k
    · have hlt : m.log2 < 53 + k := (Nat.log2_lt hpos.ne').2 (htop ▸ hm)
      omega
  · rw [Nat.div_lt_iff_lt_mul hshift, hcut]
    exact hupper.trans_le (Nat.pow_le_pow_right (by decide) (by omega))
  · by_cases hzero : m.log2 - 52 = 0
    · exact .inl hzero
    · have hlower : 2 ^ m.log2 ≤ m := Nat.log2_self_le (by rintro rfl; exact hzero rfl)
      have hcut' : 0x10000000000000 * Nat.pow 2 (m.log2 - 52) = 2 ^ m.log2 := by
        rw [show m.log2 = 52 + (m.log2 - 52) by omega, pow_add, Nat.add_sub_cancel_left]
        rfl
      exact .inr ((Nat.le_div_iff_mul_le hshift).2 (hcut' ▸ hlower))

/-- A multiple of a power of two that is less than `2 ^ 53` times as large is a magnitude. -/
theorem fields_ofMagnitude (negative : Bool) {m k : ℕ} (hk : k ≤ 2045) (hm : m < 0x20000000000000 * Nat.pow 2 k)
    (hdvd : Nat.pow 2 k ∣ m) :
    (ofMagnitude negative m).isNegative = negative ∧ (ofMagnitude negative m).isFinite ∧
      (ofMagnitude negative m).magnitude = m := by
  obtain ⟨hshift, hlt, hnormal⟩ := shift_bounds hm
  have hexact : m / Nat.pow 2 (m.log2 - 52) * Nat.pow 2 (m.log2 - 52) = m :=
    Nat.div_mul_cancel ((Nat.pow_dvd_pow 2 hshift).trans hdvd)
  have hbits : (ofMagnitude negative m).bits.toNat = (if negative then 1 else 0) * 0x8000000000000000 +
      (m.log2 - 52 + m / Nat.pow 2 (m.log2 - 52) / 0x10000000000000) * 0x10000000000000 +
      m / Nat.pow 2 (m.log2 - 52) % 0x10000000000000 := by
    unfold ofMagnitude
    dsimp only
    generalize m.log2 - 52 = shift at *
    generalize m / Nat.pow 2 shift = q at *
    rw [UInt64.toNat_ofNat_of_lt']
    · split_ifs <;> omega
    · have hsize : UInt64.size = 0x10000000000000000 := rfl
      rw [hsize]
      split_ifs <;> omega
  obtain ⟨hsign, hexponent, hfraction⟩ :=
    fields_of_bits (by split_ifs <;> decide) (by omega) (Nat.mod_lt _ (by decide)) hbits
  refine ⟨?_, ?_, ?_⟩
  · rw [Bool.eq_iff_iff, hsign]
    cases negative <;> decide
  · rw [isFinite, decide_eq_true_iff, hexponent]
    omega
  · rw [magnitude, hexponent, hfraction]
    generalize m / Nat.pow 2 (m.log2 - 52) = q at *
    rcases hnormal with hzero | hnormal
    · rw [hzero] at hexact ⊢
      have hpow : Nat.pow 2 0 = 1 := rfl
      rw [hpow, Nat.mul_one] at hexact
      subst hexact
      split_ifs with hsmall
      · omega
      · have hone : 0 + q / 0x10000000000000 - 1 = 0 := by omega
        rw [hone, hpow]
        omega
    · have hone : q / 0x10000000000000 = 1 := by omega
      have hfraction : 0x10000000000000 + q % 0x10000000000000 = q := by omega
      rw [hone, if_neg (Nat.succ_ne_zero _), Nat.add_sub_cancel, hfraction, hexact]

/-- The remainder of one magnitude by another is a magnitude of the smaller of the two exponents. -/
theorem exists_pow_dvd_mod {a b : Double} (ha : a.isFinite) (hb : b.isFinite) (hzero : b.magnitude ≠ 0) :
    ∃ k ≤ 2045, a.magnitude % b.magnitude < 0x20000000000000 * Nat.pow 2 k ∧
      Nat.pow 2 k ∣ a.magnitude % b.magnitude := by
  have ha' : a.exponent < 2047 := of_decide_eq_true ha
  have hb' : b.exponent < 2047 := of_decide_eq_true hb
  rcases Nat.le_total (a.exponent - 1) (b.exponent - 1) with h | h
  · refine ⟨a.exponent - 1, by omega, (Nat.mod_le _ _).trans_lt (magnitude_lt (by omega)), ?_⟩
    exact (Nat.dvd_mod_iff ((Nat.pow_dvd_pow 2 h).trans b.pow_dvd_magnitude)).2 a.pow_dvd_magnitude
  · refine ⟨b.exponent - 1, by omega, (Nat.mod_lt _ (Nat.pos_of_ne_zero hzero)).trans (magnitude_lt (by omega)), ?_⟩
    exact (Nat.dvd_mod_iff b.pow_dvd_magnitude).2 ((Nat.pow_dvd_pow 2 h).trans a.pow_dvd_magnitude)

/-- **The remainder of two finite numbers is exact**, and has the sign of the dividend. -/
theorem scaled_remainder {a b : Double} (ha : a.isFinite) (hb : b.isFinite) (hzero : b.magnitude ≠ 0) :
    (a.remainder b).isFinite ∧ (a.remainder b).isNegative = a.isNegative ∧
      (a.remainder b).scaled = a.scaled.tmod b.scaled := by
  obtain ⟨k, hk, hlt, hdvd⟩ := exists_pow_dvd_mod ha hb hzero
  obtain ⟨hsign, hfinite, hmagnitude⟩ := fields_ofMagnitude a.isNegative hk hlt hdvd
  have hremainder : a.remainder b = ofMagnitude a.isNegative (a.magnitude % b.magnitude) := by
    have hnan {d : Double} (hd : d.isFinite) : d.isNaN = false := by
      have hexponent : d.exponent ≠ 2047 := Nat.ne_of_lt (of_decide_eq_true hd)
      simp [isNaN, hexponent]
    simp [remainder, hnan ha, hnan hb, ha, hb, isZero, hzero]
  rw [hremainder]
  refine ⟨hfinite, hsign, ?_⟩
  unfold scaled
  rw [hsign, hmagnitude, Int.natCast_mod, ← Int.tmod_eq_emod_of_nonneg (Int.natCast_nonneg _)]
  split_ifs <;> simp [Int.neg_tmod, Int.tmod_neg]

example : remainder ⟨0xc016000000000000⟩ ⟨0x4000000000000000⟩ = ⟨0xbff8000000000000⟩ := by decide +kernel

end DocumentQuery.Double
