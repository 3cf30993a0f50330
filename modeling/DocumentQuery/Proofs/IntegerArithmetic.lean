import DocumentQuery.Proofs.StrictFunctions
import Mathlib.Data.Rat.Floor
import Mathlib.Tactic.Linarith

/-! # Arithmetic of integers

On two integers, every operation of arithmetic that has a form on integers computes the exact number and looks
whether a word holds it (`Arithmetic.IsExact`): it answers this number or an overflow, and never a double.  Division
has two more rules.  A divisor of zero is refused, and a quotient is rounded toward zero, as
`Integer.towardZero` says of fractions.

The one quotient without a word is that of the least integer by `-1` (`Integer.fits_tdiv_iff`).  A remainder lies
between zero and the dividend (`Integer.tmod_between`) and is smaller than the divisor, so that it always has a word,
and so has the quotient times the divisor (`Integer.fits_tdiv_mul`). -/

namespace DocumentQuery

namespace Integer

/-! ### Quotients and remainders -/

/-- The integer that is left of a number without its fraction. -/
def towardZero (x : ℚ) : ℤ := if 0 ≤ x then ⌊x⌋ else ⌈x⌉

theorem towardZero_neg (x : ℚ) : towardZero (-x) = -towardZero x := by
  rcases lt_trichotomy x 0 with h | rfl | h
  · rw [towardZero, towardZero, if_pos (by linarith), if_neg (by linarith), Int.floor_neg]
  · rfl
  · rw [towardZero, towardZero, if_neg (by linarith), if_pos h.le, Int.ceil_neg]

theorem towardZero_natCast_div (m n : ℕ) : towardZero ((m : ℚ) / n) = (m / n : ℕ) := by
  rw [towardZero, if_pos (by positivity)]
  exact Rat.floor_natCast_div_natCast m n

/-- Rounding the fraction of two integers toward zero is their truncating quotient. -/
theorem towardZero_div (a b : ℤ) : towardZero ((a : ℚ) / b) = a.tdiv b := by
  obtain ⟨m, rfl | rfl⟩ := a.eq_nat_or_neg
  all_goals obtain ⟨n, rfl | rfl⟩ := b.eq_nat_or_neg
  · exact towardZero_natCast_div m n
  · rw [Int.cast_neg, div_neg, towardZero_neg, Int.tdiv_neg]
    exact congrArg _ (towardZero_natCast_div m n)
  · rw [Int.cast_neg, neg_div, towardZero_neg, Int.neg_tdiv]
    exact congrArg _ (towardZero_natCast_div m n)
  · rw [Int.cast_neg, Int.cast_neg, neg_div_neg_eq, Int.tdiv_neg, Int.neg_tdiv, neg_neg]
    exact towardZero_natCast_div m n

/-- A remainder lies between zero and the dividend. -/
theorem tmod_between (a b : ℤ) : 0 ≤ a.tmod b ∧ a.tmod b ≤ a ∨ a ≤ a.tmod b ∧ a.tmod b ≤ 0 := by
  have hle : (a.tmod b).natAbs ≤ a.natAbs := by
    rw [Int.natAbs_tmod]
    exact Nat.mod_le _ _
  rcases Int.le_total 0 a with h | h
  · have hsign := Int.tmod_nonneg b h
    omega
  · have hsign := Int.tmod_nonneg b (Int.neg_nonneg_of_nonpos h)
    rw [Int.neg_tmod] at hsign
    omega

theorem sign_tmod (a b : ℤ) : a.tmod b = 0 ∨ (a.tmod b).sign = a.sign := by
  rcases tmod_between a b with ⟨hzero, ha⟩ | ⟨ha, hzero⟩
  · refine hzero.eq_or_lt.imp Eq.symm fun hpos => ?_
    rw [Int.sign_eq_one_of_pos hpos, Int.sign_eq_one_of_pos (by omega)]
  · refine hzero.eq_or_lt.imp id fun hneg => ?_
    rw [Int.sign_eq_neg_one_of_neg hneg, Int.sign_eq_neg_one_of_neg (by omega)]

/-- A quotient times its divisor lies between zero and the dividend, as the remainder does. -/
theorem fits_tdiv_mul {a : ℤ} (b : ℤ) (ha : Fits a) : Fits (a.tdiv b * b) := by
  have hbetween := tmod_between a b
  have hdivision := Int.tdiv_mul_add_tmod a b
  unfold Fits at ha ⊢
  omega

theorem toInt_ne_zero {b : Int64} (hb : b ≠ 0) : b.toInt ≠ 0 := fun h => hb (Int64.toInt_inj.mp h)

/-- The least integer has no word for its opposite, and every other quotient has one. -/
theorem fits_tdiv_iff {a b : Int64} (hb : b ≠ 0) :
    Fits (a.toInt.tdiv b.toInt) ↔ ¬ (a = Int64.minValue ∧ b = -1) := by
  have ha : a = Int64.minValue ↔ a.toInt = -0x8000000000000000 := Int64.toInt_inj.symm
  have hone : b = -1 ↔ b.toInt = -1 := Int64.toInt_inj.symm
  have hzero := toInt_ne_zero hb
  obtain ⟨hlower, hupper⟩ := fits_toInt a
  rw [ha, hone]
  rcases lt_trichotomy b.toInt.natAbs 1 with h | h | h
  · omega
  · obtain hb | hb : b.toInt = 1 ∨ b.toInt = -1 := by omega
    · rw [hb, Int.tdiv_one]
      unfold Fits
      omega
    · rw [hb, Int.tdiv_neg, Int.tdiv_one]
      unfold Fits
      omega
  · have hhalf : (a.toInt.tdiv b.toInt).natAbs ≤ a.toInt.natAbs / 2 := by
      rw [Int.natAbs_tdiv]
      exact Nat.div_le_div_left h (by decide)
    unfold Fits
    omega

end Integer

namespace Arithmetic

/-! ### Exact results -/

/-- The outcome is the exact number, or an overflow if no word holds it. -/
def IsExact (op : Arithmetic) (n : Int) (o : Outcome) : Prop :=
  (Integer.Fits n → ∃ c : Int64, c.toInt = n ∧ o = .value (.integer c)) ∧
    (¬ Integer.Fits n → o = .error ⟨.arithmetic op, .overflow⟩)

theorem checked_toInt (c : Int64) : checked c.toInt = .ok c := by rw [checked, Integer.ofInt?_toInt]

theorem checked_of_not_fits {n : Int} (h : ¬ Integer.Fits n) : checked n = .error .overflow := by
  rw [checked, Integer.ofInt?_eq_none_iff.mpr h]

theorem isExact_checked (op : Arithmetic) (n : Int) :
    IsExact op n (.ofResult (.arithmetic op) (integer (checked n))) := by
  constructor
  · intro h
    obtain ⟨c, rfl⟩ := Integer.exists_toInt_eq h
    exact ⟨c, rfl, by rw [checked_toInt]; rfl⟩
  · intro h
    rw [checked_of_not_fits h]
    rfl

namespace IsExact

variable {op : Arithmetic} {n : Int} {o : Outcome}

theorem eq_of_toInt_eq (h : IsExact op n o) {c : Int64} (hc : c.toInt = n) : o = .value (.integer c) := by
  obtain ⟨c', hc', ho⟩ := h.1 (hc ▸ Integer.fits_toInt c)
  rw [ho, Int64.toInt_inj.mp (hc'.trans hc.symm)]

theorem eq_overflow_iff (h : IsExact op n o) : o = .error ⟨.arithmetic op, .overflow⟩ ↔ ¬ Integer.Fits n := by
  refine ⟨fun ho hn => ?_, h.2⟩
  obtain ⟨c, -, hc⟩ := h.1 hn
  rw [hc] at ho
  cases ho

/-- Only an overflow keeps an exact result from being a value. -/
theorem ne_divisionByZero (h : IsExact op n o) : o ≠ .error ⟨.arithmetic op, .divisionByZero⟩ := by
  intro ho
  by_cases hn : Integer.Fits n
  · obtain ⟨c, -, hc⟩ := h.1 hn
    rw [hc] at ho
    cases ho
  · rw [h.2 hn] at ho
    cases ho

end IsExact

/-- The operations on two numbers that have a form on integers. -/
def integral : List Arithmetic := [add, subtract, multiply, divide, mod]

end Arithmetic

namespace Expression

open Arithmetic

/-- An operation on two numbers. -/
def ofTwo (op : Arithmetic) (x y : Expression) : Expression := call (.arithmetic op) [x, y]

def absolute (x : Expression) : Expression := call (.arithmetic .abs) [x]

variable {limits : Limits} {d : Document} {x y : Expression} {a b : Int64}

theorem evaluate_ofTwo (op : Arithmetic) (h : (Function.arithmetic op).arity.Accepts 2) {v w : Value}
    (hx : x.evaluate limits d = .value v) (hy : y.evaluate limits d = .value w) :
    (ofTwo op x y).evaluate limits d = .ofResult (.arithmetic op) (op.apply [v, w]) := by
  have hf : (Function.arithmetic op).IsStrict := trivial
  have hargs : [x, y].map (evaluate limits d) = [v, w].map .value :=
    map_evaluate_cons hx (map_evaluate_cons hy rfl)
  exact evaluate_call_of_values limits d hf hargs h

theorem evaluate_absolute (hx : x.evaluate limits d = .value (.integer a)) :
    (absolute x).evaluate limits d = .ofResult (.arithmetic .abs) (integer (checked a.toInt.natAbs)) := by
  have hf : (Function.arithmetic .abs).IsStrict := trivial
  have hargs : [x].map (evaluate limits d) = [Value.integer a].map .value :=
    map_evaluate_cons hx rfl
  have hcount : (Function.arithmetic .abs).arity.Accepts 1 := rfl
  have happly : (Function.arithmetic .abs).onValues limits [.integer a] = integer (checked a.toInt.natAbs) := rfl
  rw [← happly]
  exact evaluate_call_of_values limits d hf hargs hcount

section

variable (hx : x.evaluate limits d = .value (.integer a)) (hy : y.evaluate limits d = .value (.integer b))

include hx hy

theorem isExact_evaluate_divide (hb : b ≠ 0) :
    IsExact .divide (a.toInt.tdiv b.toInt) ((ofTwo .divide x y).evaluate limits d) := by
  have happly : divide.apply [.integer a, .integer b] = integer (integerQuotient a.toInt b.toInt) := rfl
  rw [evaluate_ofTwo .divide rfl hx hy, happly, integerQuotient, if_neg (Integer.toInt_ne_zero hb)]
  exact isExact_checked .divide _

theorem isExact_evaluate_mod (hb : b ≠ 0) :
    IsExact .mod (a.toInt.tmod b.toInt) ((ofTwo .mod x y).evaluate limits d) := by
  have happly : mod.apply [.integer a, .integer b] = integer (integerRemainder a.toInt b.toInt) := rfl
  rw [evaluate_ofTwo .mod rfl hx hy, happly, integerRemainder, if_neg (Integer.toInt_ne_zero hb)]
  exact isExact_checked .mod _

/-- Division and remainder refuse a divisor of zero and nothing else. -/
theorem evaluate_eq_divisionByZero_iff (op : Arithmetic) (hop : op ∈ [divide, mod]) :
    (ofTwo op x y).evaluate limits d = .error ⟨.arithmetic op, .divisionByZero⟩ ↔ b = 0 := by
  simp only [List.mem_cons, List.not_mem_nil, or_false] at hop
  by_cases hb : b = 0
  · subst hb
    refine iff_of_true ?_ rfl
    rcases hop with rfl | rfl
    · exact evaluate_ofTwo .divide rfl hx hy
    · exact evaluate_ofTwo .mod rfl hx hy
  · refine iff_of_false ?_ hb
    rcases hop with rfl | rfl
    · exact (isExact_evaluate_divide hx hy hb).ne_divisionByZero
    · exact (isExact_evaluate_mod hx hy hb).ne_divisionByZero

theorem evaluate_divide_eq_overflow_iff :
    (ofTwo .divide x y).evaluate limits d = .error ⟨.arithmetic .divide, .overflow⟩ ↔
      a = Int64.minValue ∧ b = -1 := by
  by_cases hb : b = 0
  · have hzero := (evaluate_eq_divisionByZero_iff hx hy .divide List.mem_cons_self).mpr hb
    rw [hzero, hb]
    exact iff_of_false nofun fun h => absurd h.2 (by decide)
  · rw [(isExact_evaluate_divide hx hy hb).eq_overflow_iff, Integer.fits_tdiv_iff hb, not_not]

/-- A remainder always has a word. -/
theorem exists_evaluate_mod (hb : b ≠ 0) :
    ∃ r : Int64, r.toInt = a.toInt.tmod b.toInt ∧ (ofTwo .mod x y).evaluate limits d = .value (.integer r) :=
  (isExact_evaluate_mod hx hy hb).1 (Integer.fits_tmod _ (Integer.fits_toInt b) (Integer.toInt_ne_zero hb))

/-- A quotient times its divisor, and the remainder, make the dividend.  None of the three operations leaves the
words. -/
theorem evaluate_division_undone {v : Value} (h : (ofTwo .divide x y).evaluate limits d = .value v) :
    (ofTwo .add (ofTwo .multiply (ofTwo .divide x y) y) (ofTwo .mod x y)).evaluate limits d = .value (.integer a) := by
  have hb : b ≠ 0 := by
    intro hb
    rw [(evaluate_eq_divisionByZero_iff hx hy .divide List.mem_cons_self).mpr hb] at h
    cases h
  have hfits : Integer.Fits (a.toInt.tdiv b.toInt) := by
    by_contra hover
    rw [(isExact_evaluate_divide hx hy hb).2 hover] at h
    cases h
  obtain ⟨q, hq, hquotient⟩ := (isExact_evaluate_divide hx hy hb).1 hfits
  obtain ⟨r, hr, hremainder⟩ := exists_evaluate_mod hx hy hb
  obtain ⟨p, hp⟩ := Integer.exists_toInt_eq (Integer.fits_tdiv_mul b.toInt (Integer.fits_toInt a))
  have hproduct : (ofTwo .multiply (ofTwo .divide x y) y).evaluate limits d = .value (.integer p) := by
    rw [evaluate_ofTwo .multiply rfl hquotient hy]
    exact (isExact_checked .multiply (q.toInt * b.toInt)).eq_of_toInt_eq (by rw [hp, hq])
  rw [evaluate_ofTwo .add rfl hproduct hremainder]
  exact (isExact_checked .add (p.toInt + r.toInt)).eq_of_toInt_eq (by rw [hp, hr, Int.tdiv_mul_add_tmod])

/-- On integers an operation returns what its form on integers does. -/
theorem exists_evaluate_integral {op : Arithmetic} (hop : op ∈ integral) :
    ∃ r, (ofTwo op x y).evaluate limits d = .ofResult (.arithmetic op) (integer r) := by
  simp only [integral, List.mem_cons, List.not_mem_nil, or_false] at hop
  have hcount : (Function.arithmetic op).arity.Accepts 2 := by
    rcases hop with rfl | rfl | rfl | rfl | rfl <;> rfl
  rw [evaluate_ofTwo op hcount hx hy]
  rcases hop with rfl | rfl | rfl | rfl | rfl
  all_goals exact ⟨_, rfl⟩

end

/-- **Arithmetic of integers is exact or an error.**  Of operands with integers, sum, difference, product and absolute
value are the exact ones, or an overflow if no word holds them.  Division and remainder refuse a divisor of zero and
nothing else; the quotient is rounded toward zero, and only the least integer by `-1` has none; the remainder is what
the quotient leaves of the dividend, smaller than the divisor and with the sign of the dividend.  Multiplying a
quotient by its divisor and adding the remainder gives the dividend back.  No result is a double. -/
theorem integer_arithmetic_is_exact (limits : Limits) (d : Document) {x y : Expression} {a b : Int64}
    (hx : x.evaluate limits d = .value (.integer a)) (hy : y.evaluate limits d = .value (.integer b)) :
    IsExact .add (a.toInt + b.toInt) ((ofTwo .add x y).evaluate limits d) ∧
      IsExact .subtract (a.toInt - b.toInt) ((ofTwo .subtract x y).evaluate limits d) ∧
      IsExact .multiply (a.toInt * b.toInt) ((ofTwo .multiply x y).evaluate limits d) ∧
      IsExact .abs |a.toInt| ((absolute x).evaluate limits d) ∧
      (∀ op ∈ [divide, mod],
        (ofTwo op x y).evaluate limits d = .error ⟨.arithmetic op, .divisionByZero⟩ ↔ b = 0) ∧
      ((ofTwo .divide x y).evaluate limits d = .error ⟨.arithmetic .divide, .overflow⟩ ↔
        a = Int64.minValue ∧ b = -1) ∧
      (b ≠ 0 → ¬ (a = Int64.minValue ∧ b = -1) →
        ∃ q : Int64, q.toInt = Integer.towardZero ((a.toInt : ℚ) / b.toInt) ∧
          (ofTwo .divide x y).evaluate limits d = .value (.integer q)) ∧
      (b ≠ 0 →
        ∃ r : Int64, (ofTwo .mod x y).evaluate limits d = .value (.integer r) ∧ |r.toInt| < |b.toInt| ∧
          (r.toInt = 0 ∨ r.toInt.sign = a.toInt.sign) ∧
          a.toInt = b.toInt * Integer.towardZero ((a.toInt : ℚ) / b.toInt) + r.toInt) ∧
      (∀ v, (ofTwo .divide x y).evaluate limits d = .value v →
        (ofTwo .add (ofTwo .multiply (ofTwo .divide x y) y) (ofTwo .mod x y)).evaluate limits d =
          .value (.integer a)) ∧
      (∀ op ∈ integral, ∀ z, (ofTwo op x y).evaluate limits d ≠ .value (.double z)) ∧
      ∀ z, (absolute x).evaluate limits d ≠ .value (.double z) := by
  have hnoDouble (f : Function) (r : Except Cause Int64) (z : Double) :
      Outcome.ofResult f (integer r) ≠ .value (.double z) := by cases r <;> nofun
  refine ⟨?_, ?_, ?_, ?_, evaluate_eq_divisionByZero_iff hx hy,
    evaluate_divide_eq_overflow_iff hx hy, fun hb hfits => ?_, fun hb => ?_, fun v => evaluate_division_undone hx hy,
    fun op hop z => ?_, fun z => ?_⟩
  · rw [evaluate_ofTwo .add rfl hx hy]
    exact isExact_checked .add _
  · rw [evaluate_ofTwo .subtract rfl hx hy]
    exact isExact_checked .subtract _
  · rw [evaluate_ofTwo .multiply rfl hx hy]
    exact isExact_checked .multiply _
  · rw [evaluate_absolute hx, Int.abs_eq_natAbs]
    exact isExact_checked .abs _
  · rw [Integer.towardZero_div]
    exact (isExact_evaluate_divide hx hy hb).1 ((Integer.fits_tdiv_iff hb).mpr hfits)
  · obtain ⟨r, hr, hremainder⟩ := exists_evaluate_mod hx hy hb
    refine ⟨r, hremainder, ?_, ?_, ?_⟩
    · rw [hr, Int.abs_eq_natAbs, Int.abs_eq_natAbs]
      exact Int.ofNat_lt.mpr (Integer.natAbs_tmod_lt _ (Integer.toInt_ne_zero hb))
    · rw [hr]
      exact Integer.sign_tmod _ _
    · rw [Integer.towardZero_div, hr, Int.mul_tdiv_add_tmod]
  · obtain ⟨r, hr⟩ := exists_evaluate_integral hx hy hop
    rw [hr]
    exact hnoDouble _ r z
  · rw [evaluate_absolute hx]
    exact hnoDouble _ _ z

/-- The least integer has neither a successor below it, nor an opposite as a quotient or as an absolute value, but by
`-1` it leaves the remainder zero.  `-7` by `2` is `-3` with the remainder `-1`, which give `-7` back. -/
theorem integer_arithmetic_is_exact_at_the_ends :
    let d : Document := ⟨⟨["c", "d"]⟩, [], none⟩
    let least := literal (.integer Int64.minValue)
    let minusOne := literal (.integer (-1))
    let minusSeven := literal (.integer (-7))
    let two := literal (.integer 2)
    (least.evaluate {} d = .value (.integer Int64.minValue) ∧ minusOne.evaluate {} d = .value (.integer (-1))) ∧
      (ofTwo .add least minusOne).evaluate {} d = .error ⟨.arithmetic .add, .overflow⟩ ∧
      (absolute least).evaluate {} d = .error ⟨.arithmetic .abs, .overflow⟩ ∧
      (ofTwo .divide least minusOne).evaluate {} d = .error ⟨.arithmetic .divide, .overflow⟩ ∧
      (ofTwo .mod least minusOne).evaluate {} d = .value (.integer 0) ∧
      (ofTwo .divide minusSeven two).evaluate {} d = .value (.integer (-3)) ∧
      (ofTwo .add (ofTwo .multiply (ofTwo .divide minusSeven two) two) (ofTwo .mod minusSeven two)).evaluate {} d =
        .value (.integer (-7)) := by
  intro d least minusOne minusSeven two
  have hleast : least.evaluate {} d = .value (.integer Int64.minValue) := rfl
  have hminusOne : minusOne.evaluate {} d = .value (.integer (-1)) := rfl
  have hminusSeven : minusSeven.evaluate {} d = .value (.integer (-7)) := rfl
  have htwo : two.evaluate {} d = .value (.integer 2) := rfl
  obtain ⟨hsum, -, -, habs, -, hover, -, hmod, -⟩ := integer_arithmetic_is_exact {} d hleast hminusOne
  obtain ⟨-, -, -, -, -, -, hquotient, -, hback, -⟩ := integer_arithmetic_is_exact {} d hminusSeven htwo
  obtain ⟨r, hr, hsmall, -⟩ := hmod (by decide)
  obtain ⟨q, hq, hdivided⟩ := hquotient (by decide) (by decide)
  have hone : |(-1 : Int64).toInt| = 1 := by decide
  obtain rfl : r = 0 := Int64.toInt_inj.mp (Int.abs_lt_one_iff.mp (hone ▸ hsmall))
  obtain rfl : q = -3 := by
    rw [Integer.towardZero_div] at hq
    exact Int64.toInt_inj.mp (hq.trans (by decide))
  exact ⟨⟨hleast, hminusOne⟩, hsum.2 (by decide), habs.2 (by decide), hover.mpr ⟨rfl, rfl⟩, hr, hdivided,
    hback _ hdivided⟩

end Expression

end DocumentQuery
