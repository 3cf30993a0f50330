/-!
# Machine integers

Stored integers are 64-bit words. Arithmetic on them runs in the unbounded integers and comes back through
`Integer.ofInt?`, which answers exactly for the numbers that a word holds (`ofInt?_eq_some_iff`).
-/

namespace DocumentQuery.Integer

/-- The numbers that a signed 64-bit word holds. -/
def Fits (n : Int) : Prop := -0x8000000000000000 ≤ n ∧ n < 0x8000000000000000

instance (n : Int) : Decidable (Fits n) := inferInstanceAs (Decidable (_ ∧ _))

/-- The word of a number, if one holds it. -/
def ofInt? (n : Int) : Option Int64 :=
  if Fits n then some (Int64.ofInt n) else none

theorem fits_toInt (i : Int64) : Fits i.toInt :=
  ⟨by have := i.le_toInt; omega, by have := i.toInt_lt; omega⟩

theorem exists_toInt_eq {n : Int} (h : Fits n) : ∃ i : Int64, i.toInt = n :=
  ⟨Int64.ofInt n, Int64.toInt_ofInt_of_le h.1 h.2⟩

theorem ofInt?_toInt (i : Int64) : ofInt? i.toInt = some i := by
  simp [ofInt?, fits_toInt]

theorem ofInt?_eq_some_iff {n : Int} {i : Int64} : ofInt? n = some i ↔ i.toInt = n := by
  constructor
  · intro h
    by_cases hn : Fits n
    · obtain rfl : Int64.ofInt n = i := by simpa [ofInt?, hn] using h
      exact Int64.toInt_ofInt_of_le hn.1 hn.2
    · simp [ofInt?, hn] at h
  · rintro rfl
    exact ofInt?_toInt i

theorem ofInt?_eq_none_iff {n : Int} : ofInt? n = none ↔ ¬ Fits n := by
  by_cases hn : Fits n <;> simp [ofInt?, hn]

/-- A remainder is smaller than its divisor. -/
theorem natAbs_tmod_lt (a : Int) {b : Int} (hb : b ≠ 0) : (a.tmod b).natAbs < b.natAbs := by
  rw [Int.natAbs_tmod]
  exact Nat.mod_lt _ (Int.natAbs_pos.mpr hb)

theorem fits_tmod (a : Int) {b : Int} (h : Fits b) (hb : b ≠ 0) : Fits (a.tmod b) := by
  have hlt := natAbs_tmod_lt a hb
  unfold Fits at h ⊢
  omega

/-- The unsigned word of a number, if one holds it. -/
def ofNat? (n : Nat) : Option UInt64 :=
  if n < UInt64.size then some (UInt64.ofNat n) else none

theorem ofNat?_toNat (n : UInt64) : ofNat? n.toNat = some n := by
  simp [ofNat?, n.toNat_lt]

end DocumentQuery.Integer
