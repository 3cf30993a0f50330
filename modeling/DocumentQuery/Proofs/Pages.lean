import DocumentQuery.Proofs.FirstCopies
import Mathlib.Data.List.Basic

/-! # Pages of a result

A cut at the end of a pipeline acts on the result of the pipeline in front of it (`Pipeline.run_limit`,
`Pipeline.run_offset`), so that cuts in a row obey the laws of first stretches and rests of one list.  A page is an
offset by whole pages and a limit of one page, and the first pages together are the beginning of the result
(`Pipeline.flatMap_page`).  A page that is empty lies behind the last document (`Pipeline.run_page_eq_nil_iff`); if the
result has fewer than `2 ^ 63` documents, as everything kept in memory has, there is such a page before the counts run
out of their word (`Pipeline.exists_empty_page`). -/

namespace DocumentQuery

/-- Stretches of one length, one after the other, are the beginning of the list. -/
theorem flatMap_stretches {α : Type} (l : List α) (size count : Nat) :
    ((List.range count).flatMap fun i => (l.drop (i * size)).take size) = l.take (count * size) := by
  induction count with
  | zero => simp
  | succ count ih => rw [List.range_succ, List.flatMap_append, ih, List.flatMap_singleton, Nat.succ_mul, List.take_add]

namespace Pipeline

variable {limits : Limits} {p : Pipeline} {ds : List Document} {size a b : UInt64} {i count : Nat}

/-! ### Cuts -/

theorem run_limit (limits : Limits) (p : Pipeline) (count : UInt64) (ds : List Document) :
    (p.andThen (.limit count)).run limits ds = (p.run limits ds).take count.toNat :=
  run_andThen limits p (.limit count) ds

theorem run_offset (limits : Limits) (p : Pipeline) (count : UInt64) (ds : List Document) :
    (p.andThen (.offset count)).run limits ds = (p.run limits ds).drop count.toNat :=
  run_andThen limits p (.offset count) ds

/-- Two offsets skip as many documents as both together. -/
theorem run_offset_offset (hfits : a.toNat + b.toNat < UInt64.size) :
    ((p.andThen (.offset a)).andThen (.offset b)).run limits ds = (p.andThen (.offset (a + b))).run limits ds := by
  have hsum : (a + b).toNat = a.toNat + b.toNat := by
    rw [UInt64.toNat_add]
    exact Nat.mod_eq_of_lt hfits
  rw [run_offset, run_offset, run_offset, List.drop_drop, hsum]

/-- Of two limits the smaller one counts. -/
theorem run_limit_limit :
    ((p.andThen (.limit a)).andThen (.limit b)).run limits ds = (p.andThen (.limit (min a b))).run limits ds := by
  rw [run_limit, run_limit, run_limit, List.take_take, Nat.min_comm, ← UInt64.toNat_min]

/-- An offset behind a limit takes its documents off the limit. -/
theorem run_limit_offset :
    ((p.andThen (.limit a)).andThen (.offset b)).run limits ds =
      ((p.andThen (.offset b)).andThen (.limit (.ofNat (a.toNat - b.toNat)))).run limits ds := by
  have hrest : (UInt64.ofNat (a.toNat - b.toNat)).toNat = a.toNat - b.toNat :=
    UInt64.toNat_ofNat_of_lt' (lt_of_le_of_lt (Nat.sub_le _ _) a.toNat_lt)
  rw [run_offset, run_limit, run_limit, run_offset, List.drop_take, hrest]

/-! ### Pages -/

/-- One page: the documents behind the pages in front of it, as many as a page has. -/
def page (p : Pipeline) (size : UInt64) (i : Nat) : Pipeline :=
  (p.andThen (.offset (.ofNat (i * size.toNat)))).andThen (.limit size)

theorem run_page (hfits : i * size.toNat < UInt64.size) :
    (p.page size i).run limits ds = ((p.run limits ds).drop (i * size.toNat)).take size.toNat := by
  rw [page, run_limit, run_offset, UInt64.toNat_ofNat_of_lt' hfits]

/-- The first pages together are the first documents. -/
theorem flatMap_page (hfits : count * size.toNat < UInt64.size) :
    ((List.range count).flatMap fun i => (p.page size i).run limits ds) =
      (p.run limits ds).take (count * size.toNat) := by
  rw [← flatMap_stretches]
  refine List.flatMap_congr fun i hi => run_page ?_
  exact lt_of_le_of_lt (Nat.mul_le_mul_right _ (List.mem_range.mp hi).le) hfits

theorem run_page_eq_nil_iff (hsize : 0 < size.toNat) (hfits : i * size.toNat < UInt64.size) :
    (p.page size i).run limits ds = [] ↔ (p.run limits ds).length ≤ i * size.toNat := by
  rw [run_page hfits, List.take_eq_nil_iff, List.drop_eq_nil_iff, or_iff_right hsize.ne']

/-- Going on from page to page comes to an empty one. -/
theorem exists_empty_page (hsize : 0 < size.toNat) (hmemory : (p.run limits ds).length < 0x8000000000000000) :
    ∃ count, count * size.toNat < UInt64.size ∧ (∀ i < count, (p.page size i).run limits ds ≠ []) ∧
      (p.page size count).run limits ds = [] := by
  have hend : ∃ count, (p.run limits ds).length ≤ count * size.toNat :=
    ⟨_, Nat.le_mul_of_pos_right _ hsize⟩
  -- The first page that starts behind the last document.
  let count := Nat.find hend
  have hbehind : (p.run limits ds).length ≤ count * size.toNat := Nat.find_spec hend
  have hfront : ∀ i < count, i * size.toNat < (p.run limits ds).length := fun i hi => not_le.mp (Nat.find_min hend hi)
  have hfits : count * size.toNat < UInt64.size := by
    have hword : size.toNat < UInt64.size := size.toNat_lt
    match hcount : count with
    | 0 => simp
    | 1 => simpa using hword
    | last + 2 =>
        have hlast : (last + 1) * size.toNat < (p.run limits ds).length := hfront (last + 1) (by omega)
        have hfirst : size.toNat ≤ (last + 1) * size.toNat := Nat.le_mul_of_pos_left _ (Nat.succ_pos last)
        have hsum : (last + 2) * size.toNat = (last + 1) * size.toNat + size.toNat := Nat.succ_mul _ _
        have hlimit : UInt64.size = 0x10000000000000000 := rfl
        omega
  refine ⟨count, hfits, fun i hi hempty => ?_, (run_page_eq_nil_iff hsize hfits).mpr hbehind⟩
  have hfits' : i * size.toNat < UInt64.size := lt_of_le_of_lt (Nat.mul_le_mul_right _ hi.le) hfits
  exact absurd ((run_page_eq_nil_iff hsize hfits').mp hempty) (not_le.mpr (hfront i hi))

/-- **Pages lose and repeat nothing.**  A limit and an offset by the same count cut a result in two.  The pages of any
size in front of an empty one are the whole result, put together in order, and a result that is kept in memory has a
first empty page.  Two offsets are one by their sum, two limits are the smaller one, and an offset may stand in front of
a limit that it shortens. -/
theorem pages_lose_and_repeat_nothing (limits : Limits) (p : Pipeline) (ds : List Document) :
    (∀ n, (p.andThen (.limit n)).run limits ds ++ (p.andThen (.offset n)).run limits ds = p.run limits ds) ∧
    (∀ size : UInt64, 1 ≤ size →
      (∀ count, count * size.toNat < UInt64.size → (p.page size count).run limits ds = [] →
        ((List.range count).flatMap fun i => (p.page size i).run limits ds) = p.run limits ds) ∧
      ((p.run limits ds).length < 0x8000000000000000 →
        ∃ count, count * size.toNat < UInt64.size ∧ (∀ i < count, (p.page size i).run limits ds ≠ []) ∧
          (p.page size count).run limits ds = [] ∧
          ((List.range count).flatMap fun i => (p.page size i).run limits ds) = p.run limits ds)) ∧
    (∀ a b : UInt64, a.toNat + b.toNat < UInt64.size →
      ((p.andThen (.offset a)).andThen (.offset b)).run limits ds = (p.andThen (.offset (a + b))).run limits ds) ∧
    (∀ a b : UInt64,
      ((p.andThen (.limit a)).andThen (.limit b)).run limits ds = (p.andThen (.limit (min a b))).run limits ds) ∧
    ∀ a b : UInt64, ((p.andThen (.limit a)).andThen (.offset b)).run limits ds =
      ((p.andThen (.offset b)).andThen (.limit (.ofNat (a.toNat - b.toNat)))).run limits ds := by
  refine ⟨fun n => ?halves, fun size hpositive => ?pages, fun a b hfits => run_offset_offset hfits,
    fun a b => run_limit_limit, fun a b => run_limit_offset⟩
  case halves => rw [run_limit, run_offset, List.take_append_drop]
  case pages =>
    have hsize : 0 < size.toNat := UInt64.le_iff_toNat_le.mp hpositive
    have hwhole : ∀ count, count * size.toNat < UInt64.size → (p.page size count).run limits ds = [] →
        ((List.range count).flatMap fun i => (p.page size i).run limits ds) = p.run limits ds := by
      intro count hfits hempty
      rw [flatMap_page hfits, List.take_of_length_le ((run_page_eq_nil_iff hsize hfits).mp hempty)]
    refine ⟨hwhole, fun hmemory => ?_⟩
    obtain ⟨count, hfits, hfilled, hempty⟩ := exists_empty_page hsize hmemory
    exact ⟨count, hfits, hfilled, hempty, hwhole count hfits hempty⟩

/-- Three documents, in key order. -/
def threeDocuments : List Document :=
  [⟨⟨["c", "a"]⟩, [], none⟩, ⟨⟨["c", "b"]⟩, [], none⟩, ⟨⟨["c", "d"]⟩, [], none⟩]

/-- Of three documents the second page of two has one, and the third page has none.  The greatest count of all skips
them at once, alone and behind an offset by nothing. -/
theorem pages_lose_and_repeat_nothing_at_the_end :
    let p : Pipeline := ⟨.collection ⟨["c"]⟩, []⟩
    let greatest : UInt64 := 0xFFFFFFFFFFFFFFFF
    (1 : UInt64) ≤ 2 ∧ 2 * (2 : UInt64).toNat < UInt64.size ∧ (p.page 2 2).run {} threeDocuments = [] ∧
      (p.page 2 0).run {} threeDocuments ++ (p.page 2 1).run {} threeDocuments = p.run {} threeDocuments ∧
      (p.run {} threeDocuments).length < 0x8000000000000000 ∧
      (∃ count, count * (2 : UInt64).toNat < UInt64.size ∧ (∀ i < count, (p.page 2 i).run {} threeDocuments ≠ []) ∧
        (p.page 2 count).run {} threeDocuments = [] ∧
        ((List.range count).flatMap fun i => (p.page 2 i).run {} threeDocuments) = p.run {} threeDocuments) ∧
      (0 : UInt64).toNat + greatest.toNat < UInt64.size ∧
      ((p.andThen (.offset 0)).andThen (.offset greatest)).run {} threeDocuments =
        (p.andThen (.offset (0 + greatest))).run {} threeDocuments := by
  intro p greatest
  have hrun : p.run {} threeDocuments = threeDocuments := admitted_eq_self (by decide) (by decide)
  have hempty : (p.page 2 2).run {} threeDocuments = [] := by
    rw [run_page (by decide), hrun]
    rfl
  have hmemory : (p.run {} threeDocuments).length < 0x8000000000000000 := by
    rw [hrun]
    decide
  have hgreatest : (0 : UInt64).toNat + greatest.toNat < UInt64.size := by decide
  obtain ⟨-, hpages, hoffsets, -⟩ := pages_lose_and_repeat_nothing {} p threeDocuments
  obtain ⟨hwhole, hend⟩ := hpages 2 (by decide)
  have hboth := hwhole 2 (by decide) hempty
  rw [List.range_succ, List.range_one, List.flatMap_append, List.flatMap_singleton, List.flatMap_singleton] at hboth
  exact ⟨by decide, by decide, hempty, hboth, hmemory, hend hmemory, hgreatest, hoffsets 0 greatest hgreatest⟩

end Pipeline

end DocumentQuery
