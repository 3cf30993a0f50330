import DocumentQuery.Text.Pieces

/-!
# Sets of code points as ranges

A set of code points is a list of ranges in ascending order. Tables of such sets are written as text, each
range as its two ends in hexadecimal (`41-5a`) or as one code point (`5f`), with blanks between them. The
operations on sets are those on their members (`contains_operations`), and unions come in as few ranges as
possible: no two of them overlap or touch (`separated_union`).
-/

namespace DocumentQuery.Text

/-- Ranges with both ends included, in ascending order. -/
abbrev Ranges := List (Nat × Nat)

/-- The value of a hexadecimal digit; other characters count as zero. -/
def hexDigitValue (c : Char) : Nat :=
  if c.isDigit then c.toNat - '0'.toNat
  else if 'a' ≤ c ∧ c ≤ 'f' then c.toNat - 'a'.toNat + 10
  else if 'A' ≤ c ∧ c ≤ 'F' then c.toNat - 'A'.toNat + 10
  else 0

/-- The number written by hexadecimal digits. -/
def hexValue (digits : List Char) : Nat := digits.foldl (fun n c => 16 * n + hexDigitValue c) 0

/-- The pieces of a text between blanks and line ends. -/
def words (text : String) : List (List Char) :=
  ((pieces '\n' text.toList).flatMap (pieces ' ')).filter (· ≠ [])

/-- Reads one range. -/
def rangeOfWord (word : List Char) : Nat × Nat :=
  match pieces '-' word with
  | [first, last] => (hexValue first, hexValue last)
  | _ => (hexValue word, hexValue word)

namespace Ranges

def read (text : String) : Ranges := (words text).map rangeOfWord

/-- Membership; the search ends at the first range beyond the code point. -/
def contains : Ranges → Nat → Bool
  | [], _ => false
  | (first, last) :: rest, n => first ≤ n && (n ≤ last || contains rest n)

/-- Adds a range to the front of others and joins those that overlap or touch it. -/
def joinFrom (first last : Nat) : Ranges → Ranges
  | [] => [(first, last)]
  | (a, b) :: rest =>
    if a ≤ last + 1 then joinFrom first (max last b) rest else (first, last) :: joinFrom a b rest

/-- The same set in as few ranges as possible. -/
def joined : Ranges → Ranges
  | [] => []
  | (first, last) :: rest => joinFrom first last rest

def ofPoints (points : List Nat) : Ranges :=
  joined ((points.map fun n => (n, n)).mergeSort fun a b => a.1 ≤ b.1)

def union (a b : Ranges) : Ranges := joined (List.merge a b fun x y => x.1 ≤ y.1)

def lastCodePoint : Nat := 0x10ffff

/-- The code points between the ranges, from `start` on. -/
def gapsFrom (start : Nat) : Ranges → Ranges
  | [] => if start ≤ lastCodePoint then [(start, lastCodePoint)] else []
  | (first, last) :: rest =>
    if start < first then (start, first - 1) :: gapsFrom (last + 1) rest
    else gapsFrom (max start (last + 1)) rest

def compl (a : Ranges) : Ranges := gapsFrom 0 a

def inter (a b : Ranges) : Ranges := compl (union (compl a) (compl b))

def minus (a b : Ranges) : Ranges := inter a (compl b)

def differ (a b : Ranges) : Ranges := union (minus a b) (minus b a)

/-! ### Laws -/

/-- Some range holds the code point. -/
def Covers (a : Ranges) (n : Nat) : Prop := ∃ r ∈ a, r.1 ≤ n ∧ n ≤ r.2

/-- The ranges start one after the other, and none of them is empty. -/
structure Ascending (a : Ranges) : Prop where
  ordered : a.Pairwise fun r s => r.1 ≤ s.1
  nonempty : ∀ r ∈ a, r.1 ≤ r.2

/-- Between two ranges lies a code point that is in neither. -/
def Separated (a : Ranges) : Prop := a.Pairwise fun r s => r.2 + 1 < s.1

variable {a b : Ranges} {first last start n : Nat}

@[simp] theorem not_covers_nil : ¬Covers [] n := nofun

@[simp] theorem covers_cons : Covers ((first, last) :: a) n ↔ (first ≤ n ∧ n ≤ last) ∨ Covers a n := by
  simp [Covers]

namespace Ascending

theorem nil : Ascending [] := ⟨.nil, nofun⟩

theorem cons (h : first ≤ last) (hfirst : ∀ r ∈ a, first ≤ r.1) (ha : Ascending a) :
    Ascending ((first, last) :: a) :=
  ⟨.cons hfirst ha.ordered, List.forall_mem_cons.mpr ⟨h, ha.nonempty⟩⟩

theorem of_cons (h : Ascending ((first, last) :: a)) :
    first ≤ last ∧ (∀ r ∈ a, first ≤ r.1) ∧ Ascending a :=
  have ⟨hordered, hrest⟩ := List.pairwise_cons.mp h.ordered
  have ⟨hle, hnonempty⟩ := List.forall_mem_cons.mp h.nonempty
  ⟨hle, hordered, hrest, hnonempty⟩

end Ascending

theorem le_of_covers (h : ∀ r ∈ a, first ≤ r.1) (hn : Covers a n) : first ≤ n := by
  obtain ⟨r, hr, hle, -⟩ := hn
  exact Nat.le_trans (h r hr) hle

/-- The search misses nothing. -/
theorem contains_iff_covers (ha : Ascending a) : a.contains n ↔ Covers a n := by
  induction a with
  | nil => simp [contains]
  | cons r a ih =>
    obtain ⟨first, last⟩ := r
    obtain ⟨-, hfirst, ha⟩ := ha.of_cons
    have hle : Covers a n → first ≤ n := le_of_covers hfirst
    simp only [contains, Bool.and_eq_true, decide_eq_true_eq, Bool.or_eq_true, ih ha, covers_cons]
    constructor
    · rintro ⟨hstart, hend | hrest⟩
      · exact .inl ⟨hstart, hend⟩
      · exact .inr hrest
    · rintro (⟨hstart, hend⟩ | hrest)
      · exact ⟨hstart, .inl hend⟩
      · exact ⟨hle hrest, .inr hrest⟩

example : contains (read "41-5a 61-7a") 0x62 = true := by decide
example : contains (read "41-5a 61-7a") 0x5b = false := by decide

/-! #### Joining -/

theorem covers_joinFrom (h : first ≤ last) (hfirst : ∀ r ∈ a, first ≤ r.1) (ha : Ascending a) :
    Covers (joinFrom first last a) n ↔ (first ≤ n ∧ n ≤ last) ∨ Covers a n := by
  induction a generalizing first last with
  | nil => simp [joinFrom]
  | cons r a ih =>
    obtain ⟨f, l⟩ := r
    obtain ⟨hle, hf, ha⟩ := ha.of_cons
    obtain ⟨hff, hfirst⟩ := List.forall_mem_cons.mp hfirst
    dsimp only at hff
    unfold joinFrom
    split
    · rw [ih (by omega) hfirst ha, covers_cons, ← or_assoc]
      exact or_congr (by omega) Iff.rfl
    · rw [covers_cons, ih hle hf ha, covers_cons]

theorem ascending_joinFrom (h : first ≤ last) (hfirst : ∀ r ∈ a, first ≤ r.1) (ha : Ascending a) :
    (∀ r ∈ joinFrom first last a, first ≤ r.1) ∧ Ascending (joinFrom first last a) ∧
      Separated (joinFrom first last a) := by
  induction a generalizing first last with
  | nil =>
    exact ⟨List.forall_mem_singleton.mpr (Nat.le_refl first), Ascending.nil.cons h nofun, List.pairwise_singleton ..⟩
  | cons r a ih =>
    obtain ⟨f, l⟩ := r
    obtain ⟨hle, hf, ha⟩ := ha.of_cons
    obtain ⟨hff, hfirst⟩ := List.forall_mem_cons.mp hfirst
    dsimp only at hff
    unfold joinFrom
    split
    · exact ih (by omega) hfirst ha
    · obtain ⟨hstarts, hascending, hseparated⟩ := ih hle hf ha
      have hstarts' : ∀ r ∈ joinFrom f l a, first ≤ r.1 := fun r hr => Nat.le_trans hff (hstarts r hr)
      refine ⟨List.forall_mem_cons.mpr ⟨Nat.le_refl first, hstarts'⟩, hascending.cons h hstarts',
        .cons (fun r hr => ?_) hseparated⟩
      have hstart := hstarts r hr
      dsimp only
      omega

theorem covers_joined (ha : Ascending a) : Covers a.joined n ↔ Covers a n := by
  cases a with
  | nil => exact Iff.rfl
  | cons r a =>
    obtain ⟨hle, hfirst, ha⟩ := ha.of_cons
    exact (covers_joinFrom hle hfirst ha).trans covers_cons.symm

/-- Joined ranges do not overlap or touch. -/
theorem separated_joined (ha : Ascending a) : Ascending a.joined ∧ Separated a.joined := by
  cases a with
  | nil => exact ⟨.nil, .nil⟩
  | cons r a =>
    obtain ⟨hle, hfirst, ha⟩ := ha.of_cons
    exact (ascending_joinFrom hle hfirst ha).2

/-! #### Union -/

theorem starts_trans (r s t : Nat × Nat) (hrs : decide (r.1 ≤ s.1)) (hst : decide (s.1 ≤ t.1)) :
    decide (r.1 ≤ t.1) :=
  decide_eq_true (Nat.le_trans (of_decide_eq_true hrs) (of_decide_eq_true hst))

theorem starts_total (r s : Nat × Nat) : (decide (r.1 ≤ s.1) || decide (s.1 ≤ r.1)) := by
  simpa using Nat.le_total r.1 s.1

theorem ascending_merge (ha : Ascending a) (hb : Ascending b) :
    Ascending (List.merge a b fun x y => x.1 ≤ y.1) where
  ordered := by
    have hmerged := List.pairwise_merge starts_trans starts_total a b (ha.ordered.imp decide_eq_true)
      (hb.ordered.imp decide_eq_true)
    exact hmerged.imp of_decide_eq_true
  nonempty := by
    intro r hr
    rcases List.mem_merge.mp hr with hr | hr
    · exact ha.nonempty r hr
    · exact hb.nonempty r hr

theorem covers_union (ha : Ascending a) (hb : Ascending b) : Covers (union a b) n ↔ Covers a n ∨ Covers b n := by
  refine (covers_joined (ascending_merge ha hb)).trans ?_
  simp only [Covers, List.mem_merge]
  constructor
  · rintro ⟨r, hr | hr, hn⟩
    · exact .inl ⟨r, hr, hn⟩
    · exact .inr ⟨r, hr, hn⟩
  · rintro (⟨r, hr, hn⟩ | ⟨r, hr, hn⟩)
    · exact ⟨r, .inl hr, hn⟩
    · exact ⟨r, .inr hr, hn⟩

theorem separated_union (ha : Ascending a) (hb : Ascending b) : Ascending (union a b) ∧ Separated (union a b) :=
  separated_joined (ascending_merge ha hb)

/-! #### Complement -/

theorem covers_gapsFrom (ha : Ascending a) (hn : n ≤ lastCodePoint) :
    Covers (gapsFrom start a) n ↔ start ≤ n ∧ ¬Covers a n := by
  induction a generalizing start with
  | nil =>
    unfold gapsFrom
    split
    · simp [hn]
    · simp
      omega
  | cons r a ih =>
    obtain ⟨f, l⟩ := r
    obtain ⟨hle, hf, ha⟩ := ha.of_cons
    have hcovers : Covers a n → f ≤ n := le_of_covers hf
    unfold gapsFrom
    split
    · rw [covers_cons, ih ha, covers_cons]
      by_cases hrest : Covers a n
      · have := hcovers hrest
        simp only [hrest, or_true, not_true_eq_false, and_false, or_false, iff_false]
        omega
      · simp only [hrest, or_false, not_false_eq_true, and_true]
        omega
    · rw [ih ha, covers_cons]
      by_cases hrest : Covers a n
      · simp [hrest]
      · simp only [hrest, or_false, not_false_eq_true, and_true]
        omega

theorem ascending_gapsFrom (ha : Ascending a) :
    (∀ r ∈ gapsFrom start a, start ≤ r.1) ∧ Ascending (gapsFrom start a) := by
  induction a generalizing start with
  | nil =>
    unfold gapsFrom
    split
    · exact ⟨List.forall_mem_singleton.mpr (Nat.le_refl start), Ascending.nil.cons ‹_› nofun⟩
    · exact ⟨nofun, .nil⟩
  | cons r a ih =>
    obtain ⟨f, l⟩ := r
    obtain ⟨hle, -, ha⟩ := ha.of_cons
    unfold gapsFrom
    split
    · obtain ⟨hstarts, hascending⟩ := @ih (l + 1) ha
      have hstarts' : ∀ r ∈ gapsFrom (l + 1) a, start ≤ r.1 := by
        intro r hr
        have := hstarts r hr
        omega
      exact ⟨List.forall_mem_cons.mpr ⟨Nat.le_refl start, hstarts'⟩, hascending.cons (by omega) hstarts'⟩
    · obtain ⟨hstarts, hascending⟩ := @ih (max start (l + 1)) ha
      exact ⟨fun r hr => Nat.le_trans (Nat.le_max_left _ _) (hstarts r hr), hascending⟩

theorem ascending_compl (ha : Ascending a) : Ascending a.compl := (ascending_gapsFrom ha).2

theorem covers_compl (ha : Ascending a) (hn : n ≤ lastCodePoint) : Covers a.compl n ↔ ¬Covers a n := by
  unfold compl
  rw [covers_gapsFrom ha hn]
  exact and_iff_right (Nat.zero_le n)

/-! #### Intersection and differences -/

theorem ascending_inter (ha : Ascending a) (hb : Ascending b) : Ascending (inter a b) :=
  ascending_compl (separated_union (ascending_compl ha) (ascending_compl hb)).1

theorem covers_inter (ha : Ascending a) (hb : Ascending b) (hn : n ≤ lastCodePoint) :
    Covers (inter a b) n ↔ Covers a n ∧ Covers b n := by
  have ha' := ascending_compl ha
  have hb' := ascending_compl hb
  unfold inter
  rw [covers_compl (separated_union ha' hb').1 hn, covers_union ha' hb', covers_compl ha hn, covers_compl hb hn]
  simp only [not_or, Classical.not_not]

theorem ascending_minus (ha : Ascending a) (hb : Ascending b) : Ascending (minus a b) :=
  ascending_inter ha (ascending_compl hb)

theorem covers_minus (ha : Ascending a) (hb : Ascending b) (hn : n ≤ lastCodePoint) :
    Covers (minus a b) n ↔ Covers a n ∧ ¬Covers b n := by
  unfold minus
  rw [covers_inter ha (ascending_compl hb) hn, covers_compl hb hn]

/-- **The operations on sets are those on their members**: the search in what an operation gives finds a code point as
the members of its operands say. -/
theorem contains_operations (ha : Ascending a) (hb : Ascending b) (hn : n ≤ lastCodePoint) :
    ((union a b).contains n ↔ a.contains n ∨ b.contains n) ∧
    (a.compl.contains n ↔ ¬a.contains n) ∧
    ((inter a b).contains n ↔ a.contains n ∧ b.contains n) ∧
    ((minus a b).contains n ↔ a.contains n ∧ ¬b.contains n) ∧
    ((differ a b).contains n ↔ (a.contains n ∧ ¬b.contains n) ∨ (b.contains n ∧ ¬a.contains n)) := by
  have hab := ascending_minus ha hb
  have hba := ascending_minus hb ha
  unfold differ
  rw [contains_iff_covers (separated_union ha hb).1, contains_iff_covers (ascending_compl ha),
    contains_iff_covers (ascending_inter ha hb), contains_iff_covers hab,
    contains_iff_covers (separated_union hab hba).1, contains_iff_covers ha, contains_iff_covers hb,
    covers_union ha hb, covers_compl ha hn, covers_inter ha hb hn, covers_union hab hba, covers_minus ha hb hn,
    covers_minus hb ha hn]
  exact ⟨Iff.rfl, Iff.rfl, Iff.rfl, Iff.rfl, Iff.rfl⟩

example : union [(1, 3), (9, 9)] [(4, 5)] = [(1, 5), (9, 9)] := by cbv
example : minus [(1, 9)] [(3, 4), (9, 12)] = [(1, 2), (5, 8)] := by cbv

/-- A set of points has the points as its members. -/
theorem contains_ofPoints (points : List Nat) : (ofPoints points).contains n ↔ n ∈ points := by
  have hsorted : Ascending ((points.map fun n => (n, n)).mergeSort fun a b => a.1 ≤ b.1) := by
    constructor
    · have hordered := List.pairwise_mergeSort starts_trans starts_total (points.map fun n => (n, n))
      exact hordered.imp of_decide_eq_true
    · intro r hr
      obtain ⟨m, -, rfl⟩ := List.mem_map.mp (List.mem_mergeSort.mp hr)
      exact Nat.le_refl m
  unfold ofPoints
  rw [contains_iff_covers (separated_joined hsorted).1, covers_joined hsorted]
  simp only [Covers, List.mem_mergeSort, List.mem_map]
  constructor
  · rintro ⟨r, ⟨m, hm, rfl⟩, hle, hle'⟩
    obtain rfl : m = n := Nat.le_antisymm hle hle'
    exact hm
  · intro h
    exact ⟨(n, n), ⟨n, h, rfl⟩, Nat.le_refl n, Nat.le_refl n⟩

end Ranges

end DocumentQuery.Text
