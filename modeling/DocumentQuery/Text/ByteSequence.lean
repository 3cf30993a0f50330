import DocumentQuery.Text.Ranges

/-!
# Sets of characters as sequences of bytes

The UTF-8 forms of the characters of a range are the members of a few products of byte ranges: a
`ByteSequence` gives for every byte of the form the range it lies in. `Ranges.byteSequences` splits a set into
such products, in ascending order; surrogates have no form and are left out. The products admit the forms of the
characters of the set and nothing else (`Ranges.someAdmits_byteSequences`): in one block the order of the forms
is the order of the characters, and a product between two forms is found byte by byte.
-/

namespace DocumentQuery.Text

/-- The ranges of the bytes of some characters, the first byte first. -/
abbrev ByteSequence := List (Nat × Nat)

/-- The bytes of the UTF-8 form of a character. -/
def utf8Bytes (n : Nat) : List Nat :=
  if n ≤ 0x7f then [n]
  else if n ≤ 0x7ff then [0xc0 + n / 0x40, 0x80 + n % 0x40]
  else if n ≤ 0xffff then [0xe0 + n / 0x1000, 0x80 + n / 0x40 % 0x40, 0x80 + n % 0x40]
  else [0xf0 + n / 0x40000, 0x80 + n / 0x1000 % 0x40, 0x80 + n / 0x40 % 0x40, 0x80 + n % 0x40]

/-- The bytes are those that strings are kept in. -/
theorem utf8Bytes_toNat (c : Char) : utf8Bytes c.toNat = (String.utf8EncodeChar c).map UInt8.toNat := by
  have hc : c.toNat < 0x110000 := by
    have hvalid := c.valid
    unfold UInt32.isValidChar Nat.isValidChar at hvalid
    show c.val.toNat < _
    omega
  unfold utf8Bytes String.utf8EncodeChar
  simp only [Char.toNat] at *
  generalize c.val.toNat = n at *
  split
  · simp
    omega
  · split
    · simp
      omega
    · split
      · simp
        omega
      · simp
        omega

example : utf8Bytes 0x20ac = [0xe2, 0x82, 0xac] := by decide
example : utf8Bytes 0x1f600 = [0xf0, 0x9f, 0x98, 0x80] := by decide

namespace ByteSequence

def leastTail : Nat := 0x80

def greatestTail : Nat := 0xbf

/-- Any bytes after the first, as many as given. -/
def anyTails (tails : List Nat) : ByteSequence := tails.map fun _ => (leastTail, greatestTail)

/-- Bytes after the first, from the given ones up to the greatest. -/
def tailsFrom : List Nat → List ByteSequence
  | [] => [[]]
  | b :: rest =>
    if rest.all (· = leastTail) then [(b, greatestTail) :: anyTails rest]
    else
      let above := if b < greatestTail then [(b + 1, greatestTail) :: anyTails rest] else []
      (tailsFrom rest).map ((b, b) :: ·) ++ above

/-- Bytes after the first, from the least up to the given ones. -/
def tailsUpTo : List Nat → List ByteSequence
  | [] => [[]]
  | b :: rest =>
    if rest.all (· = greatestTail) then [(leastTail, b) :: anyTails rest]
    else
      let below := if leastTail < b then [(leastTail, b - 1) :: anyTails rest] else []
      below ++ (tailsUpTo rest).map ((b, b) :: ·)

/-- The forms from one to another of the same length. -/
def between : List Nat → List Nat → List ByteSequence
  | a :: lo, b :: hi =>
    if a = b then (between lo hi).map ((a, a) :: ·)
    else
      let startsBlock := lo.all (· = leastTail)
      let endsBlock := hi.all (· = greatestTail)
      let first := if startsBlock then [] else (tailsFrom lo).map ((a, a) :: ·)
      let last := if endsBlock then [] else (tailsUpTo hi).map ((b, b) :: ·)
      let low := if startsBlock then a else a + 1
      let high := if endsBlock then b else b - 1
      first ++ (if low ≤ high then [(low, high) :: anyTails lo] else []) ++ last
  | _, _ => [[]]

/-! ### What sequences admit -/

/-- Every byte lies in its range. -/
def Admits : ByteSequence → List Nat → Prop
  | [], [] => True
  | (first, last) :: s, b :: bs => (first ≤ b ∧ b ≤ last) ∧ Admits s bs
  | _, _ => False

/-- Bytes that can stand after a first one. -/
def Tails (bs : List Nat) : Prop := ∀ b ∈ bs, leastTail ≤ b ∧ b ≤ greatestTail

@[simp] theorem tails_cons {b : Nat} {bs : List Nat} :
    Tails (b :: bs) ↔ (leastTail ≤ b ∧ b ≤ greatestTail) ∧ Tails bs :=
  List.forall_mem_cons

/-- The order of forms: the first byte in which they differ decides. -/
def AtMost : List Nat → List Nat → Prop
  | [], _ => True
  | _ :: _, [] => False
  | a :: lo, b :: hi => a < b ∨ a = b ∧ AtMost lo hi

@[simp] theorem nil_atMost (bs : List Nat) : AtMost [] bs := trivial

theorem atMost_cons_cons {a b : Nat} {lo hi : List Nat} :
    AtMost (a :: lo) (b :: hi) ↔ a < b ∨ a = b ∧ AtMost lo hi :=
  Iff.rfl

/-- Some of the sequences admits the bytes. -/
def SomeAdmits (ss : List ByteSequence) (bs : List Nat) : Prop := ∃ s ∈ ss, Admits s bs

section admits

variable {ss ts : List ByteSequence} {first last b : Nat} {bs lo hi : List Nat}

@[simp] theorem someAdmits_append : SomeAdmits (ss ++ ts) bs ↔ SomeAdmits ss bs ∨ SomeAdmits ts bs := by
  simp only [SomeAdmits, List.mem_append, or_and_right, exists_or]

@[simp] theorem not_someAdmits_nil : ¬SomeAdmits [] bs := nofun

@[simp] theorem someAdmits_singleton {s : ByteSequence} : SomeAdmits [s] bs ↔ Admits s bs := by
  simp [SomeAdmits]

@[simp] theorem someAdmits_map_cons :
    SomeAdmits (ss.map ((first, last) :: ·)) (b :: bs) ↔ (first ≤ b ∧ b ≤ last) ∧ SomeAdmits ss bs := by
  simp only [SomeAdmits, List.mem_map]
  constructor
  · rintro ⟨s, ⟨t, ht, rfl⟩, hb, hbs⟩
    exact ⟨hb, t, ht, hbs⟩
  · rintro ⟨hb, t, ht, hbs⟩
    exact ⟨_, ⟨t, ht, rfl⟩, hb, hbs⟩

@[simp] theorem not_someAdmits_map_cons_nil : ¬SomeAdmits (ss.map ((first, last) :: ·)) [] := by
  rintro ⟨s, hs, hadmits⟩
  obtain ⟨t, -, rfl⟩ := List.mem_map.mp hs
  exact hadmits

theorem admits_anyTails : Admits (anyTails lo) bs ↔ bs.length = lo.length ∧ Tails bs := by
  induction lo generalizing bs with
  | nil => cases bs <;> simp [anyTails, Admits, Tails]
  | cons a lo ih =>
    cases bs with
    | nil => simp [anyTails, Admits]
    | cons b bs =>
      show (leastTail ≤ b ∧ b ≤ greatestTail) ∧ Admits (anyTails lo) bs ↔ _
      simp only [ih, List.length_cons, tails_cons, Nat.add_right_cancel_iff]
      constructor
      · rintro ⟨hb, hlength, hbs⟩
        exact ⟨hlength, hb, hbs⟩
      · rintro ⟨hlength, hb, hbs⟩
        exact ⟨hb, hlength, hbs⟩

/-- A first byte from a range and any others; where the range is empty, no sequence need be there. -/
theorem someAdmits_range {p : Prop} [Decidable p] (hp : first ≤ last → p) :
    SomeAdmits (if p then [(first, last) :: anyTails lo] else []) (b :: bs) ↔
      (first ≤ b ∧ b ≤ last) ∧ bs.length = lo.length ∧ Tails bs := by
  split
  · rw [someAdmits_singleton]
    exact and_congr Iff.rfl admits_anyTails
  · rename_i hnot
    refine iff_of_false not_someAdmits_nil fun h => hnot (hp ?_)
    omega

theorem not_someAdmits_range_nil {p : Prop} [Decidable p] :
    ¬SomeAdmits (if p then [(first, last) :: anyTails lo] else []) [] := by
  split <;> simp [Admits]

theorem le_of_all_least (hlo : lo.all (· = leastTail)) (hbs : Tails bs) (hlength : bs.length = lo.length) :
    AtMost lo bs := by
  induction lo generalizing bs with
  | nil => exact nil_atMost bs
  | cons a lo ih =>
    cases bs with
    | nil => cases hlength
    | cons b bs =>
      simp only [List.all_cons, Bool.and_eq_true, decide_eq_true_eq] at hlo
      obtain ⟨rfl, hlo⟩ := hlo
      obtain ⟨hb, hbs⟩ := tails_cons.mp hbs
      rw [atMost_cons_cons]
      rcases Nat.eq_or_lt_of_le hb.1 with heq | hlt
      · exact .inr ⟨heq, ih hlo hbs (Nat.succ.inj hlength)⟩
      · exact .inl hlt

theorem le_of_all_greatest (hhi : hi.all (· = greatestTail)) (hbs : Tails bs) (hlength : bs.length = hi.length) :
    AtMost bs hi := by
  induction hi generalizing bs with
  | nil =>
    obtain rfl : bs = [] := List.length_eq_zero_iff.mp hlength
    exact nil_atMost []
  | cons a hi ih =>
    cases bs with
    | nil => cases hlength
    | cons b bs =>
      simp only [List.all_cons, Bool.and_eq_true, decide_eq_true_eq] at hhi
      obtain ⟨rfl, hhi⟩ := hhi
      obtain ⟨hb, hbs⟩ := tails_cons.mp hbs
      rw [atMost_cons_cons]
      rcases Nat.eq_or_lt_of_le hb.2 with heq | hlt
      · exact .inr ⟨heq, ih hhi hbs (Nat.succ.inj hlength)⟩
      · exact .inl hlt

/-- The sequences from some bytes on admit what does not come before them. -/
theorem someAdmits_tailsFrom (hlo : Tails lo) :
    SomeAdmits (tailsFrom lo) bs ↔ bs.length = lo.length ∧ Tails bs ∧ AtMost lo bs := by
  induction lo generalizing bs with
  | nil => cases bs <;> simp [tailsFrom, Admits, Tails]
  | cons a lo ih =>
    obtain ⟨ha, hlo⟩ := tails_cons.mp hlo
    cases bs with
    | nil =>
      refine iff_of_false ?_ nofun
      unfold tailsFrom
      split
      · simp [Admits]
      · simp [not_someAdmits_range_nil]
    | cons b bs =>
      have hfirst : lo.all (· = leastTail) → bs.length = lo.length → Tails bs → AtMost lo bs :=
        fun hall hlength hbs => le_of_all_least hall hbs hlength
      rw [List.length_cons, List.length_cons, Nat.add_right_cancel_iff, tails_cons, atMost_cons_cons]
      unfold tailsFrom
      split
      · rename_i hall
        rw [someAdmits_singleton]
        show (a ≤ b ∧ b ≤ greatestTail) ∧ Admits (anyTails lo) bs ↔ _
        rw [admits_anyTails]
        constructor
        · rintro ⟨⟨hab, hb⟩, hlength, hbs⟩
          refine ⟨hlength, ⟨⟨by omega, hb⟩, hbs⟩, ?_⟩
          rcases Nat.eq_or_lt_of_le hab with heq | hlt
          · exact .inr ⟨heq, hfirst hall hlength hbs⟩
          · exact .inl hlt
        · rintro ⟨hlength, ⟨⟨-, hb⟩, hbs⟩, hle⟩
          exact ⟨⟨by omega, hb⟩, hlength, hbs⟩
      · dsimp only
        have habove : SomeAdmits (if a < greatestTail then [(a + 1, greatestTail) :: anyTails lo] else []) (b :: bs) ↔
            (a + 1 ≤ b ∧ b ≤ greatestTail) ∧ bs.length = lo.length ∧ Tails bs := someAdmits_range id
        rw [someAdmits_append, someAdmits_map_cons, ih hlo, habove]
        constructor
        · rintro (⟨hab, hlength, hbs, hle⟩ | ⟨hab, hlength, hbs⟩)
          · exact ⟨hlength, ⟨by omega, hbs⟩, .inr ⟨by omega, hle⟩⟩
          · exact ⟨hlength, ⟨by omega, hbs⟩, .inl (by omega)⟩
        · rintro ⟨hlength, ⟨hb, hbs⟩, hlt | ⟨rfl, hle⟩⟩
          · exact .inr ⟨⟨hlt, hb.2⟩, hlength, hbs⟩
          · exact .inl ⟨⟨Nat.le_refl a, Nat.le_refl a⟩, hlength, hbs, hle⟩

/-- The sequences up to some bytes admit what does not come behind them. -/
theorem someAdmits_tailsUpTo (hhi : Tails hi) :
    SomeAdmits (tailsUpTo hi) bs ↔ bs.length = hi.length ∧ Tails bs ∧ AtMost bs hi := by
  induction hi generalizing bs with
  | nil => cases bs <;> simp [tailsUpTo, Admits, Tails]
  | cons a hi ih =>
    obtain ⟨ha, hhi⟩ := tails_cons.mp hhi
    cases bs with
    | nil =>
      refine iff_of_false ?_ nofun
      unfold tailsUpTo
      split
      · simp [Admits]
      · simp [not_someAdmits_range_nil]
    | cons b bs =>
      have hlast : hi.all (· = greatestTail) → bs.length = hi.length → Tails bs → AtMost bs hi :=
        fun hall hlength hbs => le_of_all_greatest hall hbs hlength
      rw [List.length_cons, List.length_cons, Nat.add_right_cancel_iff, tails_cons, atMost_cons_cons]
      unfold tailsUpTo
      split
      · rename_i hall
        rw [someAdmits_singleton]
        show (leastTail ≤ b ∧ b ≤ a) ∧ Admits (anyTails hi) bs ↔ _
        rw [admits_anyTails]
        constructor
        · rintro ⟨⟨hb, hba⟩, hlength, hbs⟩
          refine ⟨hlength, ⟨⟨hb, by omega⟩, hbs⟩, ?_⟩
          rcases Nat.eq_or_lt_of_le hba with heq | hlt
          · exact .inr ⟨heq, hlast hall hlength hbs⟩
          · exact .inl hlt
        · rintro ⟨hlength, ⟨⟨hb, -⟩, hbs⟩, hle⟩
          exact ⟨⟨hb, by omega⟩, hlength, hbs⟩
      · dsimp only
        have hpositive : 0 < leastTail := by decide
        have hbelow : SomeAdmits (if leastTail < a then [(leastTail, a - 1) :: anyTails hi] else []) (b :: bs) ↔
            (leastTail ≤ b ∧ b ≤ a - 1) ∧ bs.length = hi.length ∧ Tails bs := someAdmits_range (by omega)
        rw [someAdmits_append, someAdmits_map_cons, ih hhi, hbelow]
        constructor
        · rintro (⟨hb, hlength, hbs⟩ | ⟨hb, hlength, hbs, hle⟩)
          · exact ⟨hlength, ⟨by omega, hbs⟩, .inl (by omega)⟩
          · exact ⟨hlength, ⟨by omega, hbs⟩, .inr ⟨by omega, hle⟩⟩
        · rintro ⟨hlength, ⟨hb, hbs⟩, hlt | ⟨rfl, hle⟩⟩
          · exact .inl ⟨⟨hb.1, by omega⟩, hlength, hbs⟩
          · exact .inr ⟨⟨Nat.le_refl b, Nat.le_refl b⟩, hlength, hbs, hle⟩

/-- What lies between bytes that can stand after a first one can stand there too. -/
theorem tails_of_between (hlo : Tails lo) (hhi : Tails hi) (htail : Tails bs.tail) (hlength : bs.length = lo.length)
    (hle : AtMost lo bs) (hge : AtMost bs hi) : Tails bs := by
  cases bs with
  | nil => exact nofun
  | cons b bs =>
    cases lo with
    | nil => cases hlength
    | cons a lo =>
      cases hi with
      | nil => cases hge
      | cons c hi =>
        obtain ⟨ha, -⟩ := tails_cons.mp hlo
        obtain ⟨hc, -⟩ := tails_cons.mp hhi
        rw [atMost_cons_cons] at hle hge
        exact tails_cons.mpr ⟨by omega, htail⟩

/-- The sequences from some bytes to others of the same length admit what lies between them. -/
theorem someAdmits_between (hlength : lo.length = hi.length) (hlo : Tails lo.tail) (hhi : Tails hi.tail)
    (hle : AtMost lo hi) :
    SomeAdmits (between lo hi) bs ↔ bs.length = lo.length ∧ Tails bs.tail ∧ AtMost lo bs ∧ AtMost bs hi := by
  induction lo generalizing hi bs with
  | nil =>
    obtain rfl : hi = [] := List.length_eq_zero_iff.mp hlength.symm
    cases bs <;> simp [between, Admits, Tails]
  | cons a lo ih =>
    cases hi with
    | nil => cases hlength
    | cons b hi =>
      have hrests : lo.length = hi.length := Nat.succ.inj hlength
      rw [atMost_cons_cons] at hle
      cases bs with
      | nil =>
        refine iff_of_false ?_ nofun
        unfold between
        split
        · exact not_someAdmits_map_cons_nil
        · dsimp only
          rw [someAdmits_append, someAdmits_append]
          rintro ((h | h) | h)
          · split at h
            · exact not_someAdmits_nil h
            · exact not_someAdmits_map_cons_nil h
          · exact not_someAdmits_range_nil h
          · split at h
            · exact not_someAdmits_nil h
            · exact not_someAdmits_map_cons_nil h
      | cons c cs =>
        rw [List.length_cons, List.length_cons, Nat.add_right_cancel_iff, atMost_cons_cons,
          atMost_cons_cons]
        show _ ↔ cs.length = lo.length ∧ Tails cs ∧ _
        have htail {ds : List Nat} (hds : Tails ds) : Tails ds.tail := fun d hd => hds d (List.mem_of_mem_tail hd)
        unfold between
        split
        · rename_i hab
          subst hab
          have hrest : AtMost lo hi := (hle.resolve_left (Nat.lt_irrefl a)).2
          rw [someAdmits_map_cons, ih hrests (htail hlo) (htail hhi) hrest]
          constructor
          · rintro ⟨hc, hcs, hcstail, hle, hge⟩
            have htails : Tails cs := tails_of_between hlo hhi hcstail hcs hle hge
            exact ⟨hcs, htails, .inr ⟨by omega, hle⟩, .inr ⟨by omega, hge⟩⟩
          · rintro ⟨hcs, htails, hlow, hhigh⟩
            have hc : c = a := by omega
            refine ⟨by omega, hcs, htail htails, ?_, ?_⟩
            · exact (hlow.resolve_left (by omega)).2
            · exact (hhigh.resolve_left (by omega)).2
        · rename_i hne
          have hab : a < b := hle.resolve_right fun h => hne h.1
          have hlo : Tails lo := hlo
          have hhi : Tails hi := hhi
          have hleast : lo.all (· = leastTail) → cs.length = lo.length → Tails cs → AtMost lo cs :=
            fun hall hcs htails => le_of_all_least hall htails hcs
          have hgreatest : hi.all (· = greatestTail) → cs.length = lo.length → Tails cs → AtMost cs hi :=
            fun hall hcs htails => le_of_all_greatest hall htails (hcs.trans hrests)
          -- Where the first or the last byte begins or ends a block, it is part of the range in the middle.
          dsimp only
          rw [someAdmits_append, someAdmits_append, someAdmits_range id]
          by_cases hs : lo.all (· = leastTail)
          all_goals by_cases he : hi.all (· = greatestTail)
          all_goals
            simp only [hs, he, ↓reduceIte, someAdmits_map_cons, someAdmits_tailsFrom hlo, someAdmits_tailsUpTo hhi,
              not_someAdmits_nil, false_or, or_false, ← hrests, Bool.false_eq_true, forall_const] at hleast hgreatest ⊢
            clear ih htail hlo hhi hlength hle hs he
            grind

end admits

end ByteSequence

/-- The characters whose forms have one, two, three and four bytes. -/
def utf8Blocks : Ranges := [(0, 0x7f), (0x80, 0x7ff), (0x800, 0xd7ff), (0xe000, 0xffff), (0x10000, 0x10ffff)]

/-- The forms of the characters of a set. -/
def Ranges.byteSequences (s : Ranges) : List ByteSequence :=
  s.flatMap fun (first, last) =>
    utf8Blocks.flatMap fun (least, greatest) =>
      if max first least ≤ min last greatest then
        ByteSequence.between (utf8Bytes (max first least)) (utf8Bytes (min last greatest))
      else []

/-! ### What the forms of a set are -/

namespace ByteSequence

/-- How many numbers so many digits to the base 64 write. -/
def block : Nat → Nat
  | 0 => 1
  | l + 1 => block l * 64

theorem block_succ (l : Nat) : block (l + 1) = block l * 64 := rfl

theorem block_pos {l : Nat} : 0 < block l := by
  induction l with
  | zero => exact Nat.one_pos
  | succ l ih => exact Nat.mul_pos ih (by decide)

/-- The last digits of a number to the base 64, as bytes that stand after a first one. -/
def tailDigits : Nat → Nat → List Nat
  | 0, _ => []
  | l + 1, n => (leastTail + n / block l % 64) :: tailDigits l n

/-- A form with so many bytes after the first one, which is marked by where it starts to count. -/
def form (lead l n : Nat) : List Nat := (lead + n / block l) :: tailDigits l n

section forms

variable {lead l m n : Nat} {bs : List Nat}

theorem length_tailDigits : (tailDigits l n).length = l := by
  induction l with
  | zero => rfl
  | succ l ih => exact congrArg Nat.succ ih

theorem tails_tailDigits : Tails (tailDigits l n) := by
  induction l with
  | zero => exact nofun
  | succ l ih =>
    have hdigit := Nat.mod_lt (n / block l) (show 0 < 64 by decide)
    have hlast : greatestTail = leastTail + 63 := rfl
    exact tails_cons.mpr ⟨by omega, ih⟩

/-- Numbers with a last digit compare by what stands before it, and then by the digit. -/
theorem digit_le_iff {base x y r s : Nat} (hr : r < base) (hs : s < base) :
    r + base * x ≤ s + base * y ↔ x < y ∨ x = y ∧ r ≤ s := by
  rcases Nat.lt_trichotomy x y with hlt | rfl | hlt
  · have := Nat.mul_le_mul_left base hlt
    rw [Nat.mul_succ] at this
    omega
  · omega
  · have := Nat.mul_le_mul_left base hlt
    rw [Nat.mul_succ] at this
    omega

theorem atMost_tailDigits_iff : AtMost (tailDigits l m) (tailDigits l n) ↔ m % block l ≤ n % block l := by
  induction l with
  | zero => simp [tailDigits, block, Nat.mod_one]
  | succ l ih =>
    have hbase : 0 < block l := block_pos
    unfold tailDigits
    rw [atMost_cons_cons, ih, block_succ, Nat.mod_mul, Nat.mod_mul,
      digit_le_iff (Nat.mod_lt m hbase) (Nat.mod_lt n hbase)]
    omega

theorem atMost_form_iff : AtMost (form lead l m) (form lead l n) ↔ m ≤ n := by
  have hbase : 0 < block l := block_pos
  have hdigits := @digit_le_iff _ (m / block l) (n / block l) _ _ (Nat.mod_lt m hbase) (Nat.mod_lt n hbase)
  rw [Nat.mod_add_div, Nat.mod_add_div] at hdigits
  unfold form
  rw [atMost_cons_cons, atMost_tailDigits_iff, hdigits]
  omega

/-- Bytes that can stand after a first one are the last digits of a number. -/
theorem exists_tailDigits (hbs : Tails bs) :
    ∃ r, r < block bs.length ∧ ∀ q, tailDigits bs.length (r + block bs.length * q) = bs := by
  induction bs with
  | nil => exact ⟨0, Nat.one_pos, fun q => rfl⟩
  | cons b bs ih =>
    obtain ⟨⟨hb, hb'⟩, hbs⟩ := tails_cons.mp hbs
    obtain ⟨r, hr, hdigits⟩ := ih hbs
    have hlast : greatestTail = leastTail + 63 := rfl
    have hbase : 0 < block bs.length := block_pos
    -- The digit of the byte stands in front of the others.
    obtain ⟨d, rfl⟩ := Nat.exists_eq_add_of_le hb
    refine ⟨r + block bs.length * d, ?_, fun q => ?_⟩
    · have hle := Nat.mul_le_mul_left (block bs.length) (show d + 1 ≤ 64 by omega)
      rw [Nat.mul_succ] at hle
      rw [List.length_cons, block_succ]
      omega
    · have hnumber : r + block bs.length * d + block (bs.length + 1) * q = r + block bs.length * (d + 64 * q) := by
        rw [block_succ, Nat.mul_add, Nat.mul_assoc, Nat.add_assoc]
      have hdigit : (r + block bs.length * (d + 64 * q)) / block bs.length % 64 = d := by
        rw [Nat.add_mul_div_left _ _ hbase, Nat.div_eq_of_lt hr]
        omega
      rw [List.length_cons, hnumber]
      unfold tailDigits
      rw [hdigit, hdigits]

/-- Between two forms with one mark lie the forms of the numbers between. -/
theorem between_forms_iff :
    (bs.length = l + 1 ∧ Tails bs.tail ∧ AtMost (form lead l m) bs ∧ AtMost bs (form lead l n)) ↔
      ∃ k, m ≤ k ∧ k ≤ n ∧ bs = form lead l k := by
  constructor
  · rintro ⟨hlength, htails, hle, hge⟩
    obtain ⟨b, bs, rfl⟩ := List.exists_cons_of_length_eq_add_one hlength
    obtain rfl : bs.length = l := Nat.succ.inj hlength
    have htails : Tails bs := htails
    obtain ⟨r, hr, hdigits⟩ := exists_tailDigits htails
    have hlead : lead ≤ b := by
      rcases atMost_cons_cons.mp hle with hlt | ⟨heq, -⟩
      · exact Nat.le_trans (Nat.le_add_right lead _) (Nat.le_of_lt hlt)
      · exact heq ▸ Nat.le_add_right lead _
    obtain ⟨d, rfl⟩ := Nat.exists_eq_add_of_le hlead
    have hform : form lead bs.length (r + block bs.length * d) = (lead + d) :: bs := by
      unfold form
      rw [Nat.add_mul_div_left _ _ (block_pos), Nat.div_eq_of_lt hr, Nat.zero_add, hdigits]
    rw [← hform] at hle hge ⊢
    exact ⟨_, atMost_form_iff.mp hle, atMost_form_iff.mp hge, rfl⟩
  · rintro ⟨k, hmk, hkn, rfl⟩
    exact ⟨congrArg Nat.succ length_tailDigits, tails_tailDigits, atMost_form_iff.mpr hmk, atMost_form_iff.mpr hkn⟩

/-- The forms in one block have one mark and one length. -/
theorem exists_utf8Bytes_eq_form {least greatest : Nat} (h : (least, greatest) ∈ utf8Blocks) :
    ∃ lead l, ∀ n, least ≤ n → n ≤ greatest → utf8Bytes n = form lead l n := by
  simp only [utf8Blocks, List.mem_cons, Prod.mk.injEq, List.not_mem_nil, or_false] at h
  rcases h with ⟨rfl, rfl⟩ | ⟨rfl, rfl⟩ | ⟨rfl, rfl⟩ | ⟨rfl, rfl⟩ | ⟨rfl, rfl⟩
  · refine ⟨0, 0, fun n hn hn' => ?_⟩
    simp [utf8Bytes, form, tailDigits, block, hn']
  · refine ⟨0xc0, 1, fun n hn hn' => ?_⟩
    simp [utf8Bytes, form, tailDigits, block, leastTail, hn', show ¬n ≤ 127 by omega]
  · refine ⟨0xe0, 2, fun n hn hn' => ?_⟩
    simp [utf8Bytes, form, tailDigits, block, leastTail, show n ≤ 65535 by omega, show ¬n ≤ 127 by omega,
      show ¬n ≤ 2047 by omega]
  · refine ⟨0xe0, 2, fun n hn hn' => ?_⟩
    simp [utf8Bytes, form, tailDigits, block, leastTail, hn', show ¬n ≤ 127 by omega, show ¬n ≤ 2047 by omega]
  · refine ⟨0xf0, 3, fun n hn hn' => ?_⟩
    simp [utf8Bytes, form, tailDigits, block, leastTail, show ¬n ≤ 127 by omega, show ¬n ≤ 2047 by omega,
      show ¬n ≤ 65535 by omega]

/-- The sequences between two forms in one block admit the forms between them. -/
theorem someAdmits_between_utf8Bytes {least greatest : Nat} (h : (least, greatest) ∈ utf8Blocks) (hm : least ≤ m)
    (hmn : m ≤ n) (hn : n ≤ greatest) :
    SomeAdmits (between (utf8Bytes m) (utf8Bytes n)) bs ↔ ∃ k, m ≤ k ∧ k ≤ n ∧ bs = utf8Bytes k := by
  obtain ⟨lead, l, hform⟩ := exists_utf8Bytes_eq_form h
  have hlength (k : Nat) : (form lead l k).length = l + 1 := congrArg Nat.succ length_tailDigits
  rw [hform m hm (Nat.le_trans hmn hn), hform n (Nat.le_trans hm hmn) hn,
    someAdmits_between ((hlength m).trans (hlength n).symm) tails_tailDigits tails_tailDigits (atMost_form_iff.mpr hmn),
    hlength, between_forms_iff]
  constructor
  · rintro ⟨k, hmk, hkn, rfl⟩
    exact ⟨k, hmk, hkn, (hform k (Nat.le_trans hm hmk) (Nat.le_trans hkn hn)).symm⟩
  · rintro ⟨k, hmk, hkn, rfl⟩
    exact ⟨k, hmk, hkn, hform k (Nat.le_trans hm hmk) (Nat.le_trans hkn hn)⟩

end forms

end ByteSequence

/-- **The sequences of a set admit the forms of its characters**, and nothing else. -/
theorem Ranges.someAdmits_byteSequences (s : Ranges) (bs : List Nat) :
    ByteSequence.SomeAdmits s.byteSequences bs ↔ ∃ n, s.Covers n ∧ utf8Blocks.Covers n ∧ bs = utf8Bytes n := by
  simp only [ByteSequence.SomeAdmits, Ranges.byteSequences, List.mem_flatMap, Covers]
  constructor
  · rintro ⟨q, ⟨⟨first, last⟩, hrange, ⟨least, greatest⟩, hblock, hq⟩, hadmits⟩
    split at hq
    · rename_i hle
      obtain ⟨n, hfirst, hlast, rfl⟩ := (ByteSequence.someAdmits_between_utf8Bytes hblock (Nat.le_max_right _ _) hle
        (Nat.min_le_right _ _)).mp ⟨q, hq, hadmits⟩
      refine ⟨n, ⟨_, hrange, ?_, ?_⟩, ⟨_, hblock, ?_, ?_⟩, rfl⟩
      all_goals dsimp only
      all_goals omega
    · cases hq
  · rintro ⟨n, ⟨⟨first, last⟩, hrange, hfirst, hlast⟩, ⟨⟨least, greatest⟩, hblock, hleast, hgreatest⟩, rfl⟩
    dsimp only at hfirst hlast hleast hgreatest
    have hle : max first least ≤ min last greatest := by omega
    obtain ⟨q, hq, hadmits⟩ := (ByteSequence.someAdmits_between_utf8Bytes hblock (Nat.le_max_right first least) hle
      (Nat.min_le_right last greatest)).mpr ⟨n, by omega, by omega, rfl⟩
    exact ⟨q, ⟨_, hrange, _, hblock, by rw [if_pos hle]; exact hq⟩, hadmits⟩

example : Ranges.byteSequences [(0x7e, 0x81)] = [[(0x7e, 0x7f)], [(0xc2, 0xc2), (0x80, 0x81)]] := by decide

end DocumentQuery.Text
