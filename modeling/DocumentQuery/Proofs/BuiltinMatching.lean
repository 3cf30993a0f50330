import DocumentQuery.BuiltinEngine.Regex
import DocumentQuery.Proofs.PatternLanguage

/-! # What a regular expression matches

`Regex.ends` computes where matches end, from a list of positions at a time and with a search that stops when no new
position is found.  `Regex.Matches` says the same of two positions at a time and without a search: a sequence matches
a stretch that can be cut in two, a repetition one that can be cut in as many as it allows.

The search for a repetition visits the positions in rounds (`Regex.mem_reach_iff`).  Matches never end in front of
their start, so the rounds that advance are at most as many as the text has characters (`Pattern.Steps.exists_short`),
and the search misses nothing: `Regex.ends` finds the ends of all matches and no others (`Regex.mem_ends_iff`). -/

namespace DocumentQuery.BuiltinEngine

open Pattern (Steps)

namespace Regex

/-! ### Matches between two positions -/

/-- The regular expression matches the stretch of the text between two positions.  A repetition takes up its least
number of rounds, and then so many more as it allows. -/
def Matches (text : Array Char) : Regex → Nat → Nat → Prop
  | empty => fun p q => p = q
  | look l => fun p q => p = q ∧ l.holdsAt text p
  | chars s => fun p q => q = p + 1 ∧ ∃ c, text[p]? = some c ∧ s.contains c.toNat
  | seq a b => fun p q => ∃ m, a.Matches text p m ∧ b.Matches text m q
  | alt a b => fun p q => a.Matches text p q ∨ b.Matches text p q
  | repeated r least most => fun p q =>
    ∃ more, (∀ n ∈ most, more ≤ n - least) ∧ Steps (r.Matches text) (least + more) p q
  | group r => r.Matches text

/-- The regular expression matches some stretch of the text. -/
def MatchesIn (r : Regex) (text : Array Char) : Prop := ∃ p q, p ≤ text.size ∧ r.Matches text p q

/-- One position is not behind another, and is the same or still in the text. -/
def Advances (text : Array Char) (p q : Nat) : Prop := p ≤ q ∧ (q = p ∨ q ≤ text.size)

theorem Advances.refl (text : Array Char) (p : Nat) : Advances text p p := ⟨Nat.le_refl p, .inl rfl⟩

theorem Advances.trans {text : Array Char} {p m q : Nat} (hpm : Advances text p m) (hmq : Advances text m q) :
    Advances text p q := by
  unfold Advances at *
  omega

/-- A match ends at its start or behind it, and inside the text. -/
theorem Matches.advances {text : Array Char} {r : Regex} {p q : Nat} (h : r.Matches text p q) :
    Advances text p q := by
  induction r generalizing p q with
  | empty =>
      obtain rfl : p = q := h
      exact .refl text p
  | look l =>
      obtain ⟨rfl, -⟩ : p = q ∧ l.holdsAt text p := h
      exact .refl text p
  | chars s =>
      obtain ⟨rfl, c, hc, -⟩ : q = p + 1 ∧ ∃ c, text[p]? = some c ∧ s.contains c.toNat := h
      have hp : p < text.size := (Array.getElem?_eq_some_iff.mp hc).1
      exact ⟨by omega, .inr (by omega)⟩
  | seq a b iha ihb =>
      obtain ⟨m, hm, hq⟩ := h
      exact (iha hm).trans (ihb hq)
  | alt a b iha ihb =>
      rcases h with h | h
      · exact iha h
      · exact ihb h
  | repeated r least most ih =>
      obtain ⟨more, -, hsteps⟩ := h
      exact hsteps.of_step (Advances.refl text) Advances.trans ih
  | group r ih => exact ih h

/-! ### The search for a repetition -/

section search

variable {step : List Nat → List Nat} {R : Nat → Nat → Prop}

theorem mem_iterate_iff (hstep : ∀ ps q, q ∈ step ps ↔ ∃ p ∈ ps, R p q) (n : Nat) (ps : List Nat) (q : Nat) :
    q ∈ iterate step n ps ↔ ∃ p ∈ ps, Steps R n p q := by
  induction n generalizing ps with
  | zero => simp [iterate, Steps]
  | succ n ih =>
      unfold iterate
      split_ifs with hps
      · simp [hps]
      · simp only [ih, hstep, Steps]
        constructor
        · rintro ⟨m, ⟨p, hp, hm⟩, hq⟩
          exact ⟨p, hp, m, hm, hq⟩
        · rintro ⟨p, hp, m, hm, hq⟩
          exact ⟨m, ⟨p, hp, hm⟩, hq⟩

/-- The rounds of the search add up to all steps, as long as every step from an older position leads to one that has
been seen. -/
theorem mem_reach_iff (hstep : ∀ ps q, q ∈ step ps ↔ ∃ p ∈ ps, R p q) (n : Nat) {newest seen : List Nat}
    (hnewest : ∀ p ∈ newest, p ∈ seen) (hold : ∀ p ∈ seen, p ∉ newest → ∀ q, R p q → q ∈ seen) (q : Nat) :
    q ∈ reach step n newest seen ↔ ∃ k, k ≤ n ∧ ∃ p ∈ seen, Steps R k p q := by
  induction n generalizing newest seen with
  | zero =>
      constructor
      · intro hq
        exact ⟨0, Nat.le_refl 0, q, hq, rfl⟩
      · rintro ⟨k, hk, p, hp, hsteps⟩
        obtain rfl : k = 0 := by omega
        obtain rfl : p = q := hsteps
        exact hp
  | succ n ih =>
      unfold reach
      dsimp only
      set fresh := (step newest).filter fun p => !seen.contains p with hfresh
      have hmem : ∀ {m}, m ∈ fresh ↔ m ∈ step newest ∧ m ∉ seen := by
        intro m
        simp [hfresh]
      -- One step from a position that has been seen leads to another one or to a fresh one.
      have hnext : ∀ p ∈ seen, ∀ m, R p m → m ∈ seen ++ fresh := by
        intro p hp m hm
        by_cases hseen : m ∈ seen
        · exact List.mem_append_left fresh hseen
        · have hpn : p ∈ newest := by
            by_contra hpn
            exact hseen (hold p hp hpn m hm)
          exact List.mem_append_right seen (hmem.mpr ⟨(hstep newest m).mpr ⟨p, hpn, hm⟩, hseen⟩)
      split_ifs with hnone
      · rw [hnone, List.append_nil] at hnext
        constructor
        · intro hq
          exact ⟨0, Nat.zero_le _, q, hq, rfl⟩
        · rintro ⟨k, -, p, hp, hsteps⟩
          exact hsteps.of_step (P := fun p q => p ∈ seen → q ∈ seen) (fun _ h => h) (fun hpm hmq h => hmq (hpm h))
            (fun hR h => hnext _ h _ hR) hp
      · have hfreshSeen : ∀ p ∈ fresh, p ∈ seen ++ fresh := fun p hp => List.mem_append_right seen hp
        have hclosed : ∀ p ∈ seen ++ fresh, p ∉ fresh → ∀ q, R p q → q ∈ seen ++ fresh := by
          intro p hp hpf
          exact hnext p ((List.mem_append.mp hp).resolve_right hpf)
        rw [ih hfreshSeen hclosed]
        constructor
        · rintro ⟨k, hk, p, hp, hsteps⟩
          rcases List.mem_append.mp hp with hp | hp
          · exact ⟨k, by omega, p, hp, hsteps⟩
          · obtain ⟨p', hp', hstep'⟩ := (hstep newest p).mp (hmem.mp hp).1
            exact ⟨k + 1, by omega, p', hnewest p' hp', p, hstep', hsteps⟩
        · rintro ⟨k, hk, p, hp, hsteps⟩
          cases k with
          | zero => exact ⟨0, Nat.zero_le _, p, List.mem_append_left fresh hp, hsteps⟩
          | succ k =>
              obtain ⟨m, hm, hq⟩ := hsteps
              exact ⟨k, by omega, m, hnext p hp m hm, hq⟩

end search

/-! ### The ends that are found -/

/-- **The ends that are found are those of matches.** -/
theorem mem_ends_iff (text : Array Char) (r : Regex) (ps : List Nat) (q : Nat) :
    q ∈ ends text r ps ↔ ∃ p ∈ ps, r.Matches text p q := by
  induction r generalizing ps q with
  | empty => simp [ends, Matches]
  | look l => simp [ends, Matches]
  | chars s =>
      simp only [ends, Matches, List.mem_filterMap, Option.bind_eq_some_iff, Option.ite_none_right_eq_some,
        Option.some_inj]
      constructor
      · rintro ⟨p, hp, c, hc, hs, rfl⟩
        exact ⟨p, hp, rfl, c, hc, hs⟩
      · rintro ⟨p, hp, rfl, c, hc, hs⟩
        exact ⟨p, hp, c, hc, hs, rfl⟩
  | seq a b iha ihb =>
      simp only [ends, Matches, ihb, iha]
      constructor
      · rintro ⟨m, ⟨p, hp, hm⟩, hq⟩
        exact ⟨p, hp, m, hm, hq⟩
      · rintro ⟨p, hp, m, hm, hq⟩
        exact ⟨m, ⟨p, hp, hm⟩, hq⟩
  | alt a b iha ihb =>
      have hsplit : q ∈ ends text (alt a b) ps ↔ q ∈ ends text a ps ∨ q ∈ ends text b ps := by
        simp only [ends, List.mem_append, List.mem_filter, Bool.not_eq_true', List.contains_eq_mem,
          decide_eq_false_iff_not]
        tauto
      rw [hsplit, iha, ihb, ← exists_or]
      simp only [Matches, ← and_or_left]
  | repeated r least most ih =>
      have hstart : ∀ {m}, m ∈ iterate (ends text r) least ps ↔ ∃ p ∈ ps, Steps (r.Matches text) least p m :=
        mem_iterate_iff ih least ps _
      have hself : ∀ p ∈ iterate (ends text r) least ps, p ∈ iterate (ends text r) least ps := fun _ h => h
      simp only [ends, Matches]
      rw [mem_reach_iff ih _ hself fun p hp hnot => absurd hp hnot]
      constructor
      · rintro ⟨k, hk, m, hm, hsteps⟩
        obtain ⟨p, hp, hleast⟩ := hstart.mp hm
        refine ⟨p, hp, k, fun n hn => ?_, Steps.add_iff.mpr ⟨m, hleast, hsteps⟩⟩
        obtain rfl : most = some n := hn
        exact Nat.le_trans hk (Nat.min_le_left _ _)
      · rintro ⟨p, hp, more, hmost, hsteps⟩
        obtain ⟨m, hleast, hmore⟩ := Steps.add_iff.mp hsteps
        -- The rounds that advance fit into the text.
        obtain ⟨k, hk, hle, hshort⟩ := hmore.exists_short fun h => h.advances.1
        have hin : Advances text m q :=
          hmore.of_step (Advances.refl text) Advances.trans Matches.advances
        refine ⟨k, ?_, m, hstart.mpr ⟨p, hp, hleast⟩, hshort⟩
        have hsize : k ≤ text.size + 1 := by
          have := hin.2
          omega
        cases most with
        | none => exact hsize
        | some n => exact Nat.le_min.mpr ⟨Nat.le_trans hk (hmost n rfl), hsize⟩
  | group r ih => exact ih ps q

/-- **The search for a match anywhere misses nothing.** -/
theorem isMatch_iff (r : Regex) (text : String) : r.isMatch text ↔ r.MatchesIn text.toList.toArray := by
  unfold isMatch MatchesIn
  dsimp only
  rw [decide_eq_true_iff]
  constructor
  · intro h
    obtain ⟨q, hq⟩ := List.exists_mem_of_ne_nil _ h
    obtain ⟨p, hp, hpq⟩ := (mem_ends_iff _ r _ q).mp hq
    have hlt := List.mem_range.mp hp
    exact ⟨p, q, by omega, hpq⟩
  · rintro ⟨p, q, hp, hpq⟩
    have hrange := List.mem_range.mpr (Nat.lt_succ_of_le hp)
    exact List.ne_nil_of_mem ((mem_ends_iff _ r _ q).mpr ⟨p, hrange, hpq⟩)

/-! ### Matches of composed expressions -/

section composed

variable {text : Array Char} {r : Regex} {rs : List Regex} {p q : Nat}

/-- A sequence matches as its first part and then the others. -/
theorem matches_sequence_cons :
    (sequence (r :: rs)).Matches text p q ↔ ∃ m, r.Matches text p m ∧ (sequence rs).Matches text m q := by
  cases rs with
  | nil => simp [sequence, Matches]
  | cons s rs => rfl

/-- A sequence matches as all its parts but the last and then the last. -/
theorem matches_sequence_concat :
    (sequence (rs ++ [r])).Matches text p q ↔ ∃ m, (sequence rs).Matches text p m ∧ r.Matches text m q := by
  induction rs generalizing p with
  | nil => simp [sequence, Matches]
  | cons s rs ih =>
      rw [List.cons_append, matches_sequence_cons]
      simp only [matches_sequence_cons, ih]
      constructor
      · rintro ⟨m, hm, m', hm', hq⟩
        exact ⟨m', ⟨m, hm, hm'⟩, hq⟩
      · rintro ⟨m', ⟨m, hm, hm'⟩, hq⟩
        exact ⟨m, hm, m', hm', hq⟩

/-- A choice matches as one of its branches. -/
theorem matches_choice_iff (h : rs ≠ []) : (choice rs).Matches text p q ↔ ∃ r ∈ rs, r.Matches text p q := by
  induction rs with
  | nil => exact absurd rfl h
  | cons r rs ih =>
      cases rs with
      | nil => simp [choice]
      | cons s rs =>
          show r.Matches text p q ∨ (choice (s :: rs)).Matches text p q ↔ _
          rw [ih (List.cons_ne_nil s rs)]
          simp only [List.mem_cons, exists_eq_or_imp]

/-- What takes up nothing matches only where it stands. -/
theorem Matches.eq_of_takesNothing (hr : r.takesNothing) (h : r.Matches text p q) : p = q := by
  induction r generalizing p q with
  | empty => exact h
  | look l => exact h.1
  | chars s => cases hr
  | seq a b iha ihb =>
      obtain ⟨ha, hb⟩ := (Bool.and_eq_true _ _).mp hr
      obtain ⟨m, hm, hq⟩ := h
      exact (iha ha hm).trans (ihb hb hq)
  | alt a b iha ihb =>
      obtain ⟨ha, hb⟩ := (Bool.and_eq_true _ _).mp hr
      exact h.elim (iha ha) (ihb hb)
  | repeated r least most ih =>
      obtain ⟨more, hmost, hsteps⟩ := h
      rcases (Bool.or_eq_true _ _).mp hr with hzero | hr
      · obtain ⟨rfl, rfl⟩ : least = 0 ∧ most = some 0 := by simpa using hzero
        obtain rfl : more = 0 := Nat.le_zero.mp (hmost 0 rfl)
        exact hsteps
      · exact hsteps.of_step (fun _ => rfl) Eq.trans (ih hr)
  | group r ih => exact ih hr h

/-- A repetition in simpler form where its bounds leave no choice. -/
theorem matches_bounded_iff {least : Nat} {most : Option Nat} (hbounds : ∀ n ∈ most, least ≤ n) :
    (if most = some 0 then empty else if least = 1 ∧ most = some 1 then r else repeated r least most).Matches text p q ↔
      ∃ k, least ≤ k ∧ (∀ n ∈ most, k ≤ n) ∧ Steps (r.Matches text) k p q := by
  split_ifs with hnone hone
  · subst hnone
    obtain rfl : least = 0 := Nat.le_zero.mp (hbounds 0 rfl)
    constructor
    · intro h
      exact ⟨0, Nat.le_refl 0, fun _ _ => Nat.zero_le _, h⟩
    · rintro ⟨k, -, hk, hsteps⟩
      obtain rfl := Nat.le_zero.mp (hk 0 rfl)
      exact hsteps
  · obtain ⟨rfl, rfl⟩ := hone
    constructor
    · intro h
      exact ⟨1, Nat.le_refl 1, fun n hn => Nat.le_of_eq (Option.some.inj hn), q, h, rfl⟩
    · rintro ⟨k, hk, hk', hsteps⟩
      obtain rfl := Nat.le_antisymm (hk' 1 rfl) hk
      obtain ⟨m, hm, rfl⟩ := hsteps
      exact hm
  · constructor
    · rintro ⟨more, hmore, hsteps⟩
      refine ⟨least + more, Nat.le_add_right _ _, fun n hn => ?_, hsteps⟩
      have hle := hmore n hn
      have hbound := hbounds n hn
      omega
    · rintro ⟨k, hk, hk', hsteps⟩
      obtain ⟨more, rfl⟩ := Nat.exists_eq_add_of_le hk
      refine ⟨more, fun n hn => ?_, hsteps⟩
      have hle := hk' n hn
      omega

/-- Of steps that stay where they are one is as good as many. -/
theorem exists_steps_iff_of_stationary {R : Nat → Nat → Prop} (hR : ∀ {p q}, R p q → p = q) {least : Nat}
    {most : Option Nat} (hbounds : ∀ n ∈ most, least ≤ n) :
    (∃ k, min least 1 ≤ k ∧ (∀ n ∈ some (min (most.getD 1) 1), k ≤ n) ∧ Steps R k p q) ↔
      ∃ k, least ≤ k ∧ (∀ n ∈ most, k ≤ n) ∧ Steps R k p q := by
  have hmany {p : Nat} (hstep : R p p) (k : Nat) : Steps R k p p := by
    induction k with
    | zero => rfl
    | succ k ih => exact ⟨p, hstep, ih⟩
  constructor
  · rintro ⟨k, hleast, hmost, hsteps⟩
    have hk := hmost _ rfl
    obtain rfl | rfl : k = 0 ∨ k = 1 := by omega
    · exact ⟨0, by omega, fun n _ => Nat.zero_le n, hsteps⟩
    · obtain ⟨m, hstep, rfl⟩ := hsteps
      obtain rfl := hR hstep
      refine ⟨max least 1, Nat.le_max_left _ _, fun n hn => ?_, hmany hstep _⟩
      have hle := hbounds n hn
      obtain rfl : most = some n := hn
      rw [Option.getD_some] at hk
      omega
  · rintro ⟨k, hleast, hmost, hsteps⟩
    cases k with
    | zero => exact ⟨0, by omega, fun n _ => Nat.zero_le n, hsteps⟩
    | succ k =>
        have hpq : p = q := hsteps.of_step (fun _ => rfl) Eq.trans hR
        obtain ⟨m, hstep, -⟩ := hsteps
        refine ⟨1, Nat.min_le_right _ _, fun n hn => ?_, m, hstep, (hR hstep).symm.trans hpq⟩
        obtain rfl : min (most.getD 1) 1 = n := Option.some.inj hn
        cases most with
        | none => exact Nat.le_refl 1
        | some n =>
            have hle := hmost n rfl
            rw [Option.getD_some]
            omega

/-- A repetition matches as its part does, some number of times in its bounds. -/
theorem matches_ofRepetition_iff {least : Nat} {most : Option Nat} (hbounds : ∀ n ∈ most, least ≤ n) :
    (ofRepetition r least most).Matches text p q ↔
      ∃ k, least ≤ k ∧ (∀ n ∈ most, k ≤ n) ∧ Steps (r.Matches text) k p q := by
  unfold ofRepetition
  dsimp only
  by_cases hr : r.takesNothing
  · rw [if_pos hr, if_pos hr, matches_bounded_iff ?_,
      exists_steps_iff_of_stationary (Matches.eq_of_takesNothing hr) hbounds]
    intro n hn
    obtain rfl : min (most.getD 1) 1 = n := Option.some.inj hn
    cases most with
    | none => exact Nat.min_le_right _ _
    | some n =>
        have hle := hbounds n rfl
        rw [Option.getD_some]
        omega
  · rw [if_neg hr, if_neg hr, matches_bounded_iff hbounds]

end composed

end Regex

end DocumentQuery.BuiltinEngine
