import DocumentQuery.Timestamp
import Mathlib.Tactic.IntervalCases
import Mathlib.Tactic.Ring

/-! # The calendar, and the text of a timestamp

A calendar is said by the lengths of its months: the day after a date is `Date.next`.  The days up to a date can be
counted (`Date.toDays`), and the count goes up by one from a date to the next (`Date.toDays_next`).  `Date.ofDays` is
the inverse of the count (`Date.ofDays_toDays`, `Date.toDays_ofDays`), so that it goes through the dates of the calendar
one by one (`Date.ofDays_follows_calendar`).  Both directions rest on the parts of a day in its era of 400 years:
so many centuries, cycles of four years, years and days, of which the last century and the last year of a cycle can be
a day longer (`Date.Parts`).

The bounds of a valid timestamp are therefore those of the years 1 to 9999 (`valid_iff_year`), and since every field
of its text but the last has a fixed width, the text determines the timestamp (`text_injective`). -/

namespace DocumentQuery.Timestamp.Date

/-! ### Dates -/

def isLeap (year : ℤ) : Prop := year % 4 = 0 ∧ (year % 100 ≠ 0 ∨ year % 400 = 0)

instance (year : ℤ) : Decidable (isLeap year) := inferInstanceAs (Decidable (_ ∧ _))

def monthLength (year month : ℤ) : ℤ :=
  if month = 2 then if isLeap year then 29 else 28
  else if month = 4 ∨ month = 6 ∨ month = 9 ∨ month = 11 then 30
  else 31

theorem one_le_monthLength (year month : ℤ) : 1 ≤ monthLength year month := by
  unfold monthLength
  split_ifs <;> decide

theorem monthLength_le (year month : ℤ) : monthLength year month ≤ 31 := by
  unfold monthLength
  split_ifs <;> decide

/-- A day that its month has. -/
structure Valid (d : Date) : Prop where
  month : 1 ≤ d.month ∧ d.month ≤ 12
  day : 1 ≤ d.day ∧ d.day ≤ monthLength d.year d.month

theorem valid_iff {d : Date} :
    d.Valid ↔ (1 ≤ d.month ∧ d.month ≤ 12) ∧ 1 ≤ d.day ∧ d.day ≤ monthLength d.year d.month :=
  ⟨fun h => ⟨h.month, h.day⟩, fun h => ⟨h.1, h.2⟩⟩

/-- The day after. -/
def next (d : Date) : Date :=
  if d.day < monthLength d.year d.month then ⟨d.year, d.month, d.day + 1⟩
  else if d.month < 12 then ⟨d.year, d.month + 1, 1⟩
  else ⟨d.year + 1, 1, 1⟩

/-! ### Counting days -/

/-- The days before the first of March of a year, from the first of March of year 0 on. -/
def marchDay (year : ℤ) : ℤ := 365 * year + year / 4 - year / 100 + year / 400

/-- The days from the first of March of a year to the next. -/
def marchLength (year : ℤ) : ℤ := if isLeap (year + 1) then 366 else 365

/-- The days before a month, counted from March. -/
def monthDay (month : ℤ) : ℤ := (153 * month + 2) / 5

/-- The date of a day in a month of a year, both counted from March. -/
def ofMarch (year month day : ℤ) : Date :=
  if month < 10 then ⟨year, month + 3, day⟩ else ⟨year + 1, month - 9, day⟩

/-- The number of days from the start of 1970 to a date. -/
def toDays (d : Date) : ℤ :=
  if d.month ≤ 2 then marchDay (d.year - 1) + monthDay (d.month + 9) + (d.day - 1) - 719468
  else marchDay d.year + monthDay (d.month - 3) + (d.day - 1) - 719468

theorem marchDay_add_one (year : ℤ) : marchDay (year + 1) = marchDay year + marchLength year := by
  unfold marchDay marchLength
  split_ifs with h
  all_goals
    unfold isLeap at h
    omega

theorem toDays_next {d : Date} (h : d.Valid) : d.next.toDays = d.toDays + 1 := by
  obtain ⟨year, month, day⟩ := d
  obtain ⟨⟨hm, hm'⟩, hd, hd'⟩ := h
  dsimp only at hm hm' hd hd'
  unfold next
  dsimp only
  split_ifs with hday hmonth
  · unfold toDays
    dsimp only
    split_ifs <;> ring
  · have hlast : day = monthLength year month := by omega
    have hmarch := marchDay_add_one (year - 1)
    rw [marchLength, sub_add_cancel] at hmarch
    subst hlast
    interval_cases month
    all_goals simp [toDays, monthDay, monthLength]
    all_goals split_ifs at hmarch ⊢ <;> omega
  · obtain rfl : month = 12 := by omega
    have hlast : day = 31 := le_antisymm hd' (not_lt.mp hday)
    subst hlast
    simp [toDays, monthDay]
    ring

/-! ### The parts of a day -/

/-- A day in its era, as full centuries, cycles of four years, years and days.  The last cycle of a century can lack its
leap day; the last century has it, and the last year of a cycle as well. -/
structure Parts where
  century : ℤ
  cycle : ℤ
  year : ℤ
  day : ℤ
  century_bounds : 0 ≤ century ∧ century ≤ 3
  cycle_bounds : 0 ≤ cycle ∧ cycle ≤ 24
  year_bounds : 0 ≤ year ∧ year ≤ 3
  day_nonneg : 0 ≤ day
  day_lt : day < 365 ∨ day = 365 ∧ year = 3
  inCentury : 1461 * cycle + 365 * year + day < 36524 ∨ 1461 * cycle + 365 * year + day = 36524 ∧ century = 3

namespace Parts

variable (p : Parts)

/-- The day in the era. -/
def dayOfEra : ℤ := 36524 * p.century + 1461 * p.cycle + 365 * p.year + p.day

/-- The year in the era. -/
def yearOfEra : ℤ := 100 * p.century + 4 * p.cycle + p.year

theorem day_bounds : 0 ≤ p.day ∧ p.day ≤ 365 := by
  have hnonneg := p.day_nonneg
  have hlt := p.day_lt
  omega

theorem dayOfEra_bounds : 0 ≤ p.dayOfEra ∧ p.dayOfEra < 146097 := by
  obtain ⟨c, g, t, u, hc, hg, ht, hu, hu', hcentury⟩ := p
  unfold dayOfEra
  dsimp only
  omega

theorem yearOfEra_bounds : 0 ≤ p.yearOfEra ∧ p.yearOfEra < 400 := by
  obtain ⟨c, g, t, u, hc, hg, ht, hu, hu', hcentury⟩ := p
  unfold yearOfEra
  dsimp only
  omega

/-- The year is found by division. -/
theorem yearOfEra_eq :
    (p.dayOfEra - p.dayOfEra / 1460 + p.dayOfEra / 36524 - p.dayOfEra / 146096) / 365 = p.yearOfEra := by
  obtain ⟨c, g, t, u, hc, hg, ht, hu, hu', hcentury⟩ := p
  unfold dayOfEra yearOfEra
  dsimp only
  -- The centuries are as many as the divisions by a century and by an era without its last day leave.
  have hcenturies :
      (36524 * c + 1461 * g + 365 * t + u) / 36524 - (36524 * c + 1461 * g + 365 * t + u) / 146096 = c := by
    rcases hcentury with hlt | ⟨heq, rfl⟩
    · have hdiv : (36524 * c + 1461 * g + 365 * t + u) / 36524 = c :=
        ((Int.ediv_emod_unique (r := 1461 * g + 365 * t + u) (by decide)).2 ⟨by ring, by omega, hlt⟩).1
      rw [hdiv, Int.ediv_eq_zero_of_lt (by omega) (by omega), sub_zero]
    · have hday : 36524 * 3 + 1461 * g + 365 * t + u = 146096 := by omega
      rw [hday]
      decide
  -- Dividing by four short years takes away a day for every leap year so far.
  obtain ⟨e, he, hleap⟩ :
      ∃ e, (36524 * c + 1461 * g + 365 * t + u) / 1460 = 25 * c + g + e ∧ 0 ≤ u - e ∧ u - e < 365 := by
    by_cases hw : 24 * c + g + 365 * t + u < 1460
    · exact ⟨0, by omega, by omega⟩
    · exact ⟨1, by omega, by omega⟩
  refine ((Int.ediv_emod_unique (r := u - e) (by decide)).2 ⟨?_, hleap.1, hleap.2⟩).1
  rw [he]
  omega

end Parts

theorem exists_parts {n : ℤ} (h : 0 ≤ n) (h' : n < 146097) : ∃ p : Parts, p.dayOfEra = n := by
  obtain ⟨c, r, rfl, hc, hr, hr'⟩ :
      ∃ c r, n = 36524 * c + r ∧ (0 ≤ c ∧ c ≤ 3) ∧ 0 ≤ r ∧ (r < 36524 ∨ r = 36524 ∧ c = 3) := by
    by_cases hlast : n = 146096
    · exact ⟨3, 36524, by omega, by omega, by omega, by omega⟩
    · exact ⟨n / 36524, n % 36524, by omega, by omega, by omega, by omega⟩
  obtain ⟨g, s, rfl, hg, hs, hs'⟩ : ∃ g s, r = 1461 * g + s ∧ (0 ≤ g ∧ g ≤ 24) ∧ 0 ≤ s ∧ s < 1461 :=
    ⟨r / 1461, r % 1461, by omega, by omega, by omega, by omega⟩
  obtain ⟨t, u, rfl, ht, hu, hu'⟩ :
      ∃ t u, s = 365 * t + u ∧ (0 ≤ t ∧ t ≤ 3) ∧ 0 ≤ u ∧ (u < 365 ∨ u = 365 ∧ t = 3) := by
    by_cases hlast : s = 1460
    · exact ⟨3, 365, by omega, by omega, by omega, by omega⟩
    · exact ⟨s / 365, s % 365, by omega, by omega, by omega, by omega⟩
  exact ⟨⟨c, g, t, u, hc, hg, ht, hu, hu', by omega⟩, by unfold Parts.dayOfEra; ring⟩

/-! ### A date by its parts -/

theorem marchDay_of_parts (era : ℤ) (p : Parts) :
    marchDay (400 * era + p.yearOfEra) + p.day = 146097 * era + p.dayOfEra := by
  have hy := p.yearOfEra_bounds
  obtain ⟨c, g, t, u, hc, hg, ht, hu, hu', hcentury⟩ := p
  simp only [marchDay, Parts.dayOfEra, Parts.yearOfEra] at hy ⊢
  omega

/-- A day by its era and parts is found by division. -/
theorem ofDays_of_parts (era : ℤ) (p : Parts) :
    ofDays (146097 * era + p.dayOfEra - 719468) =
      ofMarch (400 * era + p.yearOfEra) ((5 * p.day + 2) / 153) (p.day - monthDay ((5 * p.day + 2) / 153) + 1) := by
  have hday := p.dayOfEra_bounds
  obtain ⟨hera, hrest⟩ : (146097 * era + p.dayOfEra) / 146097 = era ∧
      (146097 * era + p.dayOfEra) % 146097 = p.dayOfEra :=
    (Int.ediv_emod_unique (by decide)).2 ⟨add_comm _ _, hday.1, hday.2⟩
  have hyear : p.dayOfEra - (365 * p.yearOfEra + p.yearOfEra / 4 - p.yearOfEra / 100) = p.day := by
    have hmarch := marchDay_of_parts 0 p
    have hy := p.yearOfEra_bounds
    unfold marchDay at hmarch
    omega
  have hday_le := p.day_bounds
  simp only [ofDays, ofMarch, monthDay, sub_add_cancel, hera, hrest, p.yearOfEra_eq, hyear]
  split_ifs <;> simp only [mk.injEq, and_true] <;> omega

theorem exists_era_parts (n : ℤ) : ∃ era, ∃ p : Parts, n = 146097 * era + p.dayOfEra - 719468 := by
  obtain ⟨p, hp⟩ := exists_parts (Int.emod_nonneg (n + 719468) (by decide : (146097 : ℤ) ≠ 0))
    (Int.emod_lt_of_pos (n + 719468) (by decide))
  exact ⟨(n + 719468) / 146097, p, by omega⟩

theorem toDays_ofMarch {year month day : ℤ} (h : 0 ≤ month ∧ month ≤ 11) :
    (ofMarch year month day).toDays = marchDay year + monthDay month + (day - 1) - 719468 := by
  unfold ofMarch toDays
  split_ifs with hm h' h'
  · dsimp only at h'
    omega
  · simp
  · simp
  · dsimp only at h'
    omega

theorem toDays_ofDays (n : ℤ) : (ofDays n).toDays = n := by
  obtain ⟨era, p, rfl⟩ := exists_era_parts n
  have hday := p.day_bounds
  rw [ofDays_of_parts, toDays_ofMarch (by omega), ← marchDay_of_parts]
  ring

theorem valid_ofMarch {year month day : ℤ} (h : 0 ≤ month ∧ month ≤ 11) :
    (ofMarch year month day).Valid ↔
      1 ≤ day ∧ monthDay month + day ≤ if month < 11 then monthDay (month + 1) else marchLength year := by
  obtain ⟨hm, hm'⟩ := h
  rw [valid_iff]
  interval_cases month
  case «11» =>
    simp only [ofMarch, monthLength, monthDay, marchLength]
    split_ifs <;> simp at * <;> omega
  all_goals
    simp [ofMarch, monthLength, monthDay]
    try omega

theorem day_lt_marchLength (era : ℤ) (p : Parts) : p.day < marchLength (400 * era + p.yearOfEra) := by
  obtain ⟨c, g, t, u, hc, hg, ht, hu, hu', hcentury⟩ := p
  unfold marchLength isLeap Parts.yearOfEra
  dsimp only
  split_ifs <;> omega

theorem exists_parts_of_year {year day : ℤ} (h : 0 ≤ day) (h' : day < marchLength year) :
    ∃ era, ∃ p : Parts, 400 * era + p.yearOfEra = year ∧ p.day = day := by
  unfold marchLength isLeap at h'
  refine ⟨year / 400,
    ⟨year % 400 / 100, year % 100 / 4, year % 4, day, by omega, by omega, by omega, h, ?_, ?_⟩, ?_, rfl⟩
  · split_ifs at h' <;> omega
  · split_ifs at h' <;> omega
  · unfold Parts.yearOfEra
    dsimp only
    omega

theorem valid_ofDays (n : ℤ) : (ofDays n).Valid := by
  obtain ⟨era, p, rfl⟩ := exists_era_parts n
  have hday := p.day_bounds
  have hlength := day_lt_marchLength era p
  rw [ofDays_of_parts, valid_ofMarch (by omega)]
  unfold monthDay
  split_ifs <;> omega

theorem exists_eq_ofMarch {d : Date} (h : d.Valid) :
    ∃ year month, (0 ≤ month ∧ month ≤ 11) ∧ d = ofMarch year month d.day := by
  obtain ⟨year, month, day⟩ := d
  obtain ⟨⟨hm, hm'⟩, -⟩ := h
  dsimp only at hm hm' ⊢
  by_cases hlate : month ≤ 2
  · exact ⟨year - 1, month + 9, by omega, by simp [ofMarch, show ¬ month + 9 < 10 by omega]⟩
  · exact ⟨year, month - 3, by omega, by simp [ofMarch, show month - 3 < 10 by omega]⟩

theorem ofDays_toDays {d : Date} (h : d.Valid) : ofDays d.toDays = d := by
  obtain ⟨year, month, hm, hd⟩ := exists_eq_ofMarch h
  rw [hd, valid_ofMarch hm] at h
  obtain ⟨hday, hlast⟩ := h
  obtain ⟨era, p, rfl, hp⟩ :
      ∃ era, ∃ p : Parts, 400 * era + p.yearOfEra = year ∧ p.day = monthDay month + (d.day - 1) := by
    refine exists_parts_of_year ?_ ?_
    · unfold monthDay
      omega
    · have hyear : monthDay month + d.day ≤ marchLength year := by
        refine hlast.trans ?_
        unfold monthDay marchLength
        split_ifs <;> omega
      omega
  have hmonth : (5 * p.day + 2) / 153 = month := by
    rw [hp]
    unfold monthDay marchLength at *
    split_ifs at hlast <;> omega
  have hcount := marchDay_of_parts era p
  rw [hd, toDays_ofMarch hm, show marchDay (400 * era + p.yearOfEra) + monthDay month + (d.day - 1) - 719468 =
    146097 * era + p.dayOfEra - 719468 by omega, ofDays_of_parts, hmonth, hp]
  congr 1
  ring

/-! ### Day by day -/

theorem valid_next {d : Date} (h : d.Valid) : d.next.Valid := by
  obtain ⟨⟨hm, hm'⟩, hd, -⟩ := h
  unfold next
  rw [valid_iff]
  split_ifs with hday hmonth <;> dsimp only
  · omega
  · exact ⟨by omega, le_rfl, one_le_monthLength _ _⟩
  · exact ⟨by decide, le_rfl, one_le_monthLength _ _⟩

/-- The dates of the days are those of the calendar, one after the other. -/
theorem ofDays_follows_calendar :
    ofDays 0 = ⟨1970, 1, 1⟩ ∧ ∀ n, ofDays (n + 1) = (ofDays n).next ∧ (ofDays n).Valid := by
  refine ⟨by decide, fun n => ⟨?_, valid_ofDays n⟩⟩
  rw [← ofDays_toDays (valid_next (valid_ofDays n)), toDays_next (valid_ofDays n), toDays_ofDays]

example : ofDays 11016 = ⟨2000, 2, 29⟩ := by decide
example : ofDays 47541 = ⟨2100, 3, 1⟩ := by decide

theorem le_year_ofDays_iff (year n : ℤ) : year ≤ (ofDays n).year ↔ toDays ⟨year, 1, 1⟩ ≤ n := by
  obtain ⟨⟨hm, hm'⟩, hd, hd'⟩ := valid_ofDays n
  have hn := toDays_ofDays n
  generalize ofDays n = d at *
  have hday := monthLength_le d.year d.month
  unfold toDays marchDay monthDay at *
  dsimp only
  split_ifs at hn with hlate <;> rw [if_pos (by decide)] <;> constructor <;> intro h
  all_goals omega

end DocumentQuery.Timestamp.Date

namespace DocumentQuery.Timestamp

/-! ### Text -/

theorem toList_padded (width : ℕ) (n : ℤ) :
    (padded width n).toList =
      List.replicate (width - (Nat.toDigits 10 n.toNat).length) '0' ++ Nat.toDigits 10 n.toNat := by
  simp [padded]

theorem length_padded {width : ℕ} {n : ℤ} (hwidth : 0 < width) (h : n < 10 ^ width) :
    (padded width n).toList.length = width := by
  have hdigits : (Nat.toDigits 10 n.toNat).length ≤ width := by
    rw [Nat.length_toDigits_le_iff (by decide) hwidth]
    have hcast : n < ((10 ^ width : ℕ) : ℤ) := by exact_mod_cast h
    have hpos : 0 < 10 ^ width := Nat.pow_pos (by decide)
    omega
  simp [toList_padded, hdigits]

theorem ofDigitChars_padded (width : ℕ) (n : ℤ) : Nat.ofDigitChars 10 (padded width n).toList 0 = n.toNat := by
  simp [toList_padded, Nat.ofDigitChars_append, Nat.ofDigitChars_replicate_zero, Nat.ofDigitChars_ten_toDigits]

/-- A field of fixed width ends before whatever follows it. -/
theorem padded_append_inj {width : ℕ} (hwidth : 0 < width) {m n : ℤ} (hm : 0 ≤ m ∧ m < 10 ^ width)
    (hn : 0 ≤ n ∧ n < 10 ^ width) {rest rest' : List Char}
    (h : (padded width m).toList ++ rest = (padded width n).toList ++ rest') : m = n ∧ rest = rest' := by
  obtain ⟨hfield, hrest⟩ := List.append_inj h (by rw [length_padded hwidth hm.2, length_padded hwidth hn.2])
  have hvalue : m.toNat = n.toNat := by rw [← ofDigitChars_padded width m, hfield, ofDigitChars_padded]
  exact ⟨by omega, hrest⟩

/-- The nanoseconds that a fraction of a second says, by its number of digits. -/
def fractionNanos (fraction : List Char) : ℕ :=
  Nat.ofDigitChars 10 (fraction.drop 1) 0 * 10 ^ (10 - fraction.length)

theorem fractionNanos_fractionText {nanos : ℤ} (h : 0 ≤ nanos ∧ nanos < nanosPerSecond) :
    fractionNanos (fractionText nanos).toList = nanos.toNat := by
  obtain ⟨hnonneg, hlt⟩ := h
  unfold nanosPerSecond at hlt
  have hscale {places : ℕ} {n : ℤ} (hplaces : 0 < places) (hn : n < 10 ^ places) :
      fractionNanos ("." ++ padded places n).toList = n.toNat * 10 ^ (9 - places) := by
    have htext : ("." ++ padded places n).toList = '.' :: (padded places n).toList := by simp
    rw [htext, fractionNanos, List.drop_one, List.tail_cons, ofDigitChars_padded, List.length_cons,
      length_padded hplaces hn, Nat.add_sub_add_right 9 1]
  unfold fractionText
  split_ifs with hzero hmillis hmicros
  · subst hzero
    decide
  · rw [hscale (by decide) (by omega)]
    omega
  · rw [hscale (by decide) (by omega)]
    omega
  · rw [hscale (by decide) (by omega)]
    omega

/-- A valid timestamp is one whose date lies in the years 1 to 9999. -/
theorem valid_iff_year (t : Timestamp) :
    t.Valid ↔ (1 ≤ (Date.ofDays (t.seconds / 86400)).year ∧ (Date.ofDays (t.seconds / 86400)).year ≤ 9999) ∧
      0 ≤ t.nanos ∧ t.nanos < nanosPerSecond := by
  have hfirst := Date.le_year_ofDays_iff 1 (t.seconds / 86400)
  have hlast := Date.le_year_ofDays_iff 10000 (t.seconds / 86400)
  rw [show Date.toDays ⟨1, 1, 1⟩ = -719162 by decide] at hfirst
  rw [show Date.toDays ⟨10000, 1, 1⟩ = 2932897 by decide] at hlast
  unfold Valid minSeconds maxSeconds
  omega

/-- The text tells the timestamps of the years 1 to 9999 apart. -/
theorem text_injective {t t' : Timestamp} (ht : t.Valid) (ht' : t'.Valid) (h : t.text = t'.text) : t = t' := by
  obtain ⟨⟨hyear, hyear_le⟩, hnanos⟩ := (valid_iff_year t).1 ht
  obtain ⟨⟨hyear', hyear_le'⟩, hnanos'⟩ := (valid_iff_year t').1 ht'
  obtain ⟨⟨hmonth, hmonth_le⟩, hday, hday_le⟩ := Date.valid_ofDays (t.seconds / 86400)
  obtain ⟨⟨hmonth', hmonth_le'⟩, hday', hday_le'⟩ := Date.valid_ofDays (t'.seconds / 86400)
  have hlength := Date.monthLength_le (Date.ofDays (t.seconds / 86400)).year (Date.ofDays (t.seconds / 86400)).month
  have hlength' :=
    Date.monthLength_le (Date.ofDays (t'.seconds / 86400)).year (Date.ofDays (t'.seconds / 86400)).month
  replace h := congrArg String.toList h
  simp only [text, String.toList_append, List.append_assoc] at h
  obtain ⟨hyears, h⟩ := padded_append_inj (by decide) (by omega) (by omega) h
  obtain ⟨hmonths, h⟩ := padded_append_inj (by decide) (by omega) (by omega) (List.append_cancel_left h)
  obtain ⟨hdays, h⟩ := padded_append_inj (by decide) (by omega) (by omega) (List.append_cancel_left h)
  obtain ⟨hhours, h⟩ := padded_append_inj (by decide) (by omega) (by omega) (List.append_cancel_left h)
  obtain ⟨hminutes, h⟩ := padded_append_inj (by decide) (by omega) (by omega) (List.append_cancel_left h)
  obtain ⟨hseconds, h⟩ := padded_append_inj (by decide) (by omega) (by omega) (List.append_cancel_left h)
  have hfraction : t.nanos.toNat = t'.nanos.toNat := by
    rw [← fractionNanos_fractionText hnanos, ← fractionNanos_fractionText hnanos', List.append_cancel_right h]
  have hdate : t.seconds / 86400 = t'.seconds / 86400 := by
    rw [← Date.toDays_ofDays (t.seconds / 86400), ← Date.toDays_ofDays (t'.seconds / 86400)]
    simp only [Date.toDays, hyears, hmonths, hdays]
  obtain ⟨seconds, nanos⟩ := t
  obtain ⟨seconds', nanos'⟩ := t'
  dsimp only at *
  rw [mk.injEq]
  omega

example : text ⟨1, 500000000⟩ = "1970-01-01T00:00:01.500Z" := by decide

end DocumentQuery.Timestamp
