import DocumentQuery.Proofs.GuardedFunctions
import DocumentQuery.Proofs.Instants
import DocumentQuery.Proofs.StrictFunctions
import Mathlib.Tactic.Ring

/-! # Shifting timestamps

Shifting a timestamp moves its instant by the amount times the length of the unit, and the outcome depends on the
instant that is reached alone (`TimestampFunction.landing`, `Expression.evaluate_shift`).  So the laws of shifting are
equations between instants: shifting back returns to the start, amounts of one unit add up, and an amount of a unit is a
multiple of it in a shorter unit.  Which names are units, and how long these are, is `TimeUnit.lengths`.

The computation runs in 128-bit words, and since an amount is a 64-bit word and a unit at most a day, it never leaves
them (`TimestampFunction.shiftedNanosGuarded_of_valid`). -/

namespace DocumentQuery

namespace TimestampFunction

/-! ### Units -/

/-- The names of the units, each with its length in nanoseconds. -/
def TimeUnit.lengths : List (String × Int) :=
  let second := Timestamp.nanosPerSecond
  let minute := 60 * second
  let hour := 60 * minute
  [("microsecond", second / 1000000), ("millisecond", second / 1000), ("second", second), ("minute", minute),
    ("hour", hour), ("day", 24 * hour)]

/-- The units that are read are those that have a length. -/
theorem TimeUnit.mem_lengths_iff {name : String} {length : Int} :
    (name, length) ∈ lengths ↔ ∃ u, ofName? name = some u ∧ u.nanos = length := by
  constructor
  · intro h
    simp only [lengths, List.mem_cons, Prod.mk.injEq, List.not_mem_nil, or_false] at h
    rcases h with ⟨rfl, rfl⟩ | ⟨rfl, rfl⟩ | ⟨rfl, rfl⟩ | ⟨rfl, rfl⟩ | ⟨rfl, rfl⟩ | ⟨rfl, rfl⟩
    all_goals exact ⟨_, rfl, rfl⟩
  · rintro ⟨u, hu, rfl⟩
    unfold ofName? at hu
    split at hu
    all_goals cases hu
    all_goals decide

theorem unitOf_string (name : String) :
    unitOf (.string name) = match TimeUnit.ofName? name with
      | some u => .ok u
      | none => .error (.invalidArgument (.unknownUnit name)) := rfl

/-! ### The instant that is reached -/

/-- The functions that shift, each with the sign of its direction. -/
def shifts : List (TimestampFunction × Int) := [(add, 1), (sub, -1)]

theorem eq_of_mem_shifts {op : TimestampFunction} {sign : Int} (h : (op, sign) ∈ shifts) :
    op = add ∧ sign = 1 ∨ op = sub ∧ sign = -1 := by
  simpa [shifts] using h

/-- The outcome of a shift to an instant. -/
def landing (op : TimestampFunction) (n : Int) : Outcome :=
  .ofResult (.timestamp op) (inRange (Timestamp.ofEpochNanos? n))

variable {op : TimestampFunction} {sign n : Int} {t t' : Timestamp}

theorem landing_eq_value_iff : landing op n = .value (.timestamp t) ↔ t.Valid ∧ t.epochNanos = n := by
  rw [← Timestamp.ofEpochNanos?_eq_some_iff, landing]
  cases Timestamp.ofEpochNanos? n <;> simp [inRange, Outcome.ofResult]

theorem landing_of_not_inSpan (h : ¬ Timestamp.InSpan n) :
    landing op n = .error ⟨.timestamp op, .timestampOutOfRange⟩ := by
  have hnone := mt Timestamp.isSome_ofEpochNanos?_iff.mp h
  rw [landing, Option.not_isSome_iff_eq_none.mp hnone]
  rfl

theorem exists_landing (h : Timestamp.InSpan n) :
    ∃ t, t.Valid ∧ t.epochNanos = n ∧ landing op n = .value (.timestamp t) := by
  obtain ⟨t, ht⟩ := Timestamp.exists_ofEpochNanos? h
  obtain ⟨hvalid, hinstant⟩ := Timestamp.ofEpochNanos?_eq_some_iff.mp ht
  exact ⟨t, hvalid, hinstant, landing_eq_value_iff.mpr ⟨hvalid, hinstant⟩⟩

theorem shiftedNanosGuarded_of_valid (h : t.Valid) (hop : (op, sign) ∈ shifts) (amount : Int64) (u : TimeUnit) :
    shiftedNanosGuarded t sign amount u = .ok (t.epochNanos + sign * amount.toInt * u.nanos) := by
  have hmemory : (Value.timestamp t).InMemory := by
    rw [Timestamp.valid_iff] at h
    unfold Value.InMemory Integer.Fits
    omega
  have hsign : sign.natAbs ≤ 1 := by
    rcases eq_of_mem_shifts hop with ⟨-, rfl⟩ | ⟨-, rfl⟩
    · decide
    · decide
  exact shiftedNanosGuarded_eq hmemory hsign amount u

end TimestampFunction

namespace Expression

open TimestampFunction

/-- A timestamp shifted by an amount of a unit. -/
def shift (op : TimestampFunction) (t : Timestamp) (unit : String) (amount : Int64) : Expression :=
  call (.timestamp op) [literal (.timestamp t), literal (.string unit), literal (.integer amount)]

variable {op : TimestampFunction} {sign length : Int} {unit : String} {t t' : Timestamp}

theorem evaluate_shift_eq_shifted (limits : Limits) (d : Document) (hop : (op, sign) ∈ shifts) (t : Timestamp)
    (unit : String) (amount : Int64) :
    (shift op t unit amount).evaluate limits d =
      .ofResult (.timestamp op) (shifted sign (.timestamp t) (.string unit) (.integer amount)) := by
  rcases eq_of_mem_shifts hop with ⟨rfl, rfl⟩ | ⟨rfl, rfl⟩
  · exact evaluate_call_of_isStrict limits d trivial rfl
  · exact evaluate_call_of_isStrict limits d trivial rfl

/-- The outcome of a shift is that of the instant that is reached. -/
theorem evaluate_shift (limits : Limits) (d : Document) (hop : (op, sign) ∈ shifts)
    (hunit : (unit, length) ∈ TimeUnit.lengths) (t : Timestamp) (amount : Int64) :
    (shift op t unit amount).evaluate limits d = landing op (t.epochNanos + sign * amount.toInt * length) := by
  obtain ⟨u, hu, rfl⟩ := TimeUnit.mem_lengths_iff.mp hunit
  rw [evaluate_shift_eq_shifted limits d hop, shifted, unitOf_string, hu]
  rfl

/-- A name without a length is no unit. -/
theorem evaluate_shift_of_not_unit (limits : Limits) (d : Document) (hop : (op, sign) ∈ shifts)
    (hunit : ∀ length, (unit, length) ∉ TimeUnit.lengths) (t : Timestamp) (amount : Int64) :
    (shift op t unit amount).evaluate limits d =
      .error ⟨.timestamp op, .invalidArgument (.unknownUnit unit)⟩ := by
  have hnone : TimeUnit.ofName? unit = none := by
    rw [Option.eq_none_iff_forall_ne_some]
    intro u hu
    exact hunit u.nanos (TimeUnit.mem_lengths_iff.mpr ⟨u, hu, rfl⟩)
  rw [evaluate_shift_eq_shifted limits d hop, shifted, unitOf_string, hnone]
  rfl

theorem evaluate_shift_eq_value_iff (limits : Limits) (d : Document) (hop : (op, sign) ∈ shifts)
    (hunit : (unit, length) ∈ TimeUnit.lengths) (amount : Int64) :
    (shift op t unit amount).evaluate limits d = .value (.timestamp t') ↔
      t'.Valid ∧ t'.epochNanos = t.epochNanos + sign * amount.toInt * length := by
  rw [evaluate_shift limits d hop hunit, landing_eq_value_iff]

/-- Shifting the other way by the same amount returns to the start. -/
theorem evaluate_shift_back (limits : Limits) (d : Document) {back : TimestampFunction} (hop : (op, sign) ∈ shifts)
    (hback : (back, -sign) ∈ shifts) (hunit : (unit, length) ∈ TimeUnit.lengths) (ht : t.Valid) {amount : Int64}
    (h : (shift op t unit amount).evaluate limits d = .value (.timestamp t')) :
    (shift back t' unit amount).evaluate limits d = .value (.timestamp t) := by
  obtain ⟨-, hinstant⟩ := (evaluate_shift_eq_value_iff limits d hop hunit amount).mp h
  rw [evaluate_shift_eq_value_iff limits d hback hunit]
  refine ⟨ht, ?_⟩
  rw [hinstant]
  ring

/-- Two shifts by amounts of one unit are one shift by their sum. -/
theorem evaluate_shift_shift (limits : Limits) (d : Document) (hop : (op, sign) ∈ shifts)
    (hunit : (unit, length) ∈ TimeUnit.lengths) {first second sum : Int64}
    (hsum : sum.toInt = first.toInt + second.toInt)
    (h : (shift op t unit first).evaluate limits d = .value (.timestamp t')) :
    (shift op t' unit second).evaluate limits d = (shift op t unit sum).evaluate limits d := by
  obtain ⟨-, hinstant⟩ := (evaluate_shift_eq_value_iff limits d hop hunit first).mp h
  rw [evaluate_shift limits d hop hunit, evaluate_shift limits d hop hunit, hinstant, hsum]
  congr 1
  ring

/-- An amount of a unit is a multiple of it in a shorter unit. -/
theorem evaluate_shift_of_multiple (limits : Limits) (d : Document) (hop : (op, sign) ∈ shifts)
    (hunit : (unit, length) ∈ TimeUnit.lengths) {smaller : String} {part k : Int}
    (hsmaller : (smaller, part) ∈ TimeUnit.lengths) (hlength : length = k * part) {amount multiple : Int64}
    (hmultiple : multiple.toInt = k * amount.toInt) (t : Timestamp) :
    (shift op t unit amount).evaluate limits d = (shift op t smaller multiple).evaluate limits d := by
  rw [evaluate_shift limits d hop hunit, evaluate_shift limits d hop hsmaller, hlength, hmultiple]
  congr 1
  ring

/-- **Shifts are exact translations.**  Adding an amount of a unit to a valid timestamp moves its instant by the amount
times the length of the unit, and subtracting moves it back by as much: to the valid timestamp of the instant that is
reached, or to an error that says that the instant is out of range.  No intermediate result leaves a 128-bit word, and
no other name is taken for a unit.  So a shift is undone by the opposite one, two amounts of a unit add up, and an
amount of a unit is a multiple of it in a unit that goes into the first one a whole number of times. -/
theorem shifts_are_exact_translations (limits : Limits) (d : Document) {t : Timestamp} (ht : t.Valid) :
    (∀ op sign, (op, sign) ∈ shifts → ∀ unit length, (unit, length) ∈ TimeUnit.lengths →
      (∀ amount : Int64,
        (Timestamp.InSpan (t.epochNanos + sign * amount.toInt * length) →
          ∃ t', t'.Valid ∧ t'.epochNanos = t.epochNanos + sign * amount.toInt * length ∧
            (shift op t unit amount).evaluate limits d = .value (.timestamp t')) ∧
        (¬ Timestamp.InSpan (t.epochNanos + sign * amount.toInt * length) →
          (shift op t unit amount).evaluate limits d = .error ⟨.timestamp op, .timestampOutOfRange⟩) ∧
        ∀ u, TimeUnit.ofName? unit = some u →
          shiftedNanosGuarded t sign amount u = .ok (t.epochNanos + sign * amount.toInt * length)) ∧
      (∀ (first second sum : Int64) (t' : Timestamp), sum.toInt = first.toInt + second.toInt →
        (shift op t unit first).evaluate limits d = .value (.timestamp t') →
          (shift op t' unit second).evaluate limits d = (shift op t unit sum).evaluate limits d) ∧
      ∀ (smaller : String) (part k : Int) (amount multiple : Int64), (smaller, part) ∈ TimeUnit.lengths →
        length = k * part → multiple.toInt = k * amount.toInt →
          (shift op t unit amount).evaluate limits d = (shift op t smaller multiple).evaluate limits d) ∧
    (∀ unit length, (unit, length) ∈ TimeUnit.lengths → ∀ (amount : Int64) (t' : Timestamp),
      ((shift .add t unit amount).evaluate limits d = .value (.timestamp t') →
        (shift .sub t' unit amount).evaluate limits d = .value (.timestamp t)) ∧
      ((shift .sub t unit amount).evaluate limits d = .value (.timestamp t') →
        (shift .add t' unit amount).evaluate limits d = .value (.timestamp t))) ∧
    ∀ op sign, (op, sign) ∈ shifts → ∀ unit, (∀ length, (unit, length) ∉ TimeUnit.lengths) → ∀ amount : Int64,
      (shift op t unit amount).evaluate limits d = .error ⟨.timestamp op, .invalidArgument (.unknownUnit unit)⟩ := by
  refine ⟨fun op sign hop unit length hunit => ⟨fun amount => ⟨fun hin => ?_, fun hout => ?_, fun u hu => ?_⟩, ?_, ?_⟩,
    fun unit length hunit amount t' => ?_,
    fun op sign hop unit hunit => evaluate_shift_of_not_unit limits d hop hunit t⟩
  · rw [evaluate_shift limits d hop hunit]
    exact exists_landing hin
  · rw [evaluate_shift limits d hop hunit]
    exact landing_of_not_inSpan hout
  · obtain ⟨v, hv, rfl⟩ := TimeUnit.mem_lengths_iff.mp hunit
    obtain rfl : v = u := Option.some.inj (hv.symm.trans hu)
    exact shiftedNanosGuarded_of_valid ht hop amount v
  · intro first second sum t' hsum
    exact evaluate_shift_shift limits d hop hunit hsum
  · intro smaller part k amount multiple hsmaller hlength hmultiple
    exact evaluate_shift_of_multiple limits d hop hunit hsmaller hlength hmultiple t
  · have hadd : (add, (1 : Int)) ∈ shifts := by decide
    have hsub : (sub, (-1 : Int)) ∈ shifts := by decide
    exact ⟨evaluate_shift_back limits d hadd hsub hunit ht, evaluate_shift_back limits d hsub hadd hunit ht⟩

/-- From the first day to the last one and back, by days and by hours.  One day more leaves the span, and so does the
least amount, which has no opposite in its word. -/
theorem shifts_are_exact_translations_across_the_span :
    let d : Document := ⟨⟨["c", "d"]⟩, [], none⟩
    let firstDay := Timestamp.earliest
    let lastDay : Timestamp := ⟨253402214400, 0⟩
    firstDay.Valid ∧ (shift .add firstDay "day" 3652058).evaluate {} d = .value (.timestamp lastDay) ∧
      (shift .sub lastDay "day" 3652058).evaluate {} d = .value (.timestamp firstDay) ∧
      (shift .add lastDay "day" 1).evaluate {} d = (shift .add firstDay "day" 3652059).evaluate {} d ∧
      (shift .add firstDay "day" 3652059).evaluate {} d = .error ⟨.timestamp .add, .timestampOutOfRange⟩ ∧
      (shift .sub firstDay "day" Int64.minValue).evaluate {} d = .error ⟨.timestamp .sub, .timestampOutOfRange⟩ ∧
      (shift .add firstDay "day" 3652058).evaluate {} d = (shift .add firstDay "hour" 87649392).evaluate {} d ∧
      (shift .add firstDay "fortnight" 1).evaluate {} d =
        .error ⟨.timestamp .add, .invalidArgument (.unknownUnit "fortnight")⟩ := by
  intro d firstDay lastDay
  have hvalid : firstDay.Valid := Timestamp.valid_earliest
  have hadd : (add, (1 : Int)) ∈ shifts := by decide
  have hsub : (sub, (-1 : Int)) ∈ shifts := by decide
  have hday : ("day", (86400000000000 : Int)) ∈ TimeUnit.lengths := by decide
  have hhour : ("hour", (3600000000000 : Int)) ∈ TimeUnit.lengths := by decide
  have hfortnight : ∀ length, ("fortnight", length) ∉ TimeUnit.lengths := by simp [TimeUnit.lengths]
  have hlast : (shift .add firstDay "day" 3652058).evaluate {} d = .value (.timestamp lastDay) :=
    (evaluate_shift_eq_value_iff {} d hadd hday 3652058).mpr (by decide)
  obtain ⟨hshifts, hback, hnames⟩ := shifts_are_exact_translations {} d hvalid
  obtain ⟨hreach, hsum, hmultiple⟩ := hshifts .add 1 hadd "day" _ hday
  obtain ⟨hleast, -⟩ := hshifts .sub (-1) hsub "day" _ hday
  exact ⟨hvalid, hlast, (hback "day" _ hday 3652058 lastDay).1 hlast, hsum 3652058 1 3652059 lastDay (by decide) hlast,
    (hreach 3652059).2.1 (by decide), (hleast Int64.minValue).2.1 (by decide),
    hmultiple "hour" _ 24 3652058 87649392 hhour (by decide) (by decide), hnames .add 1 hadd "fortnight" hfortnight 1⟩

end Expression

end DocumentQuery
