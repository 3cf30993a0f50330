import DocumentQuery.Function.Apply
import Mathlib.Data.List.Basic

/-! # The language of regular expressions

An engine of regular expressions is known by what its documentation says.  An expression is written with items, which
match one character of a set or look at the characters around a position, with numbers of repetitions, with groups,
with flags that are set for the rest of a group, and with bars between the branches of a group (`Pattern.Token`).  What
there is of each, how it is written and what it means is a `Pattern.Vocabulary`; only the words that programs write
themselves have names in it.  Flags that change how other signs are written are not among its settings.

A text of such signs is an expression if its groups are well nested (`Pattern.WellNested`) and its words are in order
(`Pattern.Proper`).  Well nested signs have a tree (`Pattern.exists_signTree`), which says what the expression matches
(`Pattern.SignTree.HasMatch`).  An engine is `Documented` if it builds exactly these texts, up to its limits, and
tests for a match of their trees. -/

namespace DocumentQuery.Pattern

/-! ### Words and signs -/

/-- What an item matches: one character that passes a test, or nothing at all between two characters that pass one; at
an end of the text there is none. -/
inductive Meaning where
  | one (test : Char → Bool)
  | look (test : Option Char → Option Char → Bool)

/-- The words of an engine's expressions, with their texts and meanings. -/
structure Vocabulary where
  /-- What can stand at one place of an expression, such as a character, a class, or a word boundary. -/
  Item : Type
  /-- How often something can be repeated. -/
  Times : Type
  /-- What opens a group. -/
  Opening : Type
  /-- What sets flags for the rest of a group. -/
  Setting : Type
  /-- The flags that items are read under. -/
  Flags : Type
  itemText : Item → String
  timesText : Times → String
  openingText : Opening → String
  settingText : Setting → String
  /-- Whether the engine takes an item; others, such as a class whose bounds are reversed, it refuses. -/
  known : Item → Bool
  meaning : Flags → Item → Meaning
  /-- The least number of repetitions, and the greatest one if there is any. -/
  bounds : Times → Nat × Option Nat
  /-- The name of a group, which no other group may have. -/
  name? : Opening → Option String
  /-- The flags in a group, from those around it. -/
  enter : Opening → Flags → Flags
  set : Setting → Flags → Flags
  /-- The flags at the start of an expression. -/
  initial : Flags
  /-- How deep groups may be nested. -/
  depth : Nat
  dot : Item
  textStart : Item
  textEnd : Item
  /-- A character that stands for itself. -/
  quoted : Char → Item
  anyTimes : Times
  /-- A group that is nothing but a group. -/
  plainGroup : Opening
  /-- The setting that has the dot take up line ends. -/
  dotAll : Setting

/-- A sign of an expression. -/
inductive Token (v : Vocabulary) where
  | item (i : v.Item) (times : Option v.Times)
  | setting (s : v.Setting)
  | opening (o : v.Opening)
  | bar
  | closing (times : Option v.Times)

variable {v : Vocabulary}

def Vocabulary.suffix (v : Vocabulary) (times : Option v.Times) : String := (times.map v.timesText).getD ""

def Token.text : Token v → String
  | item i times => v.itemText i ++ v.suffix times
  | setting s => v.settingText s
  | opening o => v.openingText o
  | bar => "|"
  | closing times => ")" ++ v.suffix times

/-- The text of signs one after the other. -/
def textOf : List (Token v) → String
  | [] => ""
  | t :: ts => t.text ++ textOf ts

@[simp] theorem textOf_nil : textOf ([] : List (Token v)) = "" := rfl

@[simp] theorem textOf_cons (t : Token v) (ts : List (Token v)) : textOf (t :: ts) = t.text ++ textOf ts := rfl

@[simp] theorem textOf_append (ts us : List (Token v)) : textOf (ts ++ us) = textOf ts ++ textOf us := by
  induction ts with
  | nil => rw [List.nil_append, textOf_nil, String.empty_append]
  | cons t ts ih => rw [List.cons_append, textOf_cons, textOf_cons, ih, String.append_assoc]

/-! ### Nesting of groups -/

/-- How many groups are open after some signs; none if a sign closes a group where none is open. -/
def depthAfter : List (Token v) → Nat → Option Nat
  | [], d => some d
  | .opening _ :: ts, d => depthAfter ts (d + 1)
  | .closing _ :: _, 0 => none
  | .closing _ :: ts, d + 1 => depthAfter ts d
  | .item _ _ :: ts, d | .setting _ :: ts, d | .bar :: ts, d => depthAfter ts d

/-- Every group that is closed has been opened, and every group that is opened is closed. -/
def WellNested (ts : List (Token v)) : Prop := depthAfter ts 0 = some 0

instance (ts : List (Token v)) : Decidable (WellNested ts) := inferInstanceAs (Decidable (depthAfter ts 0 = some 0))

/-- The greatest number of groups that are open at once. -/
def peak : List (Token v) → Nat → Nat
  | [], d => d
  | .opening _ :: ts, d => peak ts (d + 1)
  | .closing _ :: ts, d => max d (peak ts (d - 1))
  | .item _ _ :: ts, d | .setting _ :: ts, d | .bar :: ts, d => peak ts d

theorem depthAfter_append (ts us : List (Token v)) (d : Nat) :
    depthAfter (ts ++ us) d = (depthAfter ts d).bind (depthAfter us) := by
  induction ts generalizing d with
  | nil => rfl
  | cons t ts ih =>
      cases t with
      | item i times | setting s | opening o | bar => exact ih _
      | closing times =>
          cases d with
          | zero => rfl
          | succ d => exact ih d

/-- With one more group around, signs do the same to the groups inside. -/
theorem depthAfter_succ {ts : List (Token v)} {d k : Nat} (h : depthAfter ts d = some k) :
    depthAfter ts (d + 1) = some (k + 1) := by
  induction ts generalizing d with
  | nil => exact congrArg (Option.map (· + 1)) h
  | cons t ts ih =>
      cases t with
      | item i times | setting s | opening o | bar => exact ih h
      | closing times =>
          cases d with
          | zero => cases h
          | succ d => exact ih h

theorem peak_succ_le (ts : List (Token v)) (d : Nat) : peak ts (d + 1) ≤ peak ts d + 1 := by
  induction ts generalizing d with
  | nil => exact Nat.le_refl (d + 1)
  | cons t ts ih =>
      cases t with
      | item i times | setting s | opening o | bar => exact ih _
      | closing times =>
          show max (d + 1) (peak ts d) ≤ max d (peak ts (d - 1)) + 1
          cases d with
          | zero => exact Nat.max_le.mpr ⟨Nat.le_add_left 1 _, Nat.le_succ_of_le (Nat.le_max_right _ _)⟩
          | succ d =>
              have hrest := ih d
              show max (d + 1 + 1) (peak ts (d + 1)) ≤ max (d + 1) (peak ts d) + 1
              omega

/-! ### Words in order -/

def Token.known : Token v → Bool
  | item i _ => v.known i
  | _ => true

def Token.name? : Token v → Option String
  | opening o => v.name? o
  | _ => none

/-- The names of the groups that signs open. -/
def names (ts : List (Token v)) : List String := ts.filterMap Token.name?

/-- The engine takes every item, and every name is that of one group. -/
def Proper (ts : List (Token v)) : Prop := (∀ t ∈ ts, t.known) ∧ (names ts).Nodup

/-! ### Trees of expressions -/

/-- The tree of an expression: what stands first, and the rest of its branch and the later branches. -/
inductive SignTree (v : Vocabulary) where
  | nil
  | item (i : v.Item) (times : Option v.Times) (rest : SignTree v)
  | setting (s : v.Setting) (rest : SignTree v)
  | group (o : v.Opening) (inner : SignTree v) (times : Option v.Times) (rest : SignTree v)
  | bar (rest : SignTree v)

namespace SignTree

def tokens : SignTree v → List (Token v)
  | nil => []
  | item i times rest => .item i times :: rest.tokens
  | setting s rest => .setting s :: rest.tokens
  | group o inner times rest => .opening o :: (inner.tokens ++ .closing times :: rest.tokens)
  | bar rest => .bar :: rest.tokens

def text (e : SignTree v) : String := textOf e.tokens

end SignTree

/-- Signs after which no group is open are a tree, or a tree and the closing of a group around it. -/
theorem exists_signTree_of_depthAfter (ts : List (Token v)) (d : Nat) (h : depthAfter ts d = some 0) :
    (d = 0 ∧ ∃ e : SignTree v, e.tokens = ts) ∨
      ∃ k e times us, d = k + 1 ∧ SignTree.tokens e ++ .closing times :: us = ts ∧ depthAfter us k = some 0 := by
  match ts with
  | [] => exact .inl ⟨Option.some.inj h, .nil, rfl⟩
  | .item i times :: ts =>
      rcases exists_signTree_of_depthAfter ts d h with ⟨hd, e, rfl⟩ | ⟨k, e, n, us, hd, rfl, hus⟩
      · exact .inl ⟨hd, .item i times e, rfl⟩
      · exact .inr ⟨k, .item i times e, n, us, hd, rfl, hus⟩
  | .setting s :: ts =>
      rcases exists_signTree_of_depthAfter ts d h with ⟨hd, e, rfl⟩ | ⟨k, e, n, us, hd, rfl, hus⟩
      · exact .inl ⟨hd, .setting s e, rfl⟩
      · exact .inr ⟨k, .setting s e, n, us, hd, rfl, hus⟩
  | .bar :: ts =>
      rcases exists_signTree_of_depthAfter ts d h with ⟨hd, e, rfl⟩ | ⟨k, e, n, us, hd, rfl, hus⟩
      · exact .inl ⟨hd, .bar e, rfl⟩
      · exact .inr ⟨k, .bar e, n, us, hd, rfl, hus⟩
  | .opening o :: ts =>
      rcases exists_signTree_of_depthAfter ts (d + 1) h with ⟨hd, -⟩ | ⟨k, inner, n, us, hd, rfl, hus⟩
      · exact absurd hd (Nat.succ_ne_zero d)
      · obtain rfl := Nat.succ.inj hd
        rcases exists_signTree_of_depthAfter us d hus with ⟨hd, e, rfl⟩ | ⟨k, e, m, us', hd, rfl, hus'⟩
        · exact .inl ⟨hd, .group o inner n e, rfl⟩
        · exact .inr ⟨k, .group o inner n e, m, us', hd, by simp [SignTree.tokens], hus'⟩
  | .closing times :: ts =>
      cases d with
      | zero => cases h
      | succ d => exact .inr ⟨d, .nil, times, ts, rfl, rfl, h⟩
termination_by ts.length
decreasing_by all_goals grind

/-- **WellNested signs are the signs of a tree.** -/
theorem exists_signTree {ts : List (Token v)} (h : WellNested ts) : ∃ e : SignTree v, e.tokens = ts := by
  rcases exists_signTree_of_depthAfter ts 0 h with ⟨-, he⟩ | ⟨k, -, -, -, hd, -⟩
  · exact he
  · exact absurd hd.symm (Nat.succ_ne_zero k)

/-! ### What expressions match -/

/-- So many steps of a relation lead from one position to another. -/
def Steps (R : Nat → Nat → Prop) : Nat → Nat → Nat → Prop
  | 0, p, q => p = q
  | n + 1, p, q => ∃ m, R p m ∧ Steps R n m q

namespace Steps

variable {R : Nat → Nat → Prop}

theorem add_iff {m n p q : Nat} : Steps R (m + n) p q ↔ ∃ k, Steps R m p k ∧ Steps R n k q := by
  induction m generalizing p with
  | zero => simp [Steps]
  | succ m ih =>
      rw [Nat.succ_add]
      simp only [Steps, ih]
      constructor
      · rintro ⟨x, hx, k, hk, hn⟩
        exact ⟨k, ⟨x, hx, hk⟩, hn⟩
      · rintro ⟨k, ⟨x, hx, hk⟩, hn⟩
        exact ⟨x, hx, k, hk, hn⟩

/-- What one step keeps between two positions, any number of steps keeps. -/
theorem of_step {P : Nat → Nat → Prop} (hrefl : ∀ p, P p p) (htrans : ∀ {p m q}, P p m → P m q → P p q)
    (hstep : ∀ {p q}, R p q → P p q) {n p q : Nat} (h : Steps R n p q) : P p q := by
  induction n generalizing p with
  | zero =>
      obtain rfl : p = q := h
      exact hrefl p
  | succ n ih =>
      obtain ⟨m, hm, hq⟩ := h
      exact htrans (hstep hm) (ih hq)

/-- Steps that stay where they are can be left out; the others are at most as many as the positions passed. -/
theorem exists_short (hR : ∀ {p q}, R p q → p ≤ q) {n p q : Nat} (h : Steps R n p q) :
    ∃ k, k ≤ n ∧ p + k ≤ q ∧ Steps R k p q := by
  induction n generalizing p with
  | zero =>
      obtain rfl : p = q := h
      exact ⟨0, Nat.le_refl 0, Nat.le_refl p, rfl⟩
  | succ n ih =>
      obtain ⟨m, hm, hq⟩ := h
      obtain ⟨k, hk, hle, hsteps⟩ := ih hq
      rcases Nat.eq_or_lt_of_le (hR hm) with rfl | hlt
      · exact ⟨k, by omega, hle, hsteps⟩
      · exact ⟨k + 1, by omega, by omega, m, hm, hsteps⟩

end Steps

/-- An item matches the stretch of the text between two positions. -/
def Meaning.Matches (text : List Char) : Meaning → Nat → Nat → Prop
  | one test, p, q => q = p + 1 ∧ ∃ c, text[p]? = some c ∧ test c
  | look test, p, q => q = p ∧ test (if p = 0 then none else text[p - 1]?) text[p]?

/-- One round of a relation, or as many as the number of repetitions allows. -/
def Vocabulary.Repeats (v : Vocabulary) (R : Nat → Nat → Prop) : Option v.Times → Nat → Nat → Prop
  | none, p, q => R p q
  | some n, p, q => ∃ k, (v.bounds n).1 ≤ k ∧ (∀ most ∈ (v.bounds n).2, k ≤ most) ∧ Steps R k p q

/-- The stretches of a text that the branches of an expression match: the branch that is read, and those behind it. -/
structure Reach where
  first : Nat → Nat → Prop
  later : Nat → Nat → Prop

/-- Some branch matches. -/
def Reach.Any (r : Reach) (p q : Nat) : Prop := r.first p q ∨ r.later p q

namespace SignTree

/-- What an expression under flags reaches in a text. -/
def reach (text : List Char) : v.Flags → SignTree v → Reach
  | _, nil => ⟨fun p q => p = q, fun _ _ => False⟩
  | flags, item i times rest =>
    ⟨fun p q => ∃ m, v.Repeats ((v.meaning flags i).Matches text) times p m ∧ (reach text flags rest).first m q,
      (reach text flags rest).later⟩
  | flags, setting s rest => reach text (v.set s flags) rest
  | flags, group o inner times rest =>
    ⟨fun p q => ∃ m, v.Repeats (reach text (v.enter o flags) inner).Any times p m ∧ (reach text flags rest).first m q,
      (reach text flags rest).later⟩
  | flags, bar rest => ⟨fun p q => p = q, (reach text flags rest).Any⟩

/-- Some stretch of the text matches the expression. -/
def HasMatch (e : SignTree v) (text : String) : Prop :=
  ∃ p q, p ≤ text.toList.length ∧ (e.reach text.toList v.initial).Any p q

end SignTree

/-- A position without a character before it is the start of the text. -/
theorem eq_zero_of_before_isNone {text : List Char} {p : Nat} (hp : p ≤ text.length)
    (h : (if p = 0 then none else text[p - 1]?).isNone) : p = 0 := by
  by_contra hne
  rw [if_neg hne, Option.isNone_iff_eq_none, List.getElem?_eq_none_iff] at h
  omega

theorem Meaning.Matches.le_length {text : List Char} {meaning : Meaning} {p q : Nat} (hp : p ≤ text.length)
    (h : meaning.Matches text p q) : q ≤ text.length := by
  cases meaning with
  | one test =>
      obtain ⟨rfl, c, hc, -⟩ := h
      exact (List.getElem?_eq_some_iff.mp hc).1
  | look test =>
      obtain ⟨rfl, -⟩ := h
      exact hp

theorem Vocabulary.Repeats.le_of_step {R : Nat → Nat → Prop} {n : Nat} (hR : ∀ {p q}, p ≤ n → R p q → q ≤ n)
    {times : Option v.Times} {p q : Nat} (hp : p ≤ n) (h : v.Repeats R times p q) : q ≤ n := by
  cases times with
  | none => exact hR hp h
  | some times =>
      obtain ⟨k, -, -, hsteps⟩ := h
      exact hsteps.of_step (P := fun p q => p ≤ n → q ≤ n) (fun _ h => h) (fun hpm hmq h => hmq (hpm h))
        (fun hstep h => hR h hstep) hp

/-- A match that starts in the text ends in the text. -/
theorem SignTree.any_reach_le (e : SignTree v) {flags : v.Flags} {text : List Char} {p q : Nat}
    (hp : p ≤ text.length) (h : (e.reach text flags).Any p q) : q ≤ text.length := by
  induction e generalizing flags p q with
  | nil =>
      obtain rfl : p = q := h.resolve_right id
      exact hp
  | item i times rest ih =>
      rcases h with ⟨m, hm, hrest⟩ | hlater
      · exact ih (hm.le_of_step Meaning.Matches.le_length hp) (.inl hrest)
      · exact ih hp (.inr hlater)
  | setting s rest ih => exact ih hp h
  | group o inner times rest ihInner ihRest =>
      rcases h with ⟨m, hm, hrest⟩ | hlater
      · exact ihRest (hm.le_of_step ihInner hp) (.inl hrest)
      · exact ihRest hp (.inr hlater)
  | bar rest ih =>
      rcases h with h | hlater
      · obtain rfl : p = q := h
        exact hp
      · exact ih hp hlater

/-! ### Documented engines -/

/-- The flags that programs use: those at the start, and those under which the dot takes up line ends. -/
def Vocabulary.flags (v : Vocabulary) (dotAll : Bool) : v.Flags :=
  if dotAll then v.set v.dotAll v.initial else v.initial

/-- An item that is known, is written as a text and has a meaning under the flags that programs use. -/
structure Vocabulary.Has (v : Vocabulary) (i : v.Item) (text : String) (meaning : (dotAll : Bool) → Meaning) :
    Prop where
  known : v.known i
  text : v.itemText i = text
  meaning : ∀ dotAll, v.meaning (v.flags dotAll) i = meaning dotAll

/-- What the documentation of an engine says of it, with the words that it has: the meaning of the words that programs
write themselves, how a character is written that stands for itself, and which texts of signs are the expressions. -/
structure Engine.Documented (engine : Engine) (v : Vocabulary) : Prop where
  /-- The dot is every character, but for the line feed unless the flag says so. -/
  dot : v.Has v.dot "." fun dotAll => .one fun c => dotAll || c != '\n'
  textStart : v.Has v.textStart "^" fun _ => .look fun before _ => before.isNone
  textEnd : v.Has v.textEnd "$" fun _ => .look fun _ after => after.isNone
  /-- An escaped character is the character. -/
  quoted : ∀ c, v.Has (v.quoted c) (engine.escape (String.singleton c)) fun _ => .one fun d => d == c
  anyTimes : v.timesText v.anyTimes = "*" ∧ v.bounds v.anyTimes = (0, none)
  plainGroup : v.openingText v.plainGroup = "(?:" ∧ v.name? v.plainGroup = none ∧
    ∀ flags, v.enter v.plainGroup flags = flags
  dotAll : v.settingText v.dotAll = "(?s)"
  /-- An expression is built, and tests for a match of some stretch, unless it is too large. -/
  builds : ∀ limit (e : SignTree v), Proper e.tokens → peak e.tokens 0 ≤ v.depth →
    (∃ reason, engine.build limit e.text = .error (.tooLarge reason)) ∨
      ∃ test, engine.build limit e.text = .ok test ∧ ∀ text, test text ↔ e.HasMatch text
  /-- Other signs, such as those that leave a group open or close one that is not open, are no expression. -/
  refuses : ∀ limit (ts : List (Token v)), ¬ (WellNested ts ∧ Proper ts) →
    ∃ reason, engine.build limit (textOf ts) = .error (.malformed reason)

/-! ### Patterns within limits -/

/-- Neither limit stands against a pattern in some form: the pattern as given is not too long, and what it becomes is
not too large. -/
def WithinLimits (limits : Limits) (form : String → String) (pattern : String) : Prop :=
  pattern.length ≤ limits.patternLength.toNat ∧
    ∀ reason, limits.engine.build limits.patternSize (form pattern) ≠ .error (.tooLarge reason)

/-- The engine does not call the text of an expression too large. -/
def fits : Except Refusal (String → Bool) → Bool
  | .error (.tooLarge _) => false
  | _ => true

theorem fits_iff {built : Except Refusal (String → Bool)} :
    fits built ↔ ∀ reason, built ≠ .error (.tooLarge reason) := by
  match built with
  | .ok test => exact iff_of_true rfl nofun
  | .error (.malformed reason) => exact iff_of_true rfl nofun
  | .error (.tooLarge reason) => exact iff_of_false nofun fun h => h reason rfl

instance (limits : Limits) (form : String → String) (pattern : String) :
    Decidable (WithinLimits limits form pattern) :=
  decidable_of_iff (pattern.length ≤ limits.patternLength.toNat ∧
    fits (limits.engine.build limits.patternSize (form pattern))) (and_congr Iff.rfl fits_iff)

theorem compile_of_withinLimits {limits : Limits} {form : String → String} {pattern : String}
    (h : WithinLimits limits form pattern) :
    compile limits form pattern =
      (limits.engine.build limits.patternSize (form pattern)).mapError Refusal.fault :=
  if_neg (Nat.not_lt.mpr h.1)

section documented

variable {limits : Limits} {form : String → String} {pattern : String}

/-- Within the limits an expression is built. -/
theorem Engine.Documented.exists_compile (h : limits.engine.Documented v) {e : SignTree v} (hproper : Proper e.tokens)
    (hdepth : peak e.tokens 0 ≤ v.depth) (htext : form pattern = e.text) (hlimits : WithinLimits limits form pattern) :
    ∃ test, compile limits form pattern = .ok test ∧ ∀ text, test text ↔ e.HasMatch text := by
  rw [compile_of_withinLimits hlimits]
  rcases h.builds limits.patternSize e hproper hdepth with ⟨reason, hlarge⟩ | ⟨test, hbuild, htest⟩
  · exact absurd (htext ▸ hlarge) (hlimits.2 reason)
  · exact ⟨test, by rw [htext, hbuild]; rfl, htest⟩

/-- Within the limits signs are refused that are no expression. -/
theorem Engine.Documented.exists_fault (h : limits.engine.Documented v) {ts : List (Token v)}
    (hts : ¬ (WellNested ts ∧ Proper ts)) (htext : form pattern = textOf ts)
    (hlimits : WithinLimits limits form pattern) : ∃ fault, compile limits form pattern = .error fault := by
  rw [compile_of_withinLimits hlimits]
  obtain ⟨reason, hbuild⟩ := h.refuses limits.patternSize ts hts
  exact ⟨.malformed reason, by rw [htext, hbuild]; rfl⟩

end documented

end DocumentQuery.Pattern

namespace DocumentQuery.StringFunction

/-- The form that a function gives to its pattern, with an engine. -/
def patternForm? (engine : Pattern.Engine) : StringFunction → Option (String → String)
  | like => some (@Pattern.ofWildcards engine)
  | regexMatch => some Pattern.anchored
  | regexContains => some id
  | _ => none

/-- The outcome of a function on two strings. -/
def onTexts (limits : Limits) (f : StringFunction) (a b : String) : Outcome :=
  (Function.string f).apply limits [.value (.string a), .value (.string b)]

/-- The functions of patterns differ in the form alone. -/
theorem onTexts_of_patternForm? (limits : Limits) {f : StringFunction} {form : String → String}
    (h : f.patternForm? limits.engine = some form) (text pattern : String) :
    f.onTexts limits text pattern =
      match Pattern.compile limits form pattern with
      | .ok test => .boolean (test text)
      | .error fault => .error ⟨.string f, .invalidPattern fault⟩ := by
  have hmatched : f.onTexts limits text pattern =
      .ofResult (.string f) (matched limits form (.string text) (.string pattern)) := by
    cases f <;> cases h <;> rfl
  have hcompile : matched limits form (.string text) (.string pattern) =
      match Pattern.compile limits form pattern with
      | .ok test => .ok (.boolean (test text))
      | .error fault => .error (.invalidPattern fault) := rfl
  rw [hmatched, hcompile]
  cases Pattern.compile limits form pattern <;> rfl

end DocumentQuery.StringFunction
