import DocumentQuery.Proofs.BuiltinLanguage
import Mathlib.Data.List.Infix

/-! # Wildcard patterns

A wildcard pattern is written out as the signs of an expression: one item for every sign, the dot for the two wildcards
and a quoted character for everything else (`Pattern.text_wildcards`).  Such an expression matches from the start of the
text to its end exactly where the reference matcher `Pattern.wildcardMatches` says so
(`Pattern.hasMatch_wildcards_iff`), by induction on the signs; a run of wildcards is a number of steps of the dot.
Signs without wildcards stand for themselves, which ties the function `like` to equality, `startsWith`, `endsWith` and
`contains`. -/

namespace DocumentQuery

namespace Pattern

/-! ### What wildcards stand for -/

/-- The reference matcher.  A percent sign takes up any run of characters, an underscore one character, and every
other sign itself; at the end of the pattern nothing may be left. -/
def wildcardMatches : List Char → List Char → Bool
  | [], text => text.isEmpty
  | sign :: signs, text =>
    if sign = '%' then text.tails.any (wildcardMatches signs)
    else match text with
      | [] => false
      | c :: rest => (sign = '_' || c = sign) && wildcardMatches signs rest

theorem wildcardMatches_run {signs text : List Char} :
    wildcardMatches ('%' :: signs) text ↔ ∃ rest, rest <:+ text ∧ wildcardMatches signs rest := by
  conv_lhs => rw [wildcardMatches.eq_def]
  dsimp only
  rw [if_pos rfl, List.any_eq_true]
  simp only [List.mem_tails]

theorem wildcardMatches_sign {sign : Char} (h : sign ≠ '%') {signs text : List Char} :
    wildcardMatches (sign :: signs) text ↔
      ∃ c rest, text = c :: rest ∧ (sign = '_' ∨ c = sign) ∧ wildcardMatches signs rest := by
  conv_lhs => rw [wildcardMatches.eq_def]
  dsimp only
  rw [if_neg h]
  cases text with
  | nil => simp
  | cons c rest => simp

/-! ### The expression of wildcards -/

section expression

variable (v : Vocabulary)

/-- What a sign of a wildcard pattern is written as, and how often. -/
def wildcardItem (sign : Char) : v.Item × Option v.Times :=
  if sign = '%' then (v.dot, some v.anyTimes) else if sign = '_' then (v.dot, none) else (v.quoted sign, none)

/-- The signs of a wildcard pattern up to the end of the text. -/
def wildcardTail : List Char → SignTree v
  | [] => .item v.textEnd none .nil
  | sign :: signs => .item (wildcardItem v sign).1 (wildcardItem v sign).2 (wildcardTail signs)

/-- A wildcard pattern as an expression, from the start of the text to its end, line ends included. -/
def wildcards (signs : List Char) : SignTree v :=
  .setting v.dotAll (.item v.textStart none (wildcardTail v signs))

theorem peak_wildcardTail (signs : List Char) : peak (wildcardTail v signs).tokens 0 = 0 := by
  induction signs with
  | nil => rfl
  | cons sign signs ih => exact ih

end expression

section engine

variable {engine : Engine} {v : Vocabulary} (h : engine.Documented v)
include h

theorem wildcardPiece_eq (sign : Char) :
    @wildcardPiece engine sign = (Token.item (wildcardItem v sign).1 (wildcardItem v sign).2).text := by
  unfold wildcardPiece wildcardItem Token.text Vocabulary.suffix
  split_ifs
  · show ".*" = v.itemText v.dot ++ v.timesText v.anyTimes
    rw [h.dot.text, h.anyTimes.1]
    rfl
  · show "." = v.itemText v.dot ++ ""
    rw [h.dot.text]
    rfl
  · show engine.escape (String.singleton sign) = v.itemText (v.quoted sign) ++ ""
    rw [(h.quoted sign).text, String.append_empty]

theorem foldl_wildcardPiece (signs : List Char) (start : String) :
    signs.foldl (fun text c => text ++ @wildcardPiece engine c) start ++ "$" =
      start ++ (wildcardTail v signs).text := by
  induction signs generalizing start with
  | nil =>
      show start ++ "$" = start ++ (v.itemText v.textEnd ++ "" ++ "")
      rw [h.textEnd.text]
      rfl
  | cons sign signs ih =>
      rw [List.foldl_cons, ih, wildcardPiece_eq h, String.append_assoc]
      rfl

/-- **The text written for wildcards is that of their expression.** -/
theorem text_wildcards (pattern : String) : @ofWildcards engine pattern = (wildcards v pattern.toList).text := by
  have htext : (wildcards v pattern.toList).text = "(?s)" ++ ("^" ++ (wildcardTail v pattern.toList).text) := by
    show v.settingText v.dotAll ++ (v.itemText v.textStart ++ "" ++ _) = _
    rw [h.dotAll, h.textStart.text]
    rfl
  unfold ofWildcards
  rw [foldl_wildcardPiece h, htext, ← String.append_assoc]
  rfl

theorem known_wildcardItem (sign : Char) : v.known (wildcardItem v sign).1 := by
  unfold wildcardItem
  split_ifs
  · exact h.dot.known
  · exact h.dot.known
  · exact (h.quoted sign).known

theorem proper_wildcardTail (signs : List Char) : Proper (wildcardTail v signs).tokens := by
  induction signs with
  | nil => exact ⟨List.forall_mem_singleton.mpr h.textEnd.known, List.nodup_nil⟩
  | cons sign signs ih => exact ⟨List.forall_mem_cons.mpr ⟨known_wildcardItem h sign, ih.1⟩, ih.2⟩

theorem proper_wildcards (signs : List Char) : Proper (wildcards v signs).tokens := by
  obtain ⟨hknown, hnames⟩ := proper_wildcardTail h signs
  exact ⟨List.forall_mem_cons.mpr ⟨rfl, List.forall_mem_cons.mpr ⟨h.textStart.known, hknown⟩⟩, hnames⟩

/-! ### Matching the expression of wildcards -/

variable {text : List Char}

theorem steps_dot {p k : Nat} (hin : p + k ≤ text.length) :
    Steps ((v.meaning (v.flags true) v.dot).Matches text) k p (p + k) := by
  rw [h.dot.meaning]
  induction k generalizing p with
  | zero => rfl
  | succ k ih =>
      have hget : text[p]? = some text[p] := List.getElem?_eq_getElem (by omega)
      have hrest := ih (p := p + 1) (by omega)
      rw [Nat.add_assoc, Nat.add_comm 1 k] at hrest
      exact ⟨p + 1, ⟨rfl, text[p], hget, rfl⟩, hrest⟩

theorem steps_dot_bounds {p q k : Nat} (hp : p ≤ text.length)
    (hsteps : Steps ((v.meaning (v.flags true) v.dot).Matches text) k p q) : p ≤ q ∧ q ≤ text.length := by
  rw [h.dot.meaning] at hsteps
  induction k generalizing p with
  | zero =>
      obtain rfl : p = q := hsteps
      exact ⟨Nat.le_refl p, hp⟩
  | succ k ih =>
      obtain ⟨m, ⟨rfl, c, hc, -⟩, hrest⟩ := hsteps
      have hlt := (List.getElem?_eq_some_iff.mp hc).1
      have hbounds := ih hlt hrest
      omega

/-- A percent sign matches every stretch. -/
theorem repeats_run_iff {p q : Nat} (hp : p ≤ text.length) :
    v.Repeats ((v.meaning (v.flags true) (wildcardItem v '%').1).Matches text) (wildcardItem v '%').2 p q ↔
      p ≤ q ∧ q ≤ text.length := by
  show (∃ k, (v.bounds v.anyTimes).1 ≤ k ∧ (∀ most ∈ (v.bounds v.anyTimes).2, k ≤ most) ∧
    Steps ((v.meaning (v.flags true) v.dot).Matches text) k p q) ↔ _
  rw [h.anyTimes.2]
  constructor
  · rintro ⟨k, -, -, hsteps⟩
    exact steps_dot_bounds h hp hsteps
  · rintro ⟨hpq, hq⟩
    obtain ⟨k, rfl⟩ := Nat.exists_eq_add_of_le hpq
    exact ⟨k, Nat.zero_le k, nofun, steps_dot h hq⟩

theorem repeats_sign_iff {sign : Char} (hrun : sign ≠ '%') {p q : Nat} :
    v.Repeats ((v.meaning (v.flags true) (wildcardItem v sign).1).Matches text) (wildcardItem v sign).2 p q ↔
      q = p + 1 ∧ ∃ c, text[p]? = some c ∧ (sign = '_' ∨ c = sign) := by
  unfold wildcardItem
  rw [if_neg hrun]
  split_ifs with hone
  · show (v.meaning (v.flags true) v.dot).Matches text p q ↔ _
    rw [h.dot.meaning]
    simp [Meaning.Matches, hone]
  · show (v.meaning (v.flags true) (v.quoted sign)).Matches text p q ↔ _
    rw [(h.quoted sign).meaning]
    simp [Meaning.Matches, hone]

/-- From a position on, signs match up to the end of the text if the reference matcher takes up what is left. -/
theorem reach_wildcardTail_iff (signs : List Char) {p : Nat} (hp : p ≤ text.length) :
    (∃ q, ((wildcardTail v signs).reach text (v.flags true)).first p q) ↔ wildcardMatches signs (text.drop p) := by
  induction signs generalizing p with
  | nil =>
      show (∃ q m, (v.meaning (v.flags true) v.textEnd).Matches text p m ∧ m = q) ↔ (text.drop p).isEmpty
      rw [h.textEnd.meaning, List.isEmpty_iff, List.drop_eq_nil_iff]
      simp [Meaning.Matches]
  | cons sign signs ih =>
      show (∃ q m, v.Repeats _ (wildcardItem v sign).2 p m ∧
        ((wildcardTail v signs).reach text (v.flags true)).first m q) ↔ _
      rw [exists_comm]
      simp only [exists_and_left]
      by_cases hrun : sign = '%'
      · subst hrun
        rw [wildcardMatches_run]
        constructor
        · rintro ⟨m, hm, hq⟩
          obtain ⟨hpm, hle⟩ := (repeats_run_iff h hp).mp hm
          obtain ⟨k, rfl⟩ := Nat.exists_eq_add_of_le hpm
          refine ⟨text.drop (p + k), ?_, (ih hle).mp hq⟩
          rw [← List.drop_drop]
          exact List.drop_suffix k _
        · rintro ⟨rest, hsuffix, hrest⟩
          obtain ⟨k, hk, rfl⟩ : ∃ k, p + k ≤ text.length ∧ rest = text.drop (p + k) := by
            refine ⟨(text.drop p).length - rest.length, ?_, ?_⟩
            · rw [List.length_drop]
              omega
            · rw [← List.drop_drop]
              exact List.suffix_iff_eq_drop.mp hsuffix
          exact ⟨p + k, (repeats_run_iff h hp).mpr ⟨Nat.le_add_right p k, hk⟩, (ih hk).mpr hrest⟩
      · rw [wildcardMatches_sign hrun]
        constructor
        · rintro ⟨m, hm, hq⟩
          obtain ⟨rfl, c, hc, hsign⟩ := (repeats_sign_iff h hrun).mp hm
          obtain ⟨hlt, hget⟩ := List.getElem?_eq_some_iff.mp hc
          refine ⟨c, text.drop (p + 1), ?_, hsign, (ih hlt).mp hq⟩
          rw [List.drop_eq_getElem_cons hlt, hget]
        · rintro ⟨c, rest, hdrop, hsign, hrest⟩
          have hlt : p < text.length := by
            by_contra hlt
            rw [List.drop_eq_nil_of_le (Nat.not_lt.mp hlt)] at hdrop
            cases hdrop
          rw [List.drop_eq_getElem_cons hlt] at hdrop
          obtain ⟨rfl, rfl⟩ := List.cons.inj hdrop
          exact ⟨p + 1, (repeats_sign_iff h hrun).mpr ⟨rfl, text[p], List.getElem?_eq_getElem hlt, hsign⟩,
            (ih hlt).mpr hrest⟩

omit h in
theorem not_later_wildcardTail (signs : List Char) (p q : Nat) :
    ¬ ((wildcardTail v signs).reach text (v.flags true)).later p q := by
  induction signs with
  | nil => exact id
  | cons sign signs ih => exact ih

/-- **What wildcards stand for is matched as the reference matcher does.** -/
theorem hasMatch_wildcards_iff (signs : List Char) (s : String) :
    (wildcards v signs).HasMatch s ↔ wildcardMatches signs s.toList := by
  have hstart (p m : Nat) : (v.meaning (v.flags true) v.textStart).Matches s.toList p m ↔
      m = p ∧ (if p = 0 then none else s.toList[p - 1]?).isNone := by
    rw [h.textStart.meaning]
    rfl
  have hsigns := reach_wildcardTail_iff h signs (Nat.zero_le s.toList.length)
  rw [List.drop_zero] at hsigns
  rw [← hsigns]
  constructor
  · rintro ⟨p, q, hp, ⟨m, hm, hq⟩ | hlater⟩
    · obtain ⟨rfl, hbefore⟩ := (hstart p m).mp hm
      obtain rfl := eq_zero_of_before_isNone hp hbefore
      exact ⟨q, hq⟩
    · exact absurd hlater (not_later_wildcardTail signs p q)
  · rintro ⟨q, hq⟩
    exact ⟨0, q, Nat.zero_le _, .inl ⟨0, (hstart 0 0).mpr ⟨rfl, rfl⟩, hq⟩⟩

end engine

example : ofWildcards "a_c%." = "(?s)^a.c.*\\.$" := by decide

/-! ### Patterns without wildcards -/

/-- Signs that stand for themselves take up themselves. -/
theorem wildcardMatches_literal_append {signs : List Char} (hrun : '%' ∉ signs) (hone : '_' ∉ signs)
    {others text : List Char} :
    wildcardMatches (signs ++ others) text ↔ ∃ rest, text = signs ++ rest ∧ wildcardMatches others rest := by
  induction signs generalizing text with
  | nil => simp
  | cons sign signs ih =>
      obtain ⟨hsign, hrun⟩ := not_or.mp (fun h => hrun (List.mem_cons.mpr h))
      obtain ⟨hsign', hone⟩ := not_or.mp (fun h => hone (List.mem_cons.mpr h))
      rw [List.cons_append, wildcardMatches_sign (Ne.symm hsign)]
      simp only [Ne.symm hsign', false_or, ih hrun hone]
      constructor
      · rintro ⟨c, rest, rfl, rfl, rest', rfl, h⟩
        exact ⟨rest', rfl, h⟩
      · rintro ⟨rest', rfl, h⟩
        exact ⟨sign, signs ++ rest', rfl, rfl, rest', rfl, h⟩

section literal

variable {signs : List Char} (hrun : '%' ∉ signs) (hone : '_' ∉ signs) {text : List Char}
include hrun hone

theorem wildcardMatches_literal : wildcardMatches signs text ↔ text = signs := by
  have h : wildcardMatches (signs ++ []) text ↔ _ := wildcardMatches_literal_append hrun hone
  rw [List.append_nil] at h
  rw [h]
  simp [wildcardMatches]

theorem wildcardMatches_literal_run : wildcardMatches (signs ++ ['%']) text ↔ signs <+: text := by
  rw [wildcardMatches_literal_append hrun hone]
  constructor
  · rintro ⟨rest, rfl, -⟩
    exact List.prefix_append signs rest
  · rintro ⟨rest, rfl⟩
    exact ⟨rest, rfl, wildcardMatches_run.mpr ⟨[], List.nil_suffix, rfl⟩⟩

theorem wildcardMatches_run_literal : wildcardMatches ('%' :: signs) text ↔ signs <:+ text := by
  rw [wildcardMatches_run]
  simp only [wildcardMatches_literal hrun hone]
  simp

theorem wildcardMatches_run_literal_run : wildcardMatches ('%' :: (signs ++ ['%'])) text ↔ signs <:+: text := by
  rw [wildcardMatches_run]
  simp only [wildcardMatches_literal_run hrun hone]
  rw [List.infix_iff_prefix_suffix]
  simp only [and_comm]

end literal

end Pattern

namespace StringFunction

open Pattern

theorem occurs_iff {needle text : List Char} : occurs needle text ↔ needle <:+: text := by
  induction text with
  | nil =>
      rw [List.infix_nil]
      exact decide_eq_true_iff
  | cons c rest ih =>
      unfold occurs
      rw [Bool.or_eq_true, ih, List.isPrefixOf_iff_prefix, List.infix_cons_iff]

/-! ### The function -/

section like

variable {limits : Limits} {v : Vocabulary}

theorem onTexts_like (h : limits.engine.Documented v) {pattern : String}
    (hlimits : WithinLimits limits (@ofWildcards limits.engine) pattern) (text : String) :
    like.onTexts limits text pattern = .boolean (wildcardMatches pattern.toList text.toList) := by
  have hdepth : peak (wildcards v pattern.toList).tokens 0 ≤ v.depth :=
    (peak_wildcardTail v pattern.toList).trans_le (Nat.zero_le v.depth)
  obtain ⟨test, hcompile, htest⟩ :=
    h.exists_compile (proper_wildcards h pattern.toList) hdepth (text_wildcards h pattern) hlimits
  rw [onTexts_of_patternForm? limits rfl, hcompile]
  refine congrArg Outcome.boolean (Bool.eq_iff_iff.mpr ?_)
  rw [htest, hasMatch_wildcards_iff h]

/-- **Likeness means what the wildcards say**, with every engine that does what its documentation says. -/
theorem like_is_wildcard_match (h : limits.engine.Documented v) (text : String) :
    (∀ pattern, WithinLimits limits (@ofWildcards limits.engine) pattern →
      like.onTexts limits text pattern = .boolean (wildcardMatches pattern.toList text.toList)) ∧
    ∀ part : String, '%' ∉ part.toList → '_' ∉ part.toList →
      (WithinLimits limits (@ofWildcards limits.engine) part →
        like.onTexts limits text part = .boolean (text = part)) ∧
      (WithinLimits limits (@ofWildcards limits.engine) (part ++ "%") →
        like.onTexts limits text (part ++ "%") = startsWith.onTexts limits text part) ∧
      (WithinLimits limits (@ofWildcards limits.engine) ("%" ++ part) →
        like.onTexts limits text ("%" ++ part) = endsWith.onTexts limits text part) ∧
      (WithinLimits limits (@ofWildcards limits.engine) ("%" ++ part ++ "%") →
        like.onTexts limits text ("%" ++ part ++ "%") = contains.onTexts limits text part) := by
  refine ⟨fun pattern hlimits => onTexts_like h hlimits text, fun part hrun hone => ⟨?_, ?_, ?_, ?_⟩⟩
  all_goals intro hlimits
  all_goals rw [onTexts_like h hlimits]
  all_goals refine congrArg Outcome.boolean (Bool.eq_iff_iff.mpr ?_)
  · rw [wildcardMatches_literal hrun hone, String.toList_inj, decide_eq_true_iff]
  · rw [String.toList_append]
    exact (wildcardMatches_literal_run hrun hone).trans List.isPrefixOf_iff_prefix.symm
  · rw [String.toList_append]
    exact (wildcardMatches_run_literal hrun hone).trans List.isSuffixOf_iff_suffix.symm
  · rw [String.toList_append, String.toList_append]
    exact (wildcardMatches_run_literal_run hrun hone).trans occurs_iff.symm

end like

/-- Runs over line ends, signs with a meaning in expressions, and a text that goes on after the pattern's end. -/
theorem like_is_wildcard_match_over_line_ends :
    Engine.Documented (Limits.engine {}) BuiltinEngine.vocabulary ∧
      WithinLimits {} ofWildcards "a.%_\\" ∧
      like.onTexts {} "a.b\nc\\" "a.%_\\" = .boolean true ∧
      like.onTexts {} "a.b\nc\\\n" "a.%_\\" = .boolean false ∧
      ('%' ∉ "(\n".toList ∧ '_' ∉ "(\n".toList) ∧
      (WithinLimits {} ofWildcards "(\n" ∧ WithinLimits {} ofWildcards ("(\n" ++ "%") ∧
        WithinLimits {} ofWildcards ("%" ++ "(\n") ∧ WithinLimits {} ofWildcards ("%" ++ "(\n" ++ "%")) ∧
      like.onTexts {} "a(\nb" "(\n" = .boolean false ∧
      like.onTexts {} "a(\nb" ("(\n" ++ "%") = startsWith.onTexts {} "a(\nb" "(\n" ∧
      like.onTexts {} "a(\nb" ("%" ++ "(\n") = endsWith.onTexts {} "a(\nb" "(\n" ∧
      like.onTexts {} "a(\nb" ("%" ++ "(\n" ++ "%") = contains.onTexts {} "a(\nb" "(\n" := by
  have hdocumented : Engine.Documented (Limits.engine {}) BuiltinEngine.vocabulary := BuiltinEngine.documented
  have hsigns : WithinLimits {} ofWildcards "a.%_\\" := by decide +kernel
  have hrun : '%' ∉ "(\n".toList := by decide
  have hone : '_' ∉ "(\n".toList := by decide
  have hself : WithinLimits {} ofWildcards "(\n" := by decide +kernel
  have hfront : WithinLimits {} ofWildcards ("(\n" ++ "%") := by decide +kernel
  have hback : WithinLimits {} ofWildcards ("%" ++ "(\n") := by decide +kernel
  have hinside : WithinLimits {} ofWildcards ("%" ++ "(\n" ++ "%") := by decide +kernel
  obtain ⟨h1, h2, h3, h4⟩ := (like_is_wildcard_match hdocumented "a(\nb").2 "(\n" hrun hone
  refine ⟨hdocumented, hsigns, ?_, ?_, ⟨hrun, hone⟩, ⟨hself, hfront, hback, hinside⟩, (h1 hself).trans ?_, h2 hfront,
    h3 hback, h4 hinside⟩
  · rw [(like_is_wildcard_match hdocumented "a.b\nc\\").1 _ hsigns]
    exact congrArg Outcome.boolean (by decide)
  · rw [(like_is_wildcard_match hdocumented "a.b\nc\\\n").1 _ hsigns]
    exact congrArg Outcome.boolean (by decide)
  · rfl

end StringFunction

end DocumentQuery
