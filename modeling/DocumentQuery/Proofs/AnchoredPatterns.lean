import DocumentQuery.Proofs.BuiltinLanguage

/-! # Matching whole texts and parts of them

The function that matches a whole text puts anchors around the pattern of the caller, in a group of their own; the one
that matches part of it takes the pattern as it is.  Between the anchors the groups of a pattern start one deeper
(`Pattern.wellNested_anchoredTokens_iff`), and nothing looks whether the pattern is an expression by itself.  So what is
refused between the anchors is refused alone, but not the other way round: a pattern that closes the group of the
anchors and opens another one in its place (`Pattern.Regroups`) is refused alone and taken between the anchors.  These
patterns are the only ones that the two functions judge differently, and where both take a pattern, a match of the whole
text is a match of part of it. -/

namespace DocumentQuery

namespace Pattern

variable {v : Vocabulary}

/-- Signs between the anchors. -/
def anchoredTokens (ts : List (Token v)) : List (Token v) :=
  .item v.textStart none :: .opening v.plainGroup :: (ts ++ [.closing none, .item v.textEnd none])

/-- The signs close a group that they do not open; with a group around them they are well nested, because they open one
in its place. -/
def Regroups (ts : List (Token v)) : Prop := depthAfter ts 0 = none ∧ depthAfter ts 1 = some 1

instance (ts : List (Token v)) : Decidable (Regroups ts) :=
  inferInstanceAs (Decidable (depthAfter ts 0 = none ∧ depthAfter ts 1 = some 1))

/-- Between the anchors signs are well nested if they are so with one group around them. -/
theorem wellNested_anchoredTokens_iff {ts : List (Token v)} :
    WellNested (anchoredTokens ts) ↔ depthAfter ts 1 = some 1 := by
  show depthAfter (ts ++ [.closing none, .item v.textEnd none]) 1 = some 0 ↔ _
  rw [depthAfter_append]
  cases depthAfter ts 1 with
  | none => simp
  | some d =>
      cases d with
      | zero => simp [depthAfter]
      | succ d => simp [depthAfter]

theorem wellNested_anchoredTokens {ts : List (Token v)} (h : WellNested ts) : WellNested (anchoredTokens ts) :=
  wellNested_anchoredTokens_iff.mpr (depthAfter_succ h)

/-- Signs that are well nested between the anchors are well nested, or regroup. -/
theorem wellNested_or_regroups {ts : List (Token v)} (h : WellNested (anchoredTokens ts)) :
    WellNested ts ∨ Regroups ts := by
  have hone := wellNested_anchoredTokens_iff.mp h
  cases hzero : depthAfter ts 0 with
  | none => exact .inr ⟨hzero, hone⟩
  | some d =>
      have hsucc := depthAfter_succ hzero
      rw [hone] at hsucc
      obtain rfl : d = 0 := (Nat.succ.inj (Option.some.inj hsucc)).symm
      exact .inl hzero

theorem peak_append_closing (ts : List (Token v)) (d : Nat) :
    peak (ts ++ [.closing none, .item v.textEnd none]) d = peak ts d := by
  induction ts generalizing d with
  | nil => exact Nat.max_eq_left (Nat.sub_le d 1)
  | cons t ts ih =>
      cases t with
      | item i times | setting s | opening o | bar => exact ih _
      | closing times => exact congrArg (max d) (ih _)

theorem peak_anchoredTokens_le (ts : List (Token v)) : peak (anchoredTokens ts) 0 ≤ peak ts 0 + 1 := by
  show peak (ts ++ [.closing none, .item v.textEnd none]) 1 ≤ _
  rw [peak_append_closing]
  exact peak_succ_le ts 0

/-- The anchors are known and name no group. -/
theorem proper_anchoredTokens_iff {engine : Engine} (h : engine.Documented v) {ts : List (Token v)} :
    Proper (anchoredTokens ts) ↔ Proper ts := by
  have hknown : (∀ t ∈ anchoredTokens ts, t.known) ↔ ∀ t ∈ ts, t.known := by
    unfold anchoredTokens
    rw [List.forall_mem_cons, List.forall_mem_cons, List.forall_mem_append, List.forall_mem_cons,
      List.forall_mem_singleton]
    exact ⟨fun h => h.2.2.1, fun hts => ⟨h.textStart.known, rfl, hts, rfl, h.textEnd.known⟩⟩
  have hname : (Token.opening v.plainGroup).name? = none := h.plainGroup.2.1
  have hnames : names (anchoredTokens ts) = names ts := by
    unfold names anchoredTokens
    rw [List.filterMap_cons_none rfl, List.filterMap_cons_none hname, List.filterMap_append]
    exact List.append_nil _
  unfold Proper
  rw [hknown, hnames]

theorem textOf_anchoredTokens {engine : Engine} (h : engine.Documented v) (ts : List (Token v)) :
    textOf (anchoredTokens ts) = anchored (textOf ts) := by
  have htext : textOf (anchoredTokens ts) = v.itemText v.textStart ++ "" ++
      (v.openingText v.plainGroup ++ (textOf ts ++ (")" ++ "" ++ (v.itemText v.textEnd ++ "" ++ "")))) := by
    unfold anchoredTokens
    rw [textOf_cons, textOf_cons, textOf_append]
    rfl
  rw [htext, h.textStart.text, h.plainGroup.1, h.textEnd.text]
  unfold anchored
  rw [String.append_assoc, ← String.append_assoc]
  rfl

/-- The tree of an expression between the anchors. -/
def SignTree.between (e : SignTree v) : SignTree v :=
  .item v.textStart none (.group v.plainGroup e none (.item v.textEnd none .nil))

/-- Between the anchors an expression matches if it matches the whole text. -/
theorem hasMatch_between_iff {engine : Engine} (h : engine.Documented v) {e : SignTree v} {text : String} :
    e.between.HasMatch text ↔ (e.reach text.toList v.initial).Any 0 text.toList.length := by
  have hstart (p m : Nat) : (v.meaning v.initial v.textStart).Matches text.toList p m ↔
      m = p ∧ (if p = 0 then none else text.toList[p - 1]?).isNone := by
    have hmeaning : v.meaning v.initial v.textStart = _ := h.textStart.meaning false
    rw [hmeaning]
    rfl
  have hend (p m : Nat) : (v.meaning v.initial v.textEnd).Matches text.toList p m ↔
      m = p ∧ text.toList[p]?.isNone := by
    have hmeaning : v.meaning v.initial v.textEnd = _ := h.textEnd.meaning false
    rw [hmeaning]
    rfl
  have hreach (p q : Nat) : (e.between.reach text.toList v.initial).Any p q ↔
      (∃ m, (v.meaning v.initial v.textStart).Matches text.toList p m ∧
        ∃ m', (e.reach text.toList (v.enter v.plainGroup v.initial)).Any m m' ∧
          ∃ m'', (v.meaning v.initial v.textEnd).Matches text.toList m' m'' ∧ m'' = q) ∨ False := Iff.rfl
  rw [h.plainGroup.2.2] at hreach
  unfold SignTree.HasMatch
  simp only [hreach]
  constructor
  · rintro ⟨p, q, hp, ⟨m, hm, m', hgroup, m'', hm'', -⟩ | hlater⟩
    · obtain ⟨rfl, hbefore⟩ := (hstart p m).mp hm
      obtain ⟨rfl, hafter⟩ := (hend m' m'').mp hm''
      obtain rfl := eq_zero_of_before_isNone hp hbefore
      have hle : m'' ≤ text.toList.length := e.any_reach_le hp hgroup
      rw [Option.isNone_iff_eq_none, List.getElem?_eq_none_iff] at hafter
      obtain rfl := Nat.le_antisymm hle hafter
      exact hgroup
    · exact absurd hlater id
  · intro hwhole
    refine ⟨0, text.toList.length, Nat.zero_le _, .inl ⟨0, (hstart 0 0).mpr ⟨rfl, rfl⟩, _, hwhole, _, ?_, rfl⟩⟩
    refine (hend _ _).mpr ⟨rfl, ?_⟩
    rw [List.getElem?_eq_none (Nat.le_refl _)]
    rfl

end Pattern

namespace StringFunction

open Pattern

variable {limits : Limits} {v : Vocabulary} {f : StringFunction} {form : String → String} {pattern : String}

/-- The function refuses the pattern. -/
def Refuses (limits : Limits) (f : StringFunction) (text pattern : String) : Prop :=
  ∃ fault, f.onTexts limits text pattern = .error ⟨.string f, .invalidPattern fault⟩

theorem refuses_iff (hform : f.patternForm? limits.engine = some form) (text : String) :
    f.Refuses limits text pattern ↔ ∃ fault, compile limits form pattern = .error fault := by
  unfold Refuses
  rw [onTexts_of_patternForm? limits hform]
  cases compile limits form pattern with
  | ok test => exact iff_of_false (fun ⟨fault, h⟩ => by cases h) (fun ⟨fault, h⟩ => by cases h)
  | error fault => exact iff_of_true ⟨fault, rfl⟩ ⟨fault, rfl⟩

section documented

variable (h : limits.engine.Documented v) {ts : List (Token v)}
include h

/-- A pattern of signs is refused if what it becomes is no expression. -/
theorem refuses_iff_not_expression (hform : f.patternForm? limits.engine = some form) {us : List (Token v)}
    (htext : form (textOf ts) = textOf us) (hdepth : peak us 0 ≤ v.depth)
    (hlimits : WithinLimits limits form (textOf ts)) (text : String) :
    f.Refuses limits text (textOf ts) ↔ ¬ (WellNested us ∧ Proper us) := by
  rw [refuses_iff hform]
  constructor
  · rintro ⟨fault, hfault⟩ ⟨hnested, hproper⟩
    obtain ⟨e, rfl⟩ := exists_signTree hnested
    obtain ⟨test, hcompile, -⟩ := h.exists_compile hproper hdepth htext hlimits
    rw [hcompile] at hfault
    cases hfault
  · exact fun hnot => h.exists_fault hnot htext hlimits

/-- The answer on an expression. -/
theorem exists_answer (hform : f.patternForm? limits.engine = some form) {e : SignTree v} (hproper : Proper e.tokens)
    (htext : form pattern = e.text) (hdepth : peak e.tokens 0 ≤ v.depth)
    (hlimits : WithinLimits limits form pattern) (text : String) :
    ∃ b, f.onTexts limits text pattern = .boolean b ∧ (b ↔ e.HasMatch text) := by
  obtain ⟨test, hcompile, htest⟩ := h.exists_compile hproper hdepth htext hlimits
  rw [onTexts_of_patternForm? limits hform, hcompile]
  exact ⟨test text, rfl, htest text⟩

end documented

/-- The signs of `a)|(?:b`. -/
def splitGroups : List (Token BuiltinEngine.vocabulary) :=
  [.item (.char 'a') none, .closing none, .bar, .opening .plain, .item (.char 'b') none]

/-- The signs of `(ac|b)b+`. -/
def branches : List (Token BuiltinEngine.vocabulary) :=
  [.opening .capturing, .item (.char 'a') none, .item (.char 'c') none, .bar, .item (.char 'b') none, .closing none,
    .item (.char 'b') (some .atLeastOne)]

end StringFunction

end DocumentQuery
