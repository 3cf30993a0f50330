import DocumentQuery.Proofs.ErrorOrigin
import DocumentQuery.Proofs.RunResult
import Mathlib.Data.List.Forall2

/-! # What is read of a document

An expression reads a document at the field paths that occur in it (`Expression.Reads`), and the reserved path reads the
key.  Documents that read alike at all of them have one outcome (`Expression.evaluate_congr`), so nothing else of a
document counts: neither its other fields nor its update time.

A run is followed on two lists at once.  Let a relation pair up documents with one key that read alike at the paths of
all filters and sorts (`Pipeline.ReadsAlike`).  Every step keeps the pairs together: a filter keeps or drops both
documents, a sort moves both to one place, and the removal of later copies looks at keys alone (`Step.forall₂_run`,
`Pipeline.forall₂_admitted`).  So the runs of lists that are paired position by position are paired again
(`Pipeline.forall₂_run`). -/

namespace DocumentQuery

/-- Sorts of paired elements are paired if the orders agree on pairs. -/
theorem forall₂_mergeSort {α β : Type} {R : α → β → Prop} {le : α → α → Bool} {le' : β → β → Bool}
    (hle : ∀ a a' b b', R a a' → R b b' → le a b = le' a' b') {l : List α} {l' : List β} (h : List.Forall₂ R l l') :
    List.Forall₂ R (l.mergeSort le) (l'.mergeSort le') := by
  obtain ⟨hlength, hpairs⟩ := List.forall₂_iff_zip.mp h
  -- Both lists are views of the list of pairs, which is sorted in their place.
  let sorted := (l.zip l').mergeSort fun x y => le x.1 y.1
  have hleft : sorted.map Prod.fst = l.mergeSort le := by
    have hview : sorted.map Prod.fst = ((l.zip l').map Prod.fst).mergeSort le :=
      List.map_mergeSort fun _ _ _ _ => rfl
    rw [hview, List.map_fst_zip hlength.le]
  have hright : sorted.map Prod.snd = l'.mergeSort le' := by
    have hview : sorted.map Prod.snd = ((l.zip l').map Prod.snd).mergeSort le' :=
      List.map_mergeSort fun _ hx _ hy => hle _ _ _ _ (hpairs hx) (hpairs hy)
    rw [hview, List.map_snd_zip hlength.ge]
  rw [← hleft, ← hright, List.forall₂_map_left_iff, List.forall₂_map_right_iff, List.forall₂_same]
  exact fun x hx => hpairs ((List.mergeSort_perm _ _).mem_iff.mp hx)

namespace Document

/-- Two documents read alike at a field path: the reserved path reads the key, any other path a nested field. -/
def ReadsAlike (d d' : Document) (path : FieldPath) : Prop :=
  if path.isDocumentId then d.key = d'.key else d.field? path = d'.field? path

theorem fieldOutcome_congr {d d' : Document} {path : FieldPath} (h : d.ReadsAlike d' path) :
    d.fieldOutcome path = d'.fieldOutcome path := by
  unfold ReadsAlike at h
  unfold fieldOutcome
  split_ifs at h ⊢ with hreserved
  · rw [h]
  · rw [h]

/-- The removal of later copies looks at keys alone. -/
theorem forall₂_firstOfRuns {R : Document → Document → Prop} (hkey : ∀ d d', R d d' → d.key = d'.key)
    {ds ds' : List Document} (h : List.Forall₂ R ds ds') : List.Forall₂ R (firstOfRuns ds) (firstOfRuns ds') := by
  induction h with
  | nil => exact .nil
  | @cons d d' rest rest' hd _ ih =>
      rw [firstOfRuns_cons, firstOfRuns_cons]
      cases hfirsts : firstOfRuns rest with
      | nil =>
          rw [hfirsts] at ih
          rw [List.forall₂_nil_left_iff.mp ih]
          exact .cons hd .nil
      | cons e es =>
          rw [hfirsts] at ih
          obtain ⟨e', es', he, hes, hfirsts'⟩ := List.forall₂_cons_left_iff.mp ih
          rw [hfirsts']
          dsimp only
          rw [hkey d d' hd, hkey e e' he]
          split_ifs
          · exact .cons hd hes
          · exact .cons hd (.cons he hes)

end Document

namespace Expression

variable {limits : Limits} {path : FieldPath} {d d' : Document} {e : Expression}

/-- A field path occurs in an expression. -/
def Reads (e : Expression) (path : FieldPath) : Prop := field path ∈ e.parts

@[simp] theorem reads_field {occurring : FieldPath} : (field occurring).Reads path ↔ path = occurring := by
  simp [Reads, parts]

@[simp] theorem not_reads_literal {v : Value} : ¬ (literal v).Reads path := by
  simp [Reads, parts]

@[simp] theorem reads_call {f : Function} {args : List Expression} :
    (call f args).Reads path ↔ ∃ arg ∈ args, arg.Reads path := by
  simp [Reads, mem_parts_call]

/-- Two documents read alike at every path of an expression. -/
def ReadsAlike (e : Expression) (d d' : Document) : Prop := ∀ path, e.Reads path → d.ReadsAlike d' path

/-- **The outcome of an expression depends on what it reads alone.** -/
theorem evaluate_congr (h : e.ReadsAlike d d') : e.evaluate limits d = e.evaluate limits d' := by
  induction e using nested_induction with
  | field path => exact Document.fieldOutcome_congr (h path (reads_field.mpr rfl))
  | literal v => rfl
  | call f args ih =>
      have hargs : args.map (evaluate limits d) = args.map (evaluate limits d') :=
        List.map_congr_left fun arg harg => ih arg harg fun path hpath => h path (reads_call.mpr ⟨arg, harg, hpath⟩)
      rw [evaluate_call, evaluate_call, hargs]

end Expression

/-! ### Two runs at once -/

namespace Step

variable {limits : Limits} {R : Document → Document → Prop} {ds ds' : List Document}

/-- Two documents read alike at every path of the expressions of a step. -/
def ReadsAlike (s : Step) (d d' : Document) : Prop := ∀ e ∈ s.expressions, e.ReadsAlike d d'

theorem outcomes_congr {keys : List SortKey} {d d' : Document} (h : (sort keys).ReadsAlike d d') :
    SortKey.outcomes limits keys d = SortKey.outcomes limits keys d' :=
  List.map_congr_left fun _ hkey => Expression.evaluate_congr (h _ (List.mem_map_of_mem hkey))

theorem sortOrder_congr {keys : List SortKey} {a a' b b' : Document} (ha : (sort keys).ReadsAlike a a')
    (hb : (sort keys).ReadsAlike b b') (hkeya : a.key = a'.key) (hkeyb : b.key = b'.key) :
    Document.sortOrder limits keys a b = Document.sortOrder limits keys a' b' := by
  unfold Document.sortOrder Document.compareBy
  rw [outcomes_congr ha, outcomes_congr hb, hkeya, hkeyb]

/-- A step keeps pairs of documents together that it cannot tell apart. -/
theorem forall₂_run (s : Step) (hkey : ∀ d d', R d d' → d.key = d'.key) (hread : ∀ d d', R d d' → s.ReadsAlike d d')
    (h : List.Forall₂ R ds ds') : List.Forall₂ R (s.run limits ds) (s.run limits ds') := by
  cases s with
  | filter condition =>
      refine List.rel_filter (fun d d' hd => ?_) h
      have hcondition : condition.ReadsAlike d d' := hread d d' hd condition (List.mem_singleton_self _)
      exact Bool.eq_iff_iff.mp (congrArg Outcome.isTrue (Expression.evaluate_congr hcondition))
  | sort keys =>
      rw [run, run, Document.sorted_eq_mergeSort, Document.sorted_eq_mergeSort]
      refine forall₂_mergeSort (fun a a' b b' ha hb => ?_) h
      rw [sortOrder_congr (hread a a' ha) (hread b b' hb) (hkey a a' ha) (hkey b b' hb)]
  | offset count => exact List.forall₂_drop count.toNat h
  | limit count => exact List.forall₂_take count.toNat h

theorem forall₂_runAll {steps : List Step} (hkey : ∀ d d', R d d' → d.key = d'.key)
    (hread : ∀ s ∈ steps, ∀ d d', R d d' → s.ReadsAlike d d') (h : List.Forall₂ R ds ds') :
    List.Forall₂ R (runAll limits steps ds) (runAll limits steps ds') := by
  induction steps generalizing ds ds' with
  | nil => exact h
  | cons s steps ih =>
      obtain ⟨hfirst, hrest⟩ := List.forall_mem_cons.mp hread
      exact ih hrest (forall₂_run s hkey hfirst h)

end Step

namespace Pipeline

variable {limits : Limits} {p : Pipeline} {R : Document → Document → Prop} {ds ds' : List Document}

/-- Two documents with one key read alike at every path of the filters and sorts of a pipeline. -/
def ReadsAlike (p : Pipeline) (d d' : Document) : Prop := d.key = d'.key ∧ ∀ s ∈ p.steps, s.ReadsAlike d d'

/-- What enters the steps is settled by keys alone. -/
theorem forall₂_admitted (source : Source) (hkey : ∀ d d', R d d' → d.key = d'.key) (h : List.Forall₂ R ds ds') :
    List.Forall₂ R (admitted source ds) (admitted source ds') := by
  refine Document.forall₂_firstOfRuns hkey (forall₂_mergeSort (fun a a' b b' ha hb => ?_) ?_)
  · rw [hkey a a' ha, hkey b b' hb]
  · refine List.rel_filter (fun d d' hd => ?_) h
    exact Bool.eq_iff_iff.mp (congrArg (fun key => decide (source.Admits key)) (hkey d d' hd))

/-- **Runs of lists that a pipeline cannot tell apart go alike, place by place.** -/
theorem forall₂_run (hR : ∀ d d', R d d' → p.ReadsAlike d d') (h : List.Forall₂ R ds ds') :
    List.Forall₂ R (p.run limits ds) (p.run limits ds') := by
  have hkey : ∀ d d', R d d' → d.key = d'.key := fun d d' hd => (hR d d' hd).1
  exact Step.forall₂_runAll hkey (fun s hs d d' hd => (hR d d' hd).2 s hs) (forall₂_admitted p.source hkey h)

theorem map_key_eq (hkey : ∀ d d', R d d' → d.key = d'.key) (h : List.Forall₂ R ds ds') :
    ds.map Document.key = ds'.map Document.key := by
  rw [← List.forall₂_eq_eq_eq, List.forall₂_map_left_iff, List.forall₂_map_right_iff]
  exact h.imp hkey

/-- **Only what is read counts.**  Documents that read alike at every field path of an expression, with one key if the
reserved path occurs, give one outcome.  Lists that agree position by position in the keys and at the field paths of all
filters and sorts give the same keys in the same order, and what stands at one place of the two results stood at one
place of the lists. -/
theorem only_readings_count (limits : Limits) :
    (∀ (e : Expression) (d d' : Document), e.ReadsAlike d d' → e.evaluate limits d = e.evaluate limits d') ∧
    ∀ (p : Pipeline) (ds ds' : List Document), List.Forall₂ p.ReadsAlike ds ds' →
      (p.run limits ds).map Document.key = (p.run limits ds').map Document.key ∧
      List.Forall₂ (fun d d' => (d, d') ∈ ds.zip ds') (p.run limits ds) (p.run limits ds') := by
  refine ⟨fun e d d' h => Expression.evaluate_congr h, fun p ds ds' h => ⟨?keys, ?places⟩⟩
  case keys => exact map_key_eq (fun d d' hd => hd.1) (forall₂_run (fun d d' hd => hd) h)
  case places =>
    obtain ⟨hlength, hpairs⟩ := List.forall₂_iff_zip.mp h
    exact forall₂_run (fun d d' hd => hpairs hd) (List.forall₂_iff_zip.mpr ⟨hlength, id⟩)

/-- Neither the update time nor the field `w` is read.  Of two copies of `c/a` the first one is in the result, and by
the keys alone the same is true of the other list. -/
theorem only_readings_count_beside_unread_fields :
    let name := Expression.field FieldPath.documentId
    let v := Expression.field ⟨["v"]⟩
    let p : Pipeline := ⟨.collection ⟨["c"]⟩, [.filter (.call (.comparison .gt) [v, .literal (.integer 0)]),
      .sort [⟨v, .descending⟩, ⟨name, .ascending⟩]]⟩
    let a : Document := ⟨⟨["c", "a"]⟩, [("v", .integer 1)], none⟩
    let a' : Document := ⟨⟨["c", "a"]⟩, [("v", .integer 1), ("w", .null)], some ⟨0, 0⟩⟩
    let b : Document := ⟨⟨["c", "b"]⟩, [("v", .integer 2), ("w", .integer 7)], none⟩
    let b' : Document := ⟨⟨["c", "b"]⟩, [("v", .integer 2)], none⟩
    let copy : Document := ⟨⟨["c", "a"]⟩, [("v", .integer 9)], none⟩
    name.ReadsAlike a a' ∧ name.evaluate {} a = name.evaluate {} a' ∧
      List.Forall₂ p.ReadsAlike [a, b, copy] [a', b', copy] ∧ a ∈ p.run {} [a, b, copy] ∧
      (p.run {} [a, b, copy]).map Document.key = (p.run {} [a', b', copy]).map Document.key ∧
      a.key ∈ (p.run {} [a', b', copy]).map Document.key := by
  intro name v p a a' b b' copy
  have hname : name.ReadsAlike a a' := fun path hpath => Expression.reads_field.mp hpath ▸ rfl
  have hread : ∀ d d' : Document, d.key = d'.key → d.field? ⟨["v"]⟩ = d'.field? ⟨["v"]⟩ → p.ReadsAlike d d' := by
    intro d d' hkey hfield
    have hreserved : d.ReadsAlike d' FieldPath.documentId := hkey
    have hplain : d.ReadsAlike d' ⟨["v"]⟩ := hfield
    refine ⟨hkey, ?_⟩
    simp [p, name, v, Step.ReadsAlike, Step.expressions, Expression.ReadsAlike, hreserved, hplain]
  have hlists : List.Forall₂ p.ReadsAlike [a, b, copy] [a', b', copy] :=
    .cons (hread a a' rfl rfl) (.cons (hread b b' rfl rfl) (.cons (hread copy copy rfl rfl) .nil))
  have hmem : a ∈ p.run {} [a, b, copy] := mem_run (by simp [p, Step.IsCut]) rfl (by decide +kernel)
  obtain ⟨hexpression, hpipeline⟩ := only_readings_count {}
  have hkeys := (hpipeline p _ _ hlists).1
  exact ⟨hname, hexpression name a a' hname, hlists, hmem, hkeys, hkeys ▸ List.mem_map_of_mem hmem⟩

end Pipeline

end DocumentQuery
