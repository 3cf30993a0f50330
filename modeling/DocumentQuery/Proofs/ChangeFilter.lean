import DocumentQuery.Proofs.ExecutionPaths
import DocumentQuery.Proofs.RunResult
import Mathlib.Data.List.TakeWhile

/-! # Changes that do not show

A document is put into a store, and the question is whether the documents of a pipeline change.  What enters the
first offset or limit of a pipeline is settled by the source and by the filters in front of it
(`Pipeline.mem_run_beforeCuts_iff`), and the steps from there on see nothing else.  So a change does not show if
neither the new document nor the one it replaces gets as far as the first cut
(`Pipeline.execute_insert_of_rejected`).

A filter behind a cut is of no help here: a document that it rejects has already taken a place in the cut
(`Pipeline.rejected_change_shows_behind_limit`).  If every filter stands in front of the cuts, matching the whole
pipeline is what decides. -/

namespace DocumentQuery

namespace Step

/-- A filter. -/
def IsFilter : Step → Prop
  | filter _ => True
  | _ => False

instance : DecidablePred IsFilter
  | filter _ => .isTrue trivial
  | sort _ | offset _ | limit _ => .isFalse id

theorem passes_of_not_isFilter {s : Step} (h : ¬ s.IsFilter) (limits : Limits) (d : Document) :
    s.passes limits d := by
  cases s with
  | filter _ => exact absurd trivial h
  | _ => rfl

theorem runAll_append (limits : Limits) (first second : List Step) (ds : List Document) :
    runAll limits (first ++ second) ds = runAll limits second (runAll limits first ds) :=
  List.foldl_append

end Step

namespace Pipeline

/-- The pipeline up to its first offset or limit. -/
def beforeCuts (p : Pipeline) : Pipeline := { p with steps := p.steps.takeWhile fun s => ¬ s.IsCut }

/-- The steps from the first offset or limit on. -/
def fromCuts (p : Pipeline) : List Step := p.steps.dropWhile fun s => ¬ s.IsCut

/-- No filter stands behind an offset or a limit. -/
def FiltersFirst (p : Pipeline) : Prop := ∀ s ∈ p.fromCuts, ¬ s.IsFilter

instance (p : Pipeline) : Decidable p.FiltersFirst :=
  inferInstanceAs (Decidable (∀ s ∈ p.fromCuts, ¬ s.IsFilter))

variable {limits : Limits} {p : Pipeline} {ds es : List Document} {d : Document}

theorem beforeCuts_append_fromCuts (p : Pipeline) : p.beforeCuts.steps ++ p.fromCuts = p.steps :=
  List.takeWhile_append_dropWhile

theorem not_isCut_of_mem_beforeCuts {s : Step} (h : s ∈ p.beforeCuts.steps) : ¬ s.IsCut := by
  simpa using List.mem_takeWhile_imp h

/-! ### What enters the first cut -/

theorem run_eq_runAll_fromCuts (limits : Limits) (p : Pipeline) (ds : List Document) :
    p.run limits ds = Step.runAll limits p.fromCuts (p.beforeCuts.run limits ds) := by
  have happend := Step.runAll_append limits p.beforeCuts.steps p.fromCuts (admitted p.source ds)
  rw [beforeCuts_append_fromCuts] at happend
  exact happend

/-- Up to the first cut a run keeps every first copy that the source and the filters let through. -/
theorem mem_run_beforeCuts_iff :
    d ∈ p.beforeCuts.run limits ds ↔
      Document.firstWith? d.key ds = some d ∧ p.beforeCuts.accepts limits d :=
  ⟨mem_of_mem_run, fun h => mem_run (fun _ => not_isCut_of_mem_beforeCuts) h.1 h.2⟩

/-- A run depends on the first copies that get as far as the first cut. -/
theorem run_congr_of_accepted (h : ∀ d, p.beforeCuts.accepts limits d →
    (Document.firstWith? d.key ds = some d ↔ Document.firstWith? d.key es = some d)) :
    p.run limits ds = p.run limits es := by
  have hsame : p.beforeCuts.run limits ds = p.beforeCuts.run limits es := by
    refine eq_of_increasing (run_arranged limits p.beforeCuts ds).increasing
      (run_arranged limits p.beforeCuts es).increasing fun d => ?_
    rw [mem_run_beforeCuts_iff, mem_run_beforeCuts_iff]
    exact and_congr_left (h d)
  rw [run_eq_runAll_fromCuts, hsame, ← run_eq_runAll_fromCuts]

/-- Where the filters come first, getting as far as the first cut is matching. -/
theorem accepts_beforeCuts (h : p.FiltersFirst) : p.beforeCuts.accepts limits d = p.accepts limits d := by
  rw [Bool.eq_iff_iff, accepts_iff, accepts_iff, ← beforeCuts_append_fromCuts p]
  refine and_congr_right fun _ => ⟨fun hpass s hs => ?_, fun hpass s hs => ?_⟩
  · rcases List.mem_append.mp hs with hs | hs
    · exact hpass s hs
    · exact Step.passes_of_not_isFilter (h s hs) limits d
  · exact hpass s (List.mem_append_left _ hs)

/-! ### Changes of a store -/

/-- A change is invisible if neither the new document nor the one it replaces gets as far as the first cut. -/
theorem execute_insert_of_rejected {s : Store} (hd : p.beforeCuts.accepts limits d = false)
    (he : ∀ e, s.get? d.key = some e → p.beforeCuts.accepts limits e = false) :
    (s.insert d).toAccess.execute limits p = s.toAccess.execute limits p := by
  rw [(DocumentAccess.faithful_toAccess _).execute_eq, (DocumentAccess.faithful_toAccess _).execute_eq]
  refine run_congr_of_accepted fun e hacc => ?_
  have hafter : Document.firstWith? e.key (s.insert d).documents = (s.insert d).get? e.key :=
    (s.insert d).firstWith?_documents e.key
  have hbefore : Document.firstWith? e.key s.documents = s.get? e.key := s.firstWith?_documents e.key
  show Document.firstWith? e.key (s.insert d).documents = some e ↔
    Document.firstWith? e.key s.documents = some e
  rw [hafter, hbefore, Store.get?_insert]
  split_ifs with hkey
  · -- The document under the changed key is rejected before and after.
    constructor
    · rintro ⟨⟩
      exact absurd hacc (by simp [hd])
    · intro hold
      exact absurd hacc (by simp [he e (hkey ▸ hold)])
  · rfl

/-- **A change that is rejected in front of the cuts does not show.**  This goes for every pipeline with the
part of it in front of its first offset or limit, and with the whole pipeline if no filter stands behind one. -/
theorem execute_insert_unchanged (limits : Limits) (s : Store) (p : Pipeline) (d : Document) :
    (p.beforeCuts.accepts limits d = false →
      (∀ e, s.get? d.key = some e → p.beforeCuts.accepts limits e = false) →
        (s.insert d).toAccess.execute limits p = s.toAccess.execute limits p) ∧
    (p.FiltersFirst → p.accepts limits d = false →
      (∀ e, s.get? d.key = some e → p.accepts limits e = false) →
        (s.insert d).toAccess.execute limits p = s.toAccess.execute limits p) := by
  refine ⟨execute_insert_of_rejected, fun hp hd he => execute_insert_of_rejected ?_ fun e hold => ?_⟩
  · rw [accepts_beforeCuts hp, hd]
  · rw [accepts_beforeCuts hp, he e hold]

/-- The first document of `c` whose `v` is above zero. -/
def firstPositive : Pipeline :=
  ⟨.collection ⟨["c"]⟩, [.filter (.call (.comparison .gt) [.field ⟨["v"]⟩, .literal (.integer 0)]), .limit 1]⟩

/-- With the filter in front of the limit, one document that the filter rejects is replaced by another. -/
theorem execute_insert_unchanged_in_front_of_limit :
    firstPositive.FiltersFirst ∧ firstPositive.accepts {} ⟨⟨["c", "a"]⟩, [("v", .integer (-1))], none⟩ = false ∧
      firstPositive.accepts {} ⟨⟨["c", "a"]⟩, [], none⟩ = false ∧
      ((Store.ofList [⟨⟨["c", "b"]⟩, [("v", .integer 1)], none⟩, ⟨⟨["c", "a"]⟩, [], none⟩]).insert
          ⟨⟨["c", "a"]⟩, [("v", .integer (-1))], none⟩).toAccess.execute {} firstPositive =
        (Store.ofList [⟨⟨["c", "b"]⟩, [("v", .integer 1)], none⟩,
          ⟨⟨["c", "a"]⟩, [], none⟩]).toAccess.execute {} firstPositive := by
  have hfirst : firstPositive.FiltersFirst := by decide
  have hnew : firstPositive.accepts {} ⟨⟨["c", "a"]⟩, [("v", .integer (-1))], none⟩ = false := by decide
  have hold : firstPositive.accepts {} ⟨⟨["c", "a"]⟩, [], none⟩ = false := by decide
  refine ⟨hfirst, hnew, hold, (execute_insert_unchanged {} _ firstPositive _).2 hfirst hnew ?_⟩
  rintro e ⟨⟩
  exact hold

/-- The first document of `c`, if its `v` is above zero. -/
def firstIfPositive : Pipeline :=
  ⟨.collection ⟨["c"]⟩, [.limit 1, .filter (.call (.comparison .gt) [.field ⟨["v"]⟩, .literal (.integer 0)])]⟩

/-- Matching the whole pipeline does not decide: `c/a` fails the filter and yet takes the one place of the limit
from `c/b`. -/
theorem rejected_change_shows_behind_limit :
    firstIfPositive.accepts {} ⟨⟨["c", "a"]⟩, [("v", .integer (-1))], none⟩ = false ∧
      (Store.ofList [⟨⟨["c", "b"]⟩, [("v", .integer 1)], none⟩]).get? ⟨["c", "a"]⟩ = none ∧
      ((Store.ofList [⟨⟨["c", "b"]⟩, [("v", .integer 1)], none⟩]).toAccess.execute {} firstIfPositive).map
          Document.key = [⟨["c", "b"]⟩] ∧
      (((Store.ofList [⟨⟨["c", "b"]⟩, [("v", .integer 1)], none⟩]).insert
          ⟨⟨["c", "a"]⟩, [("v", .integer (-1))], none⟩).toAccess.execute {} firstIfPositive).map Document.key =
        [] := by
  refine ⟨by decide, by decide, ?alone, ?behind⟩
  case alone =>
    have hadmitted : admitted firstIfPositive.source [⟨⟨["c", "b"]⟩, [("v", .integer 1)], none⟩] =
        [⟨⟨["c", "b"]⟩, [("v", .integer 1)], none⟩] := admitted_eq_self (by decide) (by decide)
    show (firstIfPositive.run {} [⟨⟨["c", "b"]⟩, [("v", .integer 1)], none⟩]).map Document.key = _
    rw [run, hadmitted]
    rfl
  case behind =>
    have hadmitted : admitted firstIfPositive.source
        [⟨⟨["c", "a"]⟩, [("v", .integer (-1))], none⟩, ⟨⟨["c", "b"]⟩, [("v", .integer 1)], none⟩] =
          [⟨⟨["c", "a"]⟩, [("v", .integer (-1))], none⟩, ⟨⟨["c", "b"]⟩, [("v", .integer 1)], none⟩] :=
      admitted_eq_self (by decide) (by decide)
    show (firstIfPositive.run {} [⟨⟨["c", "a"]⟩, [("v", .integer (-1))], none⟩,
      ⟨⟨["c", "b"]⟩, [("v", .integer 1)], none⟩]).map Document.key = []
    rw [run, hadmitted]
    rfl

end Pipeline

end DocumentQuery
