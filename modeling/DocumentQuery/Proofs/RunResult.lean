import DocumentQuery.Proofs.FirstCopies

/-! # What a run gives

Whatever the order of its steps, a run gives first copies of admitted keys that every filter lets pass, each key
once, strictly increasing in the order of the last sort (`Pipeline.resultOrder`).  Without offsets and limits it
gives all of them, so that its result is the only such list.

Two facts are carried through the steps: the documents so far are `Arranged` in the order of the sort that came
last (`Step.run_arranged`, `Step.runAll_arranged`), and a step only drops documents, a filter those that it is
not true of (`Step.mem_of_mem_run`, `Step.mem_run`). -/

namespace DocumentQuery

/-- The order in which a sort leaves its documents; documents that were not sorted stand in key order. -/
def orderAfter (limits : Limits) : Option (List SortKey) → Document → Document → Ordering
  | some keys => Document.sortOrder limits keys
  | none => compareOn Document.key

instance (limits : Limits) (sort? : Option (List SortKey)) : Std.TransCmp (orderAfter limits sort?) :=
  match sort? with
  | some keys => inferInstanceAs (Std.TransCmp (Document.sortOrder limits keys))
  | none => inferInstanceAs (Std.TransCmp (compareOn Document.key))

/-- Documents with distinct keys, strictly increasing. -/
structure Arranged (cmp : Document → Document → Ordering) (ds : List Document) : Prop where
  distinct : (ds.map Document.key).Nodup
  increasing : ds.Pairwise fun a b => cmp a b = .lt

theorem Arranged.sublist {cmp : Document → Document → Ordering} {ds es : List Document} (h : Arranged cmp ds)
    (hs : es.Sublist ds) : Arranged cmp es :=
  ⟨h.distinct.sublist (hs.map Document.key), h.increasing.sublist hs⟩

namespace Step

/-- The keys of a sort. -/
def sortKeys? : Step → Option (List SortKey)
  | sort keys => some keys
  | _ => none

/-- The keys of the last sort among steps. -/
def lastSort? (steps : List Step) : Option (List SortKey) := steps.reverse.findSome? sortKeys?

/-- An offset or a limit. -/
def IsCut : Step → Prop
  | offset _ | limit _ => True
  | _ => False

instance (s : Step) : Decidable s.IsCut := by
  cases s <;> simp only [IsCut] <;> infer_instance

/-- The documents after all steps in turn. -/
def runAll (limits : Limits) (steps : List Step) (ds : List Document) : List Document :=
  steps.foldl (fun ds s => s.run limits ds) ds

variable {limits : Limits} {ds : List Document} {d : Document}

theorem lastSort?_cons (s : Step) (steps : List Step) :
    lastSort? (s :: steps) = (lastSort? steps).or s.sortKeys? := by
  unfold lastSort?
  rw [List.reverse_cons, List.findSome?_append]
  cases h : s.sortKeys? <;> simp [List.findSome?, h]

/-! ### One step -/

/-- A sort arranges the documents anew; every other step leaves them as they were arranged. -/
theorem run_arranged (s : Step) {sort? : Option (List SortKey)} (h : Arranged (orderAfter limits sort?) ds) :
    Arranged (orderAfter limits (s.sortKeys?.or sort?)) (s.run limits ds) := by
  cases s with
  | filter condition => exact h.sublist List.filter_sublist
  | sort keys =>
      have hperm := Document.sorted_perm limits keys ds
      exact ⟨(hperm.map Document.key).nodup_iff.mpr h.distinct,
        Document.sorted_increasing limits keys h.distinct⟩
  | offset count => exact h.sublist (List.drop_sublist count.toNat ds)
  | limit count => exact h.sublist (List.take_sublist count.toNat ds)

theorem mem_of_mem_run {s : Step} (h : d ∈ s.run limits ds) : d ∈ ds ∧ s.passes limits d := by
  cases s with
  | filter condition => exact List.mem_filter.mp h
  | sort keys => exact ⟨(Document.sorted_perm limits keys ds).mem_iff.mp h, rfl⟩
  | offset count => exact ⟨List.mem_of_mem_drop h, rfl⟩
  | limit count => exact ⟨List.mem_of_mem_take h, rfl⟩

/-- Only a cut drops documents that pass. -/
theorem mem_run {s : Step} (hc : ¬ s.IsCut) (hd : d ∈ ds) (hp : s.passes limits d) : d ∈ s.run limits ds := by
  cases s with
  | filter condition => exact List.mem_filter.mpr ⟨hd, hp⟩
  | sort keys => exact (Document.sorted_perm limits keys ds).mem_iff.mpr hd
  | offset count => exact absurd trivial hc
  | limit count => exact absurd trivial hc

/-! ### All steps -/

theorem runAll_arranged (steps : List Step) {sort? : Option (List SortKey)}
    (h : Arranged (orderAfter limits sort?) ds) :
    Arranged (orderAfter limits ((lastSort? steps).or sort?)) (runAll limits steps ds) := by
  induction steps generalizing ds sort? with
  | nil => exact h
  | cons s steps ih =>
      have hrest := ih (run_arranged s h)
      rw [lastSort?_cons, Option.or_assoc]
      exact hrest

theorem mem_of_mem_runAll {steps : List Step} (h : d ∈ runAll limits steps ds) :
    d ∈ ds ∧ ∀ s ∈ steps, s.passes limits d := by
  induction steps generalizing ds with
  | nil => exact ⟨h, fun _ hs => absurd hs List.not_mem_nil⟩
  | cons s steps ih =>
      obtain ⟨hrun, hrest⟩ := ih h
      obtain ⟨hd, hs⟩ := mem_of_mem_run hrun
      exact ⟨hd, List.forall_mem_cons.mpr ⟨hs, hrest⟩⟩

theorem mem_runAll {steps : List Step} (hc : ∀ s ∈ steps, ¬ s.IsCut) (hd : d ∈ ds)
    (hp : ∀ s ∈ steps, s.passes limits d) : d ∈ runAll limits steps ds := by
  induction steps generalizing ds with
  | nil => exact hd
  | cons s steps ih =>
      obtain ⟨hcut, hcuts⟩ := List.forall_mem_cons.mp hc
      obtain ⟨hpass, hpasses⟩ := List.forall_mem_cons.mp hp
      exact ih hcuts (mem_run hcut hd hpass) hpasses

end Step

namespace Pipeline

/-- The order of the last sort, or document-key order if the pipeline has none. -/
def resultOrder (limits : Limits) (p : Pipeline) : Document → Document → Ordering :=
  orderAfter limits (Step.lastSort? p.steps)

instance (limits : Limits) (p : Pipeline) : Std.TransCmp (p.resultOrder limits) :=
  inferInstanceAs (Std.TransCmp (orderAfter limits (Step.lastSort? p.steps)))

variable {limits : Limits} {p : Pipeline} {ds : List Document} {d : Document}

theorem accepts_iff :
    p.accepts limits d ↔ p.source.Admits d.key ∧ ∀ s ∈ p.steps, s.passes limits d := by
  simp [accepts]

theorem run_arranged (limits : Limits) (p : Pipeline) (ds : List Document) :
    Arranged (p.resultOrder limits) (p.run limits ds) := by
  have hinc := admitted_increasing p.source ds
  have hstart : Arranged (orderAfter limits none) (admitted p.source ds) :=
    ⟨Document.keys_nodup_of_increasing hinc, hinc⟩
  have hrun := Step.runAll_arranged p.steps hstart
  rwa [Option.or_none] at hrun

theorem mem_of_mem_run (h : d ∈ p.run limits ds) :
    Document.firstWith? d.key ds = some d ∧ p.accepts limits d := by
  obtain ⟨hin, hpass⟩ := Step.mem_of_mem_runAll h
  obtain ⟨ha, hd⟩ := mem_admitted_iff.mp hin
  exact ⟨hd, accepts_iff.mpr ⟨ha, hpass⟩⟩

theorem mem_run (hc : ∀ s ∈ p.steps, ¬ s.IsCut) (hd : Document.firstWith? d.key ds = some d)
    (h : p.accepts limits d) : d ∈ p.run limits ds := by
  obtain ⟨ha, hpass⟩ := accepts_iff.mp h
  exact Step.mem_runAll hc (mem_admitted_iff.mpr ⟨ha, hd⟩) hpass

/-- **What a run gives.**  Its documents have distinct keys, each is the first copy of its key in the input and
matches the pipeline, and they are strictly increasing in the order of the last sort.  Without offsets and limits
every first copy that matches is there, and the result is the only list of that kind. -/
theorem run_is_increasing_selection (limits : Limits) (p : Pipeline) (ds : List Document) :
    ((p.run limits ds).map Document.key).Nodup ∧
    (∀ d ∈ p.run limits ds, Document.firstWith? d.key ds = some d ∧ p.accepts limits d) ∧
    ((p.run limits ds).Pairwise fun a b => p.resultOrder limits a b = .lt) ∧
    ((∀ s ∈ p.steps, ¬ s.IsCut) →
      (∀ d, Document.firstWith? d.key ds = some d → p.accepts limits d → d ∈ p.run limits ds) ∧
      ∀ out : List Document,
        (∀ d, d ∈ out ↔ Document.firstWith? d.key ds = some d ∧ p.accepts limits d) →
          (out.Pairwise fun a b => p.resultOrder limits a b = .lt) → out = p.run limits ds) := by
  have harr := run_arranged limits p ds
  refine ⟨harr.distinct, fun d hd => mem_of_mem_run hd, harr.increasing, fun hc => ⟨fun d => mem_run hc, ?_⟩⟩
  intro out hmem hinc
  refine eq_of_increasing hinc harr.increasing fun d => ?_
  rw [hmem]
  exact ⟨fun h => mem_run hc h.1 h.2, mem_of_mem_run⟩

/-- Of two copies of `c/b` the first matches a filter and a sort, and it is in the result. -/
theorem run_is_increasing_selection_with_copies :
    (∀ s ∈ [Step.filter (.call (.comparison .gt) [.field ⟨["v"]⟩, .literal (.integer 0)]),
        .sort [⟨.field ⟨["v"]⟩, .descending⟩]], ¬ s.IsCut) ∧
    ⟨⟨["c", "b"]⟩, [("v", .integer 2)], none⟩ ∈
      run {} ⟨.collection ⟨["c"]⟩, [.filter (.call (.comparison .gt) [.field ⟨["v"]⟩, .literal (.integer 0)]),
        .sort [⟨.field ⟨["v"]⟩, .descending⟩]]⟩
        [⟨⟨["c", "b"]⟩, [("v", .integer 2)], none⟩, ⟨⟨["c", "a"]⟩, [("v", .double .one)], none⟩,
          ⟨⟨["c", "b"]⟩, [("v", .integer 9)], none⟩] := by
  have hcut : ∀ s ∈ [Step.filter (.call (.comparison .gt) [.field ⟨["v"]⟩, .literal (.integer 0)]),
      .sort [⟨.field ⟨["v"]⟩, .descending⟩]], ¬ s.IsCut := by
    simp [Step.IsCut]
  have hall := (run_is_increasing_selection {} ⟨.collection ⟨["c"]⟩, [.filter (.call (.comparison .gt)
    [.field ⟨["v"]⟩, .literal (.integer 0)]), .sort [⟨.field ⟨["v"]⟩, .descending⟩]]⟩
    [⟨⟨["c", "b"]⟩, [("v", .integer 2)], none⟩, ⟨⟨["c", "a"]⟩, [("v", .double .one)], none⟩,
      ⟨⟨["c", "b"]⟩, [("v", .integer 9)], none⟩]).2.2.2 hcut
  exact ⟨hcut, hall.1 _ rfl (by decide +kernel)⟩

end Pipeline

end DocumentQuery
