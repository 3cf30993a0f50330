import DocumentQuery.Proofs.ErrorOrigin
import DocumentQuery.Proofs.GuardedFunctions
import DocumentQuery.Proofs.RunResult

/-! # Guarded evaluation and execution

An expression is evaluated in guarded steps: the outcome of every part is kept in memory, the number of operands is
checked before a body reads them, and the functions of the logical family evaluate an operand when they come to it.  A
pipeline is run in guarded steps from its list of stages on: the source is read in front, the stages behind it are
taken, and an offset drains no more documents than there are.

By induction on the expression, and then on the steps, a guarded run comes to the same outcome and to the same
documents, whatever the expression, the document and the pipeline are; the one thing that can keep it from that is a
part with an outcome that no memory holds (`run_in_bounds`). -/

namespace DocumentQuery

open Guarded

/-! ### Functions that evaluate their operands themselves -/

namespace Logical

/-- The operand at a position, which is evaluated there. -/
def operandAt (rs : List (Guarded Outcome)) (i : Nat) : Guarded Outcome := do
  let r ← read rs i
  r

def junctionGuarded (f : Function) (decider : Bool) (p : Pending) : List (Guarded Outcome) → Guarded Outcome
  | [] => .ok (p.close !decider)
  | r :: rest => do
    match ← r with
    | .value (.boolean b) =>
      if b = decider then return .boolean decider else junctionGuarded f decider p rest
    | .null => junctionGuarded f decider { p with null := true } rest
    | o => junctionGuarded f decider { p with error := p.error.or (some (complaint f o)) } rest

def parityGuarded (f : Function) (odd null : Bool) : List (Guarded Outcome) → Guarded Outcome
  | [] => .ok (if null then .null else .boolean odd)
  | r :: rest => do
    match ← r with
    | .value (.boolean b) => parityGuarded f (odd ^^ b) null rest
    | .null => parityGuarded f odd true rest
    | o => return .error (complaint f o)

def extremeGuarded (wanted : Ordering) (best : Option Value) : List (Guarded Outcome) → Guarded Outcome
  | [] => .ok (ofBest best)
  | r :: rest => do
    match ← r with
    | .value v =>
      match best with
      | some current => extremeGuarded wanted (some (if v.compare current = wanted then v else current)) rest
      | none => extremeGuarded wanted (some v) rest
    | .error e => return .error e
    | _ => extremeGuarded wanted best rest

def applyGuarded (op : Logical) (rs : List (Guarded Outcome)) : Guarded Outcome :=
  let f := Function.logical op
  match op with
  | .and => junctionGuarded f false ⟨none, false⟩ rs
  | .or => junctionGuarded f true ⟨none, false⟩ rs
  | .xor => parityGuarded f false false rs
  | .not => do
    let o ← operandAt rs 0
    return negation f o
  | .cond => do
    match ← operandAt rs 0 with
    | .value (.boolean b) => if b then operandAt rs 1 else operandAt rs 2
    | .null => operandAt rs 2
    | o => return .error (complaint f o)
  | .maximum => extremeGuarded .gt none rs
  | .minimum => extremeGuarded .lt none rs

section operands

variable {α : Type} {fits : Prop} {g : α → Guarded Outcome} {v : α → Outcome} {es : List α}

theorem junctionGuarded_reaches (f : Function) (decider : Bool) (p : Pending)
    (h : ∀ e ∈ es, Reaches fits (g e) (v e)) :
    Reaches fits (junctionGuarded f decider p (es.map g)) (junction f decider p (es.map v)) := by
  induction es generalizing p with
  | nil => exact .ok _
  | cons e es ih =>
      obtain ⟨hhead, htail⟩ := List.forall_mem_cons.mp h
      refine hhead.bind fun _ => ?_
      rw [List.map_cons]
      cases v e with
      | value w =>
          cases w with
          | boolean b =>
              rw [junction]
              by_cases hb : b = decider
              · rw [if_pos hb]
                exact .of_eq (if_pos hb)
              · rw [if_neg hb]
                simp only [if_neg hb]
                exact ih _ htail
          | _ => exact ih _ htail
      | null | unset | error _ => exact ih _ htail

theorem parityGuarded_reaches (f : Function) (odd null : Bool) (h : ∀ e ∈ es, Reaches fits (g e) (v e)) :
    Reaches fits (parityGuarded f odd null (es.map g)) (parity f odd null (es.map v)) := by
  induction es generalizing odd null with
  | nil => exact .ok _
  | cons e es ih =>
      obtain ⟨hhead, htail⟩ := List.forall_mem_cons.mp h
      refine hhead.bind fun _ => ?_
      rw [List.map_cons]
      cases v e with
      | value w =>
          cases w with
          | boolean b => exact ih _ _ htail
          | _ => exact .ok _
      | null => exact ih _ _ htail
      | unset | error _ => exact .ok _

theorem extremeGuarded_reaches (wanted : Ordering) (best : Option Value)
    (h : ∀ e ∈ es, Reaches fits (g e) (v e)) :
    Reaches fits (extremeGuarded wanted best (es.map g)) (extreme wanted best (es.map v)) := by
  induction es generalizing best with
  | nil => exact .ok _
  | cons e es ih =>
      obtain ⟨hhead, htail⟩ := List.forall_mem_cons.mp h
      refine hhead.bind fun _ => ?_
      rw [List.map_cons]
      cases v e with
      | value w => cases best <;> exact ih _ htail
      | null | unset => exact ih _ htail
      | error _ => exact .ok _

/-- On an accepted number of operands a logical function comes to its outcome if the operands come to theirs. -/
theorem applyGuarded_reaches (op : Logical) (hcount : (Function.logical op).arity.Accepts es.length)
    (h : ∀ e ∈ es, Reaches fits (g e) (v e)) : Reaches fits (op.applyGuarded (es.map g)) (op.apply (es.map v)) := by
  cases op with
  | and => exact junctionGuarded_reaches _ _ _ h
  | or => exact junctionGuarded_reaches _ _ _ h
  | xor => exact parityGuarded_reaches _ _ _ h
  | not =>
      obtain ⟨a, rfl⟩ := List.length_eq_one_iff.mp hcount
      have ha : Reaches fits (operandAt [g a] 0) (v a) := h a List.mem_cons_self
      exact ha.bind fun _ => .ok _
  | cond =>
      obtain ⟨a, b, c, rfl⟩ := List.length_eq_three.mp hcount
      have ha : Reaches fits (operandAt [g a, g b, g c] 0) (v a) := h a (by simp)
      have hb : Reaches fits (operandAt [g a, g b, g c] 1) (v b) := h b (by simp)
      have hc : Reaches fits (operandAt [g a, g b, g c] 2) (v c) := h c (by simp)
      refine ha.bind fun _ => ?_
      have happly : apply .cond ([a, b, c].map v) = choice (Function.logical .cond) (v a) (v b) (v c) := rfl
      rw [happly]
      cases v a with
      | value w =>
          cases w with
          | boolean t =>
              cases t with
              | true => exact hb
              | false => exact hc
          | _ => exact .ok _
      | null => exact hc
      | unset | error _ => exact .ok _
  | maximum => exact extremeGuarded_reaches _ _ h
  | minimum => exact extremeGuarded_reaches _ _ h

end operands

end Logical

/-! ### Evaluation -/

/-- The number of operands comes first; the functions that are not logical evaluate all of them. -/
def Function.applyGuarded (limits : Limits) (f : Function) (rs : List (Guarded Outcome)) : Guarded Outcome :=
  if f.arity.Accepts rs.length then
    match f with
    | logical op => op.applyGuarded rs
    | f => do
      let args ← rs.mapM id
      f.applyAcceptedGuarded limits args
  else return .error ⟨f, .wrongCount rs.length⟩

/-- The reserved path has one segment, which is read only then. -/
def FieldPath.isDocumentIdGuarded (p : FieldPath) : Guarded Bool :=
  if p.segments.length = 1 then do
    let segment ← read p.segments 0
    return segment = documentIdSegment
  else return false

theorem FieldPath.isDocumentIdGuarded_eq (p : FieldPath) : p.isDocumentIdGuarded = .ok p.isDocumentId := by
  obtain ⟨segments⟩ := p
  unfold isDocumentIdGuarded isDocumentId documentId
  by_cases h : segments.length = 1
  · obtain ⟨segment, rfl⟩ := List.length_eq_one_iff.mp h
    rw [if_pos h]
    show Except.ok (decide (segment = documentIdSegment)) = _
    simp
  · have hne : (⟨segments⟩ : FieldPath) ≠ ⟨[documentIdSegment]⟩ := by
      intro heq
      rw [FieldPath.mk.inj heq] at h
      exact h rfl
    rw [if_neg h, decide_eq_false hne]
    rfl

def Document.fieldOutcomeGuarded (d : Document) (path : FieldPath) : Guarded Outcome := do
  if ← path.isDocumentIdGuarded then return .value (.reference d.key)
  else
    match d.field? path with
    | some v => return .ofValue v
    | none => return .unset

theorem Document.fieldOutcomeGuarded_eq (d : Document) (path : FieldPath) :
    d.fieldOutcomeGuarded path = .ok (d.fieldOutcome path) := by
  unfold fieldOutcomeGuarded fieldOutcome
  rw [path.isDocumentIdGuarded_eq]
  show (if path.isDocumentId = true then _ else _) = _
  by_cases h : path.isDocumentId = true
  · rw [if_pos h, if_pos h]
    rfl
  · rw [if_neg h, if_neg h]
    cases d.field? path <;> rfl

namespace Expression

mutual

/-- The outcome of an expression, kept in memory. -/
def evaluateGuarded (limits : Limits) (d : Document) : Expression → Guarded Outcome
  | field path => do
    let o ← d.fieldOutcomeGuarded path
    o.kept
  | literal v => (Outcome.ofValue v).kept
  | call f args => do
    let o ← f.applyGuarded limits (evaluateAllGuarded limits d args)
    o.kept

def evaluateAllGuarded (limits : Limits) (d : Document) : List Expression → List (Guarded Outcome)
  | [] => []
  | e :: rest => evaluateGuarded limits d e :: evaluateAllGuarded limits d rest

end

variable {limits : Limits} {d : Document}

theorem evaluateAllGuarded_eq_map (es : List Expression) :
    evaluateAllGuarded limits d es = es.map (evaluateGuarded limits d) := by
  induction es with
  | nil => simp [evaluateAllGuarded]
  | cons e rest ih => simp [evaluateAllGuarded, ih]

/-- The outcome of every part fits in memory. -/
def FitsMemory (limits : Limits) (d : Document) (e : Expression) : Prop :=
  ∀ part ∈ e.parts, (part.evaluate limits d).InMemory

theorem FitsMemory.self {e : Expression} (h : e.FitsMemory limits d) : (e.evaluate limits d).InMemory := by
  refine h e ?_
  cases e with
  | field path => exact List.mem_cons_self
  | literal v => exact List.mem_cons_self
  | call f args => exact mem_parts_call.mpr (.inl rfl)

theorem FitsMemory.of_call {f : Function} {args : List Expression} (h : (call f args).FitsMemory limits d)
    {e : Expression} (he : e ∈ args) : e.FitsMemory limits d :=
  fun part hpart => h part (mem_parts_call.mpr (.inr ⟨e, he, hpart⟩))

/-- What was kept fits in memory. -/
theorem yields_inMemory (e : Expression) : Yields Outcome.InMemory (e.evaluateGuarded limits d) := by
  have hkept (o : Outcome) : Yields Outcome.InMemory o.kept := fun _ ho => Outcome.inMemory_of_kept ho
  cases e with
  | field path =>
      rw [evaluateGuarded]
      exact .bind_of_forall hkept
  | literal v =>
      rw [evaluateGuarded]
      exact hkept _
  | call f args =>
      rw [evaluateGuarded]
      exact .bind_of_forall hkept

end Expression

namespace Function

variable {limits : Limits} {d : Document} {fits : Prop}

/-- A function comes to its outcome if its operands come to theirs, whatever their number is. -/
theorem applyGuarded_reaches (f : Function) {args : List Expression}
    (h : ∀ e ∈ args, Reaches fits (e.evaluateGuarded limits d) (e.evaluate limits d)) :
    Reaches fits (f.applyGuarded limits (args.map (Expression.evaluateGuarded limits d)))
      (f.apply limits (args.map (Expression.evaluate limits d))) := by
  unfold applyGuarded apply
  rw [List.length_map, List.length_map]
  by_cases hcount : f.arity.Accepts args.length
  · rw [if_pos hcount, if_pos hcount]
    have hstrict : Reaches fits
        ((args.map (Expression.evaluateGuarded limits d)).mapM id >>= f.applyAcceptedGuarded limits)
        (f.applyAccepted limits (args.map (Expression.evaluate limits d))) := by
      rw [List.mapM_map]
      -- Every operand was kept, so that the body gets operands that fit.
      have hall : Yields (fun os => ∀ o ∈ os, Outcome.InMemory o)
          (args.mapM (Expression.evaluateGuarded limits d)) :=
        .mapM fun e _ => e.yields_inMemory
      refine (Reaches.mapM h).bind fun hok => .of_eq ?_
      exact applyAcceptedGuarded_eq limits (by rwa [List.length_map]) (hall _ hok)
    cases f with
    | logical op => exact op.applyGuarded_reaches hcount h
    | _ => exact hstrict
  · rw [if_neg hcount, if_neg hcount]
    exact .ok _

end Function

namespace Expression

variable {limits : Limits} {d : Document}

theorem evaluateGuarded_reaches (e : Expression) :
    Reaches (e.FitsMemory limits d) (e.evaluateGuarded limits d) (e.evaluate limits d) := by
  induction e using nested_induction with
  | field path =>
      rw [evaluateGuarded, evaluate, d.fieldOutcomeGuarded_eq]
      refine (Reaches.ok _).bind fun _ => .kept fun hfits => ?_
      have hself := hfits.self
      rwa [evaluate] at hself
  | literal v =>
      rw [evaluateGuarded, evaluate]
      refine .kept fun hfits => ?_
      have hself := hfits.self
      rwa [evaluate] at hself
  | call f args ih =>
      have hargs : ∀ e ∈ args,
          Reaches ((call f args).FitsMemory limits d) (e.evaluateGuarded limits d) (e.evaluate limits d) :=
        fun e he => (ih e he).mono fun hfits => hfits.of_call he
      rw [evaluateGuarded, evaluate_call, evaluateAllGuarded_eq_map]
      refine (f.applyGuarded_reaches hargs).bind fun _ => .kept fun hfits => ?_
      have hself := hfits.self
      rwa [evaluate_call] at hself

end Expression

/-! ### Execution -/

/-- The id of the collection that holds a document: the last segment but one, if there are two. -/
def ResourcePath.collectionIdGuarded (p : ResourcePath) : Guarded (Option String) :=
  if p.segments.length < 2 then return none
  else do
    let i ← difference p.segments.length 2
    let id ← read p.segments i
    return some id

theorem ResourcePath.collectionIdGuarded_eq (p : ResourcePath) : p.collectionIdGuarded = .ok p.collectionId? := by
  unfold collectionIdGuarded collectionId?
  rw [List.getLast?_eq_getElem?, List.length_dropLast]
  by_cases h : p.segments.length < 2
  · have hnone : p.segments.dropLast[p.segments.length - 1 - 1]? = none := by
      rw [List.getElem?_eq_none_iff, List.length_dropLast]
      omega
    rw [if_pos h, hnone]
    rfl
  · have hin : p.segments.length - 2 < p.segments.length := by omega
    have hindex : p.segments.length - 1 - 1 = p.segments.length - 2 := by omega
    have hdifference : difference p.segments.length 2 = .ok (p.segments.length - 2) := if_pos (by omega)
    have hread : read p.segments (p.segments.length - 2) = .ok p.segments[p.segments.length - 2] :=
      read_of_getElem? (List.getElem?_eq_getElem hin)
    have hlast : p.segments.dropLast[p.segments.length - 1 - 1]? = some p.segments[p.segments.length - 2] := by
      rw [hindex, List.getElem?_dropLast, if_pos (by omega), List.getElem?_eq_getElem hin]
    rw [if_neg h, hlast]
    simp only [hdifference, bind, Except.bind, hread]
    rfl

def Source.admitsGuarded (s : Source) (key : ResourcePath) : Guarded Bool :=
  match s with
  | .collectionGroup id => do
    let found ← key.collectionIdGuarded
    return found = some id
  | s => return s.Admits key

theorem Source.admitsGuarded_eq (s : Source) (key : ResourcePath) :
    s.admitsGuarded key = .ok (decide (s.Admits key)) := by
  cases s with
  | collectionGroup id =>
      unfold admitsGuarded
      dsimp only
      rw [key.collectionIdGuarded_eq]
      rfl
  | _ => rfl

namespace Step

def runGuarded (limits : Limits) : Step → List Document → Guarded (List Document)
  | filter condition, ds => Guarded.filter (fun d => (condition.evaluateGuarded limits d).map Outcome.isTrue) ds
  | sort keys, ds => do
    let decorated ← ds.mapM fun d => do
      let outcomes ← keys.mapM fun key => key.expression.evaluateGuarded limits d
      return (outcomes, d)
    return (decorated.mergeSort fun a b => (Document.compareBy keys a b).isLE).map Prod.snd
  | offset count, ds => drain ds (min count.toNat ds.length)
  | limit count, ds => return ds.take count.toNat

variable {limits : Limits} {ds : List Document} {fits : Prop}

/-- **One step**: it comes to its documents if its expressions come to their outcomes on all of them. -/
theorem runGuarded_reaches (s : Step) (h : fits → ∀ e ∈ s.expressions, ∀ d ∈ ds, e.FitsMemory limits d) :
    Reaches fits (s.runGuarded limits ds) (s.run limits ds) := by
  have hreaches : ∀ e ∈ s.expressions, ∀ d ∈ ds,
      Reaches fits (e.evaluateGuarded limits d) (e.evaluate limits d) := fun e he d hd =>
    e.evaluateGuarded_reaches.mono fun hfits => h hfits e he d hd
  cases s with
  | filter condition => exact .filter fun d hd => (hreaches condition List.mem_cons_self d hd).map
  | sort keys =>
      refine (Reaches.mapM (f := fun d => (SortKey.outcomes limits keys d, d)) fun d hd => ?_).bind fun _ => .ok _
      have houtcomes : Reaches fits (keys.mapM fun key => key.expression.evaluateGuarded limits d)
          (SortKey.outcomes limits keys d) :=
        .mapM fun key hkey => hreaches key.expression (List.mem_map_of_mem hkey) d hd
      exact houtcomes.bind fun _ => .ok _
  | offset count =>
      have hdrain : drain ds (min count.toNat ds.length) = .ok (ds.drop (min count.toNat ds.length)) :=
        if_pos (Nat.min_le_right _ _)
      have hdrop : ds.drop (min count.toNat ds.length) = ds.drop count.toNat := by
        rcases Nat.le_total count.toNat ds.length with hle | hle
        · rw [Nat.min_eq_left hle]
        · rw [Nat.min_eq_right hle, List.drop_length, List.drop_eq_nil_of_le hle]
      rw [hdrop] at hdrain
      exact .of_eq hdrain
  | limit count => exact .ok _

end Step

/-- A source that stands behind the first stage would leave the documents as they are. -/
def Stage.runGuarded (limits : Limits) (ds : List Document) : Stage → Guarded (List Document)
  | source _ => return ds
  | step s => s.runGuarded limits ds

namespace Pipeline

/-- The source, which is read off the first stage. -/
def sourceGuarded (p : Pipeline) : Guarded Source := do
  match ← read p.stages 0 with
  | .source s => return s
  | .step _ => return .database

/-- The documents of a run that reads its source and its steps off the list of stages. -/
def runGuarded (limits : Limits) (p : Pipeline) (ds : List Document) : Guarded (List Document) := do
  let source ← p.sourceGuarded
  let admitted ← Guarded.filter (fun d => source.admitsGuarded d.key) ds
  let rest ← stretch p.stages 1 p.stages.length
  rest.foldlM (fun ds stage => stage.runGuarded limits ds) (Document.firstOfRuns (Document.sortedByKey admitted))

/-- The expressions of the steps fit in memory with all their parts, on each of the documents. -/
def FitsMemory (limits : Limits) (ds : List Document) (p : Pipeline) : Prop :=
  ∀ s ∈ p.steps, ∀ e ∈ s.expressions, ∀ d ∈ ds, e.FitsMemory limits d

variable {limits : Limits} {ds current : List Document} {fits : Prop}

/-- **All steps**: each comes to its documents, which are among those that were there in the beginning. -/
theorem foldlM_runGuarded_reaches (steps : List Step) (hcurrent : ∀ d ∈ current, d ∈ ds)
    (h : fits → ∀ s ∈ steps, ∀ e ∈ s.expressions, ∀ d ∈ ds, e.FitsMemory limits d) :
    Reaches fits ((steps.map Stage.step).foldlM (fun ds stage => stage.runGuarded limits ds) current)
      (Step.runAll limits steps current) := by
  induction steps generalizing current with
  | nil => exact .ok current
  | cons s steps ih =>
      rw [List.map_cons, List.foldlM_cons]
      have hstep : Reaches fits ((Stage.step s).runGuarded limits current) (s.run limits current) :=
        s.runGuarded_reaches fun hfits e he d hd => h hfits s List.mem_cons_self e he d (hcurrent d hd)
      refine hstep.bind fun _ => ih ?_ ?_
      · intro d hd
        exact hcurrent d (Step.mem_of_mem_run hd).1
      · intro hfits s' hs'
        exact h hfits s' (List.mem_cons_of_mem s hs')

theorem runGuarded_reaches (p : Pipeline) :
    Reaches (p.FitsMemory limits ds) (p.runGuarded limits ds) (p.run limits ds) := by
  have hsource : p.sourceGuarded = .ok p.source := rfl
  have hrest : stretch p.stages 1 p.stages.length = .ok (p.steps.map .step) :=
    stretch_cons_one (Stage.source p.source) (p.steps.map Stage.step)
  have hadmitted : Reaches (p.FitsMemory limits ds) (Guarded.filter (fun d => p.source.admitsGuarded d.key) ds)
      (ds.filter fun d => p.source.Admits d.key) :=
    .filter fun d _ => .of_eq (p.source.admitsGuarded_eq d.key)
  unfold runGuarded
  rw [hsource, hrest]
  refine (Reaches.ok p.source).bind fun _ => hadmitted.bind fun _ => (Reaches.ok _).bind fun _ => ?_
  -- What enters the first step are documents of the input, so that the expressions fit on all of them.
  refine foldlM_runGuarded_reaches p.steps (fun d hd => ?_) id
  exact Document.mem_of_firstWith? (mem_admitted_iff.mp hd).2

/-- **Nothing goes out of bounds.**  Evaluation in guarded steps comes to the outcome of every expression on every
document, and a guarded run to the documents of every pipeline: with any number of operands, any path, any 64-bit
positions, lengths, offsets and limits, no position is read outside its sequence, no stretch runs over an end, and no
sum or product passes its word.  The only other end is a part whose outcome no memory holds, and there is none of
that kind if all outcomes fit. -/
theorem run_in_bounds (limits : Limits) :
    (∀ (e : Expression) (d : Document),
      Reaches (e.FitsMemory limits d) (e.evaluateGuarded limits d) (e.evaluate limits d)) ∧
    ∀ (p : Pipeline) (ds : List Document),
      Reaches (p.FitsMemory limits ds) (p.runGuarded limits ds) (p.run limits ds) :=
  ⟨fun e _ => e.evaluateGuarded_reaches, fun p _ => p.runGuarded_reaches⟩

example (d : Document) :
    (Expression.call (.array .get) [.literal (.array [.null]), .literal (.integer Int64.minValue)]).evaluateGuarded
      {} d = .ok .unset := rfl

example (d : Document) :
    (Expression.call (.string .substring) [.literal (.bytes [7, 8]), .literal (.integer Int64.minValue),
      .literal (.integer Int64.maxValue)]).evaluateGuarded {} d = .ok (.value (.bytes [7, 8])) := rfl

example (d : Document) :
    (Expression.call (.comparison .eq) [.field ⟨[]⟩]).evaluateGuarded {} d =
      .ok (.error ⟨.comparison .eq, .wrongCount 1⟩) := rfl

end Pipeline

end DocumentQuery
