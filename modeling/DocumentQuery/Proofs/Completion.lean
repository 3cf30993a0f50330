import DocumentQuery.Proofs.QueryEquality

/-! # Known answers survive the completion of nulls

A null stands for a value that is not known.  A value is completed by replacing some of its nulls, at any depth, by
values (`Value.CompletedBy`), and an answer is kept if it was unknown or stays what it was (`Truth.Keeps`,
`Outcome.Keeps`).  Three-valued conjunction keeps answers in both operands.  Equality is put together by it alone,
so it keeps them at every depth (`Value.keeps_equals?`); as it does not look at the order of its operands, it is
enough to complete the left one.

Membership searches among answers of equality, and a search keeps its answer too (`Value.keeps_search`).  So what a
function of equality or membership answers on operands with nulls inside is what it answers on every completion of
them, unless it is null (`Function.keeps_apply`). -/

namespace DocumentQuery

/-! ### Answers that are kept -/

namespace Truth

variable {a a' b b' : Option Bool}

/-- A search that an unknown answer left open finds nothing but what decides. -/
theorem eq_decider_of_search {decider r : Bool} {answers : List (Option Bool)}
    (h : search decider true answers = some r) : r = decider := by
  induction answers with
  | nil => cases h
  | cons answer rest ih =>
      cases answer with
      | none => exact ih h
      | some b =>
          rw [search] at h
          split_ifs at h
          · exact (Option.some.inj h).symm
          · exact ih h

/-- A known answer stays what it is. -/
def Keeps (before after : Option Bool) : Prop := ∀ r, before = some r → after = some r

theorem Keeps.refl (a : Option Bool) : Keeps a a := fun _ h => h

theorem Keeps.trans {c : Option Bool} (hab : Keeps a b) (hbc : Keeps b c) : Keeps a c :=
  fun r h => hbc r (hab r h)

theorem keeps_none (a : Option Bool) : Keeps none a := nofun

theorem Keeps.not (h : Keeps a a') : Keeps (a.map not) (a'.map not) := by
  intro r hr
  obtain ⟨s, hs, rfl⟩ := Option.map_eq_some_iff.mp hr
  rw [h s hs, Option.map_some]

theorem Keeps.both (ha : Keeps a a') (hb : Keeps b b') : Keeps (both a b) (both a' b') := by
  intro r hr
  cases r with
  | true =>
      rw [both_eq_some_true_iff] at hr ⊢
      exact ⟨ha true hr.1, hb true hr.2⟩
  | false =>
      rw [both_eq_some_false_iff] at hr ⊢
      exact hr.imp (ha false) (hb false)

end Truth

open Truth (Keeps)

/-! ### Completion -/

namespace Value

mutual

/-- The second value is the first one with some of its nulls, at any depth, replaced by values. -/
inductive CompletedBy : Value → Value → Prop where
  | null (v : Value) : CompletedBy .null v
  | same (v : Value) : CompletedBy v v
  | array {items others : List Value} :
      ItemsCompletedBy items others → CompletedBy (.array items) (.array others)
  | map {fields others : List (String × Value)} :
      FieldsCompletedBy fields others → CompletedBy (.map fields) (.map others)

/-- Item by item. -/
inductive ItemsCompletedBy : List Value → List Value → Prop where
  | nil : ItemsCompletedBy [] []
  | cons {a b : Value} {as bs : List Value} :
      CompletedBy a b → ItemsCompletedBy as bs → ItemsCompletedBy (a :: as) (b :: bs)

/-- Binding by binding; the keys stay. -/
inductive FieldsCompletedBy : List (String × Value) → List (String × Value) → Prop where
  | nil : FieldsCompletedBy [] []
  | cons {key : String} {a b : Value} {as bs : List (String × Value)} :
      CompletedBy a b → FieldsCompletedBy as bs → FieldsCompletedBy ((key, a) :: as) ((key, b) :: bs)

end

variable {a a' b b' : Value}

theorem ItemsCompletedBy.refl (items : List Value) : ItemsCompletedBy items items := by
  induction items with
  | nil => exact .nil
  | cons v rest ih => exact .cons (.same v) ih

/-- Only a null changes its kind. -/
theorem CompletedBy.kind_eq (h : a.CompletedBy a') (hn : a ≠ .null) : a'.kind = a.kind := by
  cases h with
  | null => exact absurd rfl hn
  | same => rfl
  | array => rfl
  | map => rfl

theorem CompletedBy.ne_null (h : a.CompletedBy a') (hn : a ≠ .null) : a' ≠ .null := by
  rintro rfl
  have hkind := h.kind_eq hn
  cases a <;> first
    | exact hn rfl
    | cases hkind

theorem isNull_eq_false (hn : a ≠ .null) : a.isNull = false := by
  cases a <;> first
    | exact absurd rfl hn
    | rfl

/-- The content of an array is completed item by item. -/
theorem CompletedBy.array?_cases (h : a.CompletedBy a') (hn : a ≠ .null) :
    (∃ items others, a = .array items ∧ a' = .array others ∧ ItemsCompletedBy items others) ∨
      a.array? = none ∧ a'.array? = none := by
  cases h with
  | null => exact absurd rfl hn
  | same =>
      cases a with
      | array items => exact .inl ⟨items, items, rfl, rfl, .refl items⟩
      | _ => exact .inr ⟨rfl, rfl⟩
  | array hitems => exact .inl ⟨_, _, rfl, rfl, hitems⟩
  | map => exact .inr ⟨rfl, rfl⟩

/-! ### Equality keeps its answers -/

theorem keeps_itemsEqual? {as as' : List Value}
    (h : ∀ a ∈ as, ∀ a', a.CompletedBy a' → ∀ b, Keeps (a.equals? b) (a'.equals? b))
    (hc : ItemsCompletedBy as as') : ∀ bs, Keeps (itemsEqual? as bs) (itemsEqual? as' bs) := by
  induction as generalizing as' with
  | nil =>
      cases hc
      exact fun bs => .refl _
  | cons a as ih =>
      cases hc with
      | cons hhead htail =>
          intro bs
          cases bs with
          | nil => exact .refl _
          | cons b bs =>
              have hrest := ih (fun x hx => h x (List.mem_cons_of_mem a hx)) htail bs
              rw [itemsEqual?, itemsEqual?]
              exact (h a List.mem_cons_self _ hhead b).both hrest

theorem keeps_fieldsEqual? {as as' : Record}
    (h : ∀ f ∈ as, ∀ a', f.2.CompletedBy a' → ∀ b, Keeps (f.2.equals? b) (a'.equals? b))
    (hc : FieldsCompletedBy as as') : ∀ bs, Keeps (fieldsEqual? as bs) (fieldsEqual? as' bs) := by
  induction as generalizing as' with
  | nil =>
      cases hc
      exact fun bs => .refl _
  | cons f as ih =>
      cases hc with
      | cons hhead htail =>
          intro bs
          cases bs with
          | nil => exact .refl _
          | cons g bs =>
              have hrest := ih (fun x hx => h x (List.mem_cons_of_mem _ hx)) htail bs
              rw [fieldsEqual?, fieldsEqual?]
              exact (Keeps.refl _).both ((h _ List.mem_cons_self _ hhead g.2).both hrest)

/-- Completing the left operand keeps a known answer. -/
theorem keeps_equals?_left (h : a.CompletedBy a') (b : Value) : Keeps (a.equals? b) (a'.equals? b) := by
  have hnull : ∀ v : Value, v.equals? null = none := fun v => by cases v <;> rfl
  induction a using nested_induction generalizing a' b with
  | plain a ha hm =>
      cases h with
      | null => rw [equals?_comm, hnull]; exact Truth.keeps_none _
      | same => exact .refl _
      | array => cases ha
      | map => cases hm
  | array as ih =>
      cases h with
      | same => exact .refl _
      | array hitems =>
          cases b with
          | array bs => exact keeps_itemsEqual? (fun x hx a' h => ih x hx h) hitems bs
          | _ => exact .refl _
  | map as ih =>
      cases h with
      | same => exact .refl _
      | map hfields =>
          cases b with
          | map bs => exact keeps_fieldsEqual? (fun x hx a' h => ih x hx h) hfields bs
          | _ => exact .refl _

/-- **Equality keeps its answers** when nulls inside its operands are completed. -/
theorem keeps_equals? (ha : a.CompletedBy a') (hb : b.CompletedBy b') : Keeps (a.equals? b) (a'.equals? b') := by
  have hright : Keeps (a'.equals? b) (a'.equals? b') := by
    rw [equals?_comm a' b, equals?_comm a' b']
    exact keeps_equals?_left hb a'
  exact (keeps_equals?_left ha b).trans hright

/-! ### Membership keeps its answers -/

/-- A search keeps its answer if the answers it goes through do, and completion leaves it open in no new place. -/
theorem keeps_search {f g : Value → Option Bool} {items others : List Value} {unknown unknown' : Bool} (decider : Bool)
    (h : ∀ a b, a.CompletedBy b → Keeps (f a) (g b)) (hc : ItemsCompletedBy items others)
    (hunknown : unknown' → unknown) :
    Keeps (Truth.search decider unknown (items.map f)) (Truth.search decider unknown' (others.map g)) := by
  induction items generalizing others unknown unknown' with
  | nil =>
      cases hc
      cases unknown with
      | true => exact Truth.keeps_none _
      | false =>
          rw [Bool.eq_false_iff.mpr (mt hunknown Bool.false_ne_true)]
          exact .refl _
  | cons a rest ih =>
      cases hc with
      | @cons _ b _ others hhead htail =>
          intro r hr
          rw [List.map_cons] at hr ⊢
          cases hbefore : f a with
          | some answer =>
              rw [hbefore, Truth.search] at hr
              rw [h a b hhead answer hbefore, Truth.search]
              split_ifs at hr ⊢
              · exact hr
              · exact ih htail hunknown r hr
          | none =>
              rw [hbefore, Truth.search] at hr
              cases g b with
              | none => exact ih htail id r hr
              | some answer =>
                  rw [Truth.search]
                  split_ifs with hdecides
                  · rw [Truth.eq_decider_of_search hr]
                  · exact ih htail (fun _ => rfl) r hr

theorem keeps_isAnyOf? {items others : List Value} (h : a.CompletedBy a')
    (hitems : ItemsCompletedBy items others) : Keeps (a.isAnyOf? items) (a'.isAnyOf? others) := by
  refine keeps_search true (fun _ _ hb => keeps_equals? h hb) hitems ?_
  -- A null is unknown in every list; any other value stays what is no null.
  by_cases hn : a = .null
  · subst hn
    exact fun _ => rfl
  · rw [isNull_eq_false hn, isNull_eq_false (h.ne_null hn)]
    exact id

end Value

open Value (CompletedBy ItemsCompletedBy)

namespace ArrayFunction

variable {items others candidates replaced : List Value}

theorem keeps_containsAny? (hi : ItemsCompletedBy items others) (hc : ItemsCompletedBy candidates replaced) :
    Keeps (containsAny? items candidates) (containsAny? others replaced) :=
  Value.keeps_search true (fun _ _ h => Value.keeps_isAnyOf? h hi) hc id

theorem keeps_containsAll? (hi : ItemsCompletedBy items others) (hc : ItemsCompletedBy candidates replaced) :
    Keeps (containsAll? items candidates) (containsAll? others replaced) :=
  Value.keeps_search false (fun _ _ h => Value.keeps_isAnyOf? h hi) hc id

end ArrayFunction

/-! ### Functions keep their outcomes -/

namespace Outcome

/-- Only a null changes. -/
def Keeps (before after : Outcome) : Prop := before = null ∨ after = before

theorem Keeps.refl (o : Outcome) : Keeps o o := .inr rfl

theorem keeps_ofTruth {a a' : Option Bool} (h : Truth.Keeps a a') : Keeps (ofTruth a) (ofTruth a') := by
  cases a with
  | none => exact .inl rfl
  | some r =>
      rw [h r rfl]
      exact .refl _

end Outcome

/-- Only a null result changes; an error stays. -/
def KeepsResult (before after : Except Cause Outcome) : Prop := before = .ok .null ∨ after = before

namespace KeepsResult

theorem ok {o o' : Outcome} (h : o.Keeps o') : KeepsResult (.ok o) (.ok o') :=
  h.imp (congrArg _) (congrArg _)

theorem toArray {a a' : Value} {k k' : List Value → Except Cause Outcome} (h : a.CompletedBy a')
    (hn : a ≠ .null)
    (hk : ∀ items others, ItemsCompletedBy items others → KeepsResult (k items) (k' others)) :
    KeepsResult (a.toArray >>= k) (a'.toArray >>= k') := by
  obtain ⟨items, others, rfl, rfl, hitems⟩ | ⟨ha, ha'⟩ := h.array?_cases hn
  · exact hk items others hitems
  · have herror : ∀ {v : Value}, v.array? = none → v.toArray = .error (.typeMismatch .array v.kind) := by
      intro v hv
      rw [Value.toArray, Value.demand, hv]
    rw [herror ha, herror ha', h.kind_eq hn]
    exact .inr rfl

end KeepsResult

namespace Function

/-- The functions whose answers are made of answers of equality. -/
def equalityTests : List Function :=
  [comparison .eq, comparison .neq, comparison .eqAny, comparison .notEqAny, array .contains,
    array .containsAny, array .containsAll]

variable {a a' b b' : Value}

theorem keeps_onValues (limits : Limits) {f : Function} (hf : f ∈ equalityTests) (ha : a.CompletedBy a')
    (hb : b.CompletedBy b') (hna : a ≠ .null) (hnb : b ≠ .null) :
    KeepsResult (f.onValues limits [a, b]) (f.onValues limits [a', b']) := by
  simp only [equalityTests, List.mem_cons, List.not_mem_nil, or_false] at hf
  rcases hf with rfl | rfl | rfl | rfl | rfl | rfl | rfl
  · exact .ok (Outcome.keeps_ofTruth (Value.keeps_equals? ha hb))
  · exact .ok (Outcome.keeps_ofTruth (Value.keeps_equals? ha hb).not)
  · exact .toArray hb hnb fun _ _ hitems => .ok (Outcome.keeps_ofTruth (Value.keeps_isAnyOf? ha hitems))
  · exact .toArray hb hnb fun _ _ hitems => .ok (Outcome.keeps_ofTruth (Value.keeps_isAnyOf? ha hitems).not)
  · exact .toArray ha hna fun _ _ hitems => .ok (Outcome.keeps_ofTruth (Value.keeps_isAnyOf? hb hitems))
  · exact .toArray ha hna fun _ _ hitems => .toArray hb hnb fun _ _ hcandidates =>
      .ok (Outcome.keeps_ofTruth (ArrayFunction.keeps_containsAny? hitems hcandidates))
  · exact .toArray ha hna fun _ _ hitems => .toArray hb hnb fun _ _ hcandidates =>
      .ok (Outcome.keeps_ofTruth (ArrayFunction.keeps_containsAll? hitems hcandidates))

theorem apply_eq_applyStrict (limits : Limits) {f : Function} (hf : f ∈ equalityTests) (o p : Outcome) :
    f.apply limits [o, p] = f.applyStrict limits [o, p] := by
  simp only [equalityTests, List.mem_cons, List.not_mem_nil, or_false] at hf
  rcases hf with rfl | rfl | rfl | rfl | rfl | rfl | rfl <;> rfl

/-- A function of equality or membership keeps its outcome when nulls inside its operands are completed. -/
theorem keeps_apply (limits : Limits) {f : Function} (hf : f ∈ equalityTests) (ha : a.CompletedBy a')
    (hb : b.CompletedBy b') :
    (f.apply limits [.ofValue a, .ofValue b]).Keeps (f.apply limits [.ofValue a', .ofValue b']) := by
  rw [apply_eq_applyStrict limits hf, apply_eq_applyStrict limits hf]
  by_cases hnull : a = .null ∨ b = .null
  · exact .inl (applyStrict_of_null limits f hnull)
  · obtain ⟨hna, hnb⟩ := not_or.mp hnull
    rw [applyStrict_of_ne_null limits f hna hnb,
      applyStrict_of_ne_null limits f (ha.ne_null hna) (hb.ne_null hnb)]
    exact (keeps_onValues limits hf ha hb hna hnb).imp (congrArg _) (congrArg _)

end Function

namespace Value

/-- **Known answers survive the completion of nulls**, of equality in either order of its operands, and of the
functions made of it: what one of these answers on two operands, other than null, it answers on all their
completions. -/
theorem known_answers_survive_completion (limits : Limits) :
    (∀ a b : Value, a.equals? b = b.equals? a) ∧
      (∀ a a' b b' : Value, a.CompletedBy a' → b.CompletedBy b' →
        ∀ r, a.equals? b = some r → a'.equals? b' = some r) ∧
      ∀ f ∈ Function.equalityTests, ∀ a a' b b' : Value, a.CompletedBy a' → b.CompletedBy b' →
        f.apply limits [.ofValue a, .ofValue b] = .null ∨
          f.apply limits [.ofValue a', .ofValue b'] = f.apply limits [.ofValue a, .ofValue b] :=
  ⟨equals?_comm, fun _ _ _ _ => keeps_equals?, fun _ hf _ _ _ _ => Function.keeps_apply limits hf⟩

/-- A difference in front of a null decides for whatever the null stands for, and an item that is found is found
beside anything; the answer about an item beside a null alone is null and does change. -/
theorem known_answers_survive_completion_beside_null :
    (array [integer 1, .null]).equals? (array [integer 2, .null]) = some false ∧
      (array [integer 1, string "x"]).equals? (array [integer 2, map []]) = some false ∧
      (Function.array .contains).apply {} [.ofValue (array [.null, integer 2]), .ofValue (integer 2)] =
        .boolean true ∧
      (Function.array .contains).apply {} [.ofValue (array [vector [], integer 2]), .ofValue (integer 2)] =
        .boolean true ∧
      (Function.array .contains).apply {} [.ofValue (array [.null]), .ofValue (integer 2)] = .null ∧
      (Function.array .contains).apply {} [.ofValue (array [integer 2]), .ofValue (integer 2)] =
        .boolean true := by
  have hleft : (array [integer 1, .null]).CompletedBy (array [integer 1, string "x"]) :=
    .array (.cons (.same _) (.cons (.null _) .nil))
  have hright : (array [integer 2, .null]).CompletedBy (array [integer 2, map []]) :=
    .array (.cons (.same _) (.cons (.null _) .nil))
  have hitems : (array [.null, integer 2]).CompletedBy (array [vector [], integer 2]) :=
    .array (.cons (.null _) (.cons (.same _) .nil))
  have hdifferent : (array [integer 1, .null]).equals? (array [integer 2, .null]) = some false := by decide
  have hfound : (Function.array .contains).apply {} [.ofValue (array [.null, integer 2]), .ofValue (integer 2)] =
      .boolean true := rfl
  refine ⟨hdifferent, ?_, hfound, ?_, rfl, rfl⟩
  · exact (known_answers_survive_completion {}).2.1 _ _ _ _ hleft hright _ hdifferent
  · have hkept := (known_answers_survive_completion {}).2.2 (.array .contains) (by decide) _ _ _ _ hitems
      (.same (integer 2))
    rw [hfound] at hkept
    exact hkept.resolve_left nofun

end Value

end DocumentQuery
