import DocumentQuery.BuiltinEngine.Build
import DocumentQuery.Proofs.BuiltinMatching

/-! # The engine of the library is documented

The engine that limits hold by default does what an engine's documentation says, with the dot, the two ends of a text,
single characters, the three short forms of repetition, groups and one flag as its words (`BuiltinEngine.vocabulary`).

Reading takes one sign at a time, whatever stands behind it (`readAs_token`), so that reading signs is a fold of their
steps over the stack of open groups (`read?_textOf`).  The stack grows and shrinks as the depth of the signs
(`depth_run`), and the signs of a tree put the branches and items of the tree into the group they stand in
(`run_tokens`).  What that group closes to matches as the tree does (`matches_close_into_iff`). -/

namespace DocumentQuery.BuiltinEngine

open Pattern (Vocabulary Meaning Token SignTree textOf depthAfter WellNested Proper peak)

/-! ### The words -/

inductive Word where
  | dot | textStart | textEnd
  | char (c : Char)

/-- How often something is repeated. -/
inductive Count where
  | any | atLeastOne | atMostOne

namespace Word

def text : Word → String
  | dot => "."
  | textStart => "^"
  | textEnd => "$"
  | char c => escape (String.singleton c)

def meaning (dotAll : Bool) : Word → Meaning
  | dot => .one fun c => dotAll || c != '\n'
  | textStart => .look fun before _ => before.isNone
  | textEnd => .look fun _ after => after.isNone
  | char c => .one fun d => d == c

def regex (dotAll : Bool) : Word → Regex
  | dot => .chars (if dotAll then .any else .compl (.single '\n'))
  | textStart => .look .textStart
  | textEnd => .look .textEnd
  | char c => .chars (.single c)

theorem contains_single (c d : Char) : (CharSet.single c).contains d.toNat = (d == c) := by
  rw [Bool.eq_iff_iff, CharSet.contains_single, beq_iff_eq]

theorem matches_regex_iff (dotAll : Bool) (w : Word) {text : List Char} {p q : Nat} :
    (w.regex dotAll).Matches text.toArray p q ↔ (w.meaning dotAll).Matches text p q := by
  cases w with
  | dot =>
      cases dotAll
      · simp [regex, meaning, Regex.Matches, Meaning.Matches, CharSet.contains, contains_single]
      · simp [regex, meaning, Regex.Matches, Meaning.Matches]
  | textStart =>
      refine and_congr eq_comm ?_
      simp [Look.holdsAt, Look.holds]
  | textEnd =>
      refine and_congr eq_comm ?_
      simp [Look.holdsAt, Look.holds]
  | char c => simp [regex, meaning, Regex.Matches, Meaning.Matches, contains_single]

end Word

namespace Count

def text : Count → String
  | any => "*"
  | atLeastOne => "+"
  | atMostOne => "?"

/-- What stands behind something that is repeated. -/
def suffix (times : Option Count) : String := (times.map text).getD ""

def bounds : Count → Nat × Option Nat
  | any => (0, none)
  | atLeastOne => (1, none)
  | atMostOne => (0, some 1)

end Count

/-- A group, with or without bounds of its own. -/
inductive Opening where
  | plain | capturing

namespace Opening

def text : Opening → String
  | plain => "(?:"
  | capturing => "("

def bounded : Opening → Bool
  | plain => false
  | capturing => true

end Opening

abbrev vocabulary : Vocabulary where
  Item := Word
  Times := Count
  Opening := Opening
  Setting := Unit
  Flags := Bool
  itemText := Word.text
  timesText := Count.text
  openingText := Opening.text
  settingText := fun _ => "(?s)"
  known := fun _ => true
  meaning := Word.meaning
  bounds := Count.bounds
  name? := fun _ => none
  enter := fun _ dotAll => dotAll
  set := fun _ _ => true
  initial := false
  depth := 60
  dot := .dot
  textStart := .textStart
  textEnd := .textEnd
  quoted := .char
  anyTimes := .any
  plainGroup := .plain
  dotAll := ()

theorem proper (ts : List (Token vocabulary)) : Proper ts := by
  have hnames : Pattern.names ts = [] := by
    refine List.filterMap_eq_nil_iff.mpr fun t _ => ?_
    cases t <;> rfl
  refine ⟨fun t _ => ?_, hnames ▸ List.nodup_nil⟩
  cases t <;> rfl

/-! ### Reading a sign -/

/-- The flags that an expression is read under. -/
def dotFlags (dotAll : Bool) : Flags := { dotAll }

/-- A part some number of times. -/
def Piece.times (p : Piece) : Option Count → Piece
  | none => p
  | some n => ⟨p.regex.ofRepetition n.bounds.1 n.bounds.2, p.depth + 1⟩

namespace Group

/-- An item in the open branch, read under the flags of the group. -/
def pushWord (g : Group) (w : Word) (times : Option Count) : Group :=
  g.push ((⟨w.regex g.flags.dotAll, 0⟩ : Piece).times times)

/-- From here on the dot takes up line ends. -/
def setDotAll (g : Group) : Group := { g with flags := dotFlags true, items := .flags :: g.items }

/-- A closed group as a part. -/
def closed (g : Group) : Piece := ⟨if g.bounded then g.close.regex.group else g.close.regex, g.close.depth + 1⟩

end Group

/-- What reading a sign does. -/
def step (r : Reading) : Token vocabulary → Option Reading
  | .item w times => some { r with group := r.group.pushWord w times }
  | .setting _ => some { r with group := r.group.setDotAll }
  | .opening o => some (r.openGroup r.group.flags o.bounded)
  | .bar => some { r with group := r.group.closeBranch }
  | .closing times =>
    match r.outer with
    | [] => none
    | g :: outer => some { r with outer, group := g.push (r.group.closed.times times) }

/-- In every open group the flag is set or it is not, and no other one is. -/
def Under (r : Reading) : Prop := ∀ g ∈ r.group :: r.outer, ∃ dotAll, g.flags = dotFlags dotAll

/-- No question mark comes next, which would make a repetition lazy. -/
def Eager (text : List Char) : Prop := text.head? ≠ some '?'

theorem skipLazy_of_eager {text : List Char} (h : Eager text) : skipLazy text = text := by
  unfold skipLazy
  split
  · exact absurd rfl h
  · rfl

section reading

variable {r : Reading}

theorem Under.exists_flags (h : Under r) : ∃ dotAll, r.group.flags = dotFlags dotAll := h r.group List.mem_cons_self

theorem Under.push (h : Under r) (p : Piece) : Under (r.push p) :=
  List.forall_mem_cons.mpr (List.forall_mem_cons.mp h)

theorem Under.step (h : Under r) {t : Token vocabulary} {r' : Reading} (hstep : step r t = some r') : Under r' := by
  obtain ⟨hgroup, houter⟩ := List.forall_mem_cons.mp h
  cases t with
  | item w times | bar =>
      obtain rfl := Option.some.inj hstep
      exact List.forall_mem_cons.mpr ⟨hgroup, houter⟩
  | setting s =>
      obtain rfl := Option.some.inj hstep
      exact List.forall_mem_cons.mpr ⟨⟨true, rfl⟩, houter⟩
  | opening o =>
      obtain rfl := Option.some.inj hstep
      exact List.forall_mem_cons.mpr ⟨hgroup, h⟩
  | closing times =>
      obtain ⟨outer, group, names⟩ := r
      cases outer with
      | nil => cases hstep
      | cons g outer =>
          obtain rfl := Option.some.inj hstep
          exact List.forall_mem_cons.mpr (List.forall_mem_cons.mp houter)

/-! #### One item -/

theorem toList_escape (c : Char) : (escape (String.singleton c)).toList = if isMeta c then ['\\', c] else [c] := by
  unfold escape
  rw [String.toList_ofList, String.toList_singleton, List.flatMap_singleton]

theorem readItem_escaped (h : Under r) {c : Char} (hc : isMeta c) (rest : List Char) :
    readItem r ('\\' :: c :: rest) = some (r.push ⟨.chars (.single c), 0⟩, rest) := by
  obtain ⟨dotAll, hflags⟩ := h.exists_flags
  have hescape : readEscape r.group.flags (c :: rest) = some (.char c false, rest) := by
    have hescapable : isEscapable c := by
      unfold isEscapable
      rw [hc, Bool.true_or]
    unfold readEscape
    exact if_pos hescapable
  show (readEscape r.group.flags (c :: rest)).bind _ = _
  rw [hescape, hflags]
  rfl

theorem readItem_plain (h : Under r) {c : Char} (hc : isMeta c = false) (rest : List Char) :
    readItem r (c :: rest) = some (r.push ⟨.chars (.single c), 0⟩, rest) := by
  obtain ⟨dotAll, hflags⟩ := h.exists_flags
  unfold readItem
  rw [hflags]
  dsimp only
  -- Every sign with a reading of its own has a meaning of its own.
  split <;> first | rfl | exact absurd hc (by decide)

theorem readItem_word (h : Under r) (w : Word) (rest : List Char) :
    readItem r (w.text.toList ++ rest) = some (r.push ⟨w.regex r.group.flags.dotAll, 0⟩, rest) := by
  obtain ⟨dotAll, hflags⟩ := h.exists_flags
  cases w with
  | dot =>
      show readItem r ('.' :: rest) = _
      unfold readItem
      rw [hflags]
      cases dotAll <;> rfl
  | textStart =>
      show readItem r ('^' :: rest) = _
      unfold readItem
      rw [hflags]
      rfl
  | textEnd =>
      show readItem r ('$' :: rest) = _
      unfold readItem
      rw [hflags]
      rfl
  | char c =>
      show readItem r ((escape (String.singleton c)).toList ++ rest) = _
      rw [toList_escape]
      split_ifs with hc
      · exact readItem_escaped h hc rest
      · exact readItem_plain h (Bool.eq_false_iff.mpr hc) rest

theorem toList_setting (s : Unit) : (Token.setting s : Token vocabulary).text.toList = ['(', '?', 's', ')'] := by
  show "(?s)".toList = _
  rfl

theorem readItem_setting (h : Under r) (rest : List Char) :
    readItem r ('(' :: '?' :: 's' :: ')' :: rest) = some ({ r with group := r.group.setDotAll }, rest) := by
  obtain ⟨dotAll, hflags⟩ := h.exists_flags
  show readGroup r ('?' :: 's' :: ')' :: rest) = _
  unfold readGroup
  rw [hflags]
  rfl

theorem readItem_count (p : Piece) (n : Count) {rest : List Char} (hrest : Eager rest) :
    readItem (r.push p) (n.text.toList ++ rest) = some (r.push (p.times n), rest) := by
  cases n
  all_goals
    show some (_, skipLazy rest) = _
    rw [skipLazy_of_eager hrest]
    rfl

theorem advance_of_not_free (text : List Char) : advance false text = text := by
  cases text <;> rfl

theorem readItem_opening (h : Under r) (o : Opening) {rest : List Char} (hrest : Eager rest) :
    readItem r (o.text.toList ++ rest) = some (r.openGroup r.group.flags o.bounded, rest) := by
  obtain ⟨dotAll, hflags⟩ := h.exists_flags
  cases o with
  | plain =>
      show readGroup r ('?' :: ':' :: rest) = _
      unfold readGroup
      rw [hflags]
      rfl
  | capturing =>
      show readGroup r rest = _
      have hstart : advance (dotFlags dotAll).free rest = rest := advance_of_not_free rest
      unfold readGroup
      rw [hflags]
      dsimp only
      rw [hstart]
      split
      · exact absurd rfl hrest
      · exact absurd rfl hrest
      · exact absurd rfl hrest
      · rfl

/-! #### Items one after the other -/

theorem readItems_nil (fuel : Nat) (r : Reading) : readItems fuel r [] = some r := by
  rw [readItems.eq_def]
  cases r.group.flags.free <;> rfl

theorem readItems_of_ne_nil (h : Under r) (fuel : Nat) {text : List Char} (hne : text ≠ []) :
    readItems (fuel + 1) r text = (readItem r text).bind fun p => readItems fuel p.1 p.2 := by
  obtain ⟨dotAll, hflags⟩ := h.exists_flags
  have hstart : advance r.group.flags.free text = text := by
    rw [hflags]
    exact advance_of_not_free text
  obtain ⟨c, rest, rfl⟩ := List.exists_cons_of_ne_nil hne
  rw [readItems.eq_def, hstart]

/-- A text is read as a step, whatever stands behind it, with an item for every character at most. -/
def ReadAs (text : List Char) (r : Reading) (o : Option Reading) : Prop :=
  ∀ rest, Eager rest → ∃ k, k ≤ text.length ∧ ∀ fuel,
    readItems (fuel + k) r (text ++ rest) = o.bind fun r' => readItems fuel r' rest

/-- A part and what repeats it. -/
theorem readAs_repeated (h : Under r) {text : List Char} (hne : text ≠ []) {r₁ : Reading} {p : Piece}
    (h₁ : Under (r₁.push p)) (hread : ∀ rest, readItem r (text ++ rest) = some (r₁.push p, rest))
    (times : Option Count) :
    ReadAs (text ++ (Count.suffix times).toList) r (some (r₁.push (p.times times))) := by
  have hlength : 1 ≤ text.length := List.length_pos_iff.mpr hne
  intro rest hrest
  cases times with
  | none =>
      have hsuffix : (Count.suffix none).toList = [] := rfl
      refine ⟨1, by rw [hsuffix, List.append_nil]; exact hlength, fun fuel => ?_⟩
      rw [hsuffix, List.append_nil, readItems_of_ne_nil h fuel (List.append_ne_nil_of_left_ne_nil hne rest), hread]
      rfl
  | some n =>
      have hsuffix : (Count.suffix (some n)).toList = n.text.toList := rfl
      have hcount : 1 ≤ n.text.toList.length := by cases n <;> decide
      have hcountNe : n.text.toList ++ rest ≠ [] :=
        List.append_ne_nil_of_left_ne_nil (List.length_pos_iff.mp hcount) rest
      refine ⟨2, by rw [hsuffix, List.length_append]; omega, fun fuel => ?_⟩
      rw [hsuffix, List.append_assoc, readItems_of_ne_nil h (fuel + 1) (List.append_ne_nil_of_left_ne_nil hne _), hread,
        Option.bind_some, readItems_of_ne_nil h₁ fuel hcountNe, readItem_count p n hrest]
      rfl

/-- One sign is read as its step. -/
theorem readAs_token (h : Under r) (t : Token vocabulary) : ReadAs t.text.toList r (step r t) := by
  cases t with
  | item w times =>
      have hne : w.text.toList ≠ [] := by
        cases w with
        | char c =>
            show (escape (String.singleton c)).toList ≠ []
            rw [toList_escape]
            split_ifs <;> exact List.cons_ne_nil _ _
        | _ => decide
      show ReadAs (w.text ++ Count.suffix times).toList r _
      rw [String.toList_append]
      exact readAs_repeated h hne (h.push _) (fun rest => readItem_word h w rest) times
  | setting s =>
      intro rest hrest
      rw [toList_setting]
      refine ⟨1, Nat.le_add_left 1 3, fun fuel => ?_⟩
      show readItems (fuel + 1) r ('(' :: '?' :: 's' :: ')' :: rest) = _
      rw [readItems_of_ne_nil h fuel (List.cons_ne_nil _ _), readItem_setting h]
      rfl
  | opening o =>
      have hne : o.text.toList ≠ [] := by cases o <;> decide
      intro rest hrest
      refine ⟨1, List.length_pos_iff.mpr hne, fun fuel => ?_⟩
      show readItems (fuel + 1) r (o.text.toList ++ rest) = _
      rw [readItems_of_ne_nil h fuel (List.append_ne_nil_of_left_ne_nil hne rest), readItem_opening h o hrest]
      rfl
  | bar =>
      intro rest hrest
      refine ⟨1, Nat.le_refl 1, fun fuel => ?_⟩
      exact readItems_of_ne_nil h fuel (List.cons_ne_nil '|' rest)
  | closing times =>
      obtain ⟨outer, group, names⟩ := r
      show ReadAs (")" ++ Count.suffix times).toList _ _
      rw [String.toList_append]
      cases outer with
      | nil =>
          intro rest hrest
          refine ⟨1, Nat.le_add_left 1 _, fun fuel => ?_⟩
          exact readItems_of_ne_nil h fuel (List.cons_ne_nil ')' _)
      | cons g outer =>
          have hrest : Under { outer, group := g, names } := (List.forall_mem_cons.mp h).2
          exact readAs_repeated h (List.cons_ne_nil ')' []) (hrest.push group.closed) (fun rest => rfl) times

/-! ### Reading signs -/

/-- What reading signs does. -/
def run (r : Reading) (ts : List (Token vocabulary)) : Option Reading := ts.foldlM step r

theorem eager_textOf (ts : List (Token vocabulary)) : Eager (textOf ts).toList := by
  have hhead (t : Token vocabulary) : ∃ c rest, t.text.toList = c :: rest ∧ c ≠ '?' := by
    cases t with
    | item w times =>
        show ∃ c rest, (w.text ++ Count.suffix times).toList = c :: rest ∧ c ≠ '?'
        rw [String.toList_append]
        cases w with
        | dot => exact ⟨'.', _, rfl, by decide⟩
        | textStart => exact ⟨'^', _, rfl, by decide⟩
        | textEnd => exact ⟨'$', _, rfl, by decide⟩
        | char c =>
            show ∃ d rest, (escape (String.singleton c)).toList ++ _ = d :: rest ∧ d ≠ '?'
            rw [toList_escape]
            split_ifs with hc
            · exact ⟨'\\', _, rfl, by decide⟩
            · refine ⟨c, _, rfl, ?_⟩
              rintro rfl
              exact hc (by decide)
    | setting s => exact ⟨'(', ['?', 's', ')'], toList_setting s, by decide⟩
    | opening o =>
        cases o with
        | plain => exact ⟨'(', ['?', ':'], rfl, by decide⟩
        | capturing => exact ⟨'(', [], rfl, by decide⟩
    | bar => exact ⟨'|', [], rfl, by decide⟩
    | closing times =>
        show ∃ c rest, (")" ++ Count.suffix times).toList = c :: rest ∧ c ≠ '?'
        rw [String.toList_append]
        exact ⟨')', _, rfl, by decide⟩
  cases ts with
  | nil => exact nofun
  | cons t ts =>
      obtain ⟨c, rest, htext, hc⟩ := hhead t
      unfold Eager
      rw [Pattern.textOf_cons, String.toList_append, htext]
      exact fun h => hc (Option.some.inj h)

theorem readItems_textOf (h : Under r) (ts : List (Token vocabulary)) :
    ∃ k, k ≤ (textOf ts).toList.length ∧ ∀ fuel, readItems (fuel + k) r (textOf ts).toList = run r ts := by
  induction ts generalizing r with
  | nil => exact ⟨0, Nat.le_refl 0, fun fuel => readItems_nil fuel r⟩
  | cons t ts ih =>
      obtain ⟨k, hk, hread⟩ := readAs_token h t _ (eager_textOf ts)
      cases hstep : step r t with
      | none =>
          refine ⟨k, ?_, fun fuel => ?_⟩
          · rw [Pattern.textOf_cons, String.toList_append, List.length_append]
            omega
          · rw [Pattern.textOf_cons, String.toList_append, hread, hstep]
            unfold run
            rw [List.foldlM_cons, hstep]
            rfl
      | some r' =>
          obtain ⟨k', hk', hread'⟩ := ih (h.step hstep)
          refine ⟨k' + k, ?_, fun fuel => ?_⟩
          · rw [Pattern.textOf_cons, String.toList_append, List.length_append]
            omega
          · rw [Pattern.textOf_cons, String.toList_append, ← Nat.add_assoc, hread, hstep, Option.bind_some, hread']
            unfold run
            rw [List.foldlM_cons, hstep]
            rfl

/-- **The text of signs is read as the run of their steps.** -/
theorem read?_textOf (ts : List (Token vocabulary)) :
    read? (textOf ts) = (run {} ts).bind fun r =>
      if r.outer.isEmpty ∧ r.group.close.depth ≤ nestLimit then some r.group.close.regex else none := by
  have hunder : Under {} := List.forall_mem_singleton.mpr ⟨false, rfl⟩
  have hitems : readItems (textOf ts).toList.length {} (textOf ts).toList = run {} ts := by
    obtain ⟨k, hk, hread⟩ := readItems_textOf hunder ts
    rw [← hread ((textOf ts).toList.length - k), Nat.sub_add_cancel hk]
  unfold read?
  dsimp only [Option.bind_eq_bind]
  rw [hitems]
  rfl

/-- The open groups are as many as the depth of the signs. -/
theorem depth_run (r : Reading) (ts : List (Token vocabulary)) :
    (run r ts).map (fun r' => r'.outer.length) = depthAfter ts r.outer.length := by
  induction ts generalizing r with
  | nil => rfl
  | cons t ts ih =>
      cases t with
      | item w times | setting s | opening o | bar => exact ih _
      | closing times =>
          obtain ⟨outer, group, names⟩ := r
          cases outer with
          | nil => rfl
          | cons g outer => exact ih _

end reading

/-! ### Reading a tree -/

/-- The group after an expression has been read into it. -/
def into : SignTree vocabulary → Group → Group
  | .nil, g => g
  | .item w times rest, g => into rest (g.pushWord w times)
  | .setting _ rest, g => into rest g.setDotAll
  | .group o inner times rest, g =>
    into rest (g.push ((into inner { flags := g.flags, bounded := o.bounded }).closed.times times))
  | .bar rest, g => into rest g.closeBranch

theorem run_tokens (e : SignTree vocabulary) (r : Reading) :
    run r e.tokens = some { r with group := into e r.group } := by
  induction e generalizing r with
  | nil => rfl
  | item w times rest ih | setting s rest ih | bar rest ih => exact ih _
  | group o inner times rest ihInner ihRest =>
      show run (r.openGroup r.group.flags o.bounded) (inner.tokens ++ .closing times :: rest.tokens) = _
      unfold run at ihInner ⊢
      rw [List.foldlM_append, ihInner]
      exact ihRest { r with group := r.group.push _ }

/-! ### What the group matches -/

section matching

variable {dotAll : Bool} {text : List Char} {p q : Nat}

theorem matches_times_iff (piece : Piece) (times : Option Count) :
    (piece.times times).regex.Matches text.toArray p q ↔
      vocabulary.Repeats (piece.regex.Matches text.toArray) times p q := by
  cases times with
  | none => exact Iff.rfl
  | some n =>
      refine Regex.matches_ofRepetition_iff ?_
      cases n with
      | any | atLeastOne => exact nofun
      | atMostOne => exact fun _ _ => Nat.zero_le _

theorem matches_closed_iff (g : Group) :
    g.closed.regex.Matches text.toArray p q ↔ g.close.regex.Matches text.toArray p q := by
  unfold Group.closed
  dsimp only
  split_ifs <;> exact Iff.rfl

/-- What the open branch of a group matches. -/
def Group.branch (g : Group) : Regex := .sequence (g.items.reverse.map fun i => i.piece.regex)

theorem matches_branch_push_iff (g : Group) (piece : Piece) :
    (g.push piece).branch.Matches text.toArray p q ↔
      ∃ m, g.branch.Matches text.toArray p m ∧ piece.regex.Matches text.toArray m q := by
  unfold Group.branch Group.push
  rw [List.reverse_cons, List.map_append]
  exact Regex.matches_sequence_concat

theorem regex_sequence_items (g : Group) : (Piece.sequence (g.items.reverse.map Item.piece)).regex = g.branch := by
  unfold Piece.sequence Group.branch
  rw [List.map_map]
  rfl

theorem matches_branch_setDotAll_iff (g : Group) :
    g.setDotAll.branch.Matches text.toArray p q ↔ g.branch.Matches text.toArray p q := by
  unfold Group.branch Group.setDotAll
  rw [List.reverse_cons, List.map_append]
  refine Regex.matches_sequence_concat.trans ?_
  constructor
  · rintro ⟨m, hm, rfl⟩
    exact hm
  · intro h
    exact ⟨q, h, rfl⟩

theorem matches_close_iff (g : Group) :
    g.close.regex.Matches text.toArray p q ↔
      (∃ b ∈ g.branches, b.regex.Matches text.toArray p q) ∨ g.branch.Matches text.toArray p q := by
  show (Regex.choice ((Piece.sequence (g.items.reverse.map Item.piece) :: g.branches).reverse.map Piece.regex)).Matches
    text.toArray p q ↔ _
  rw [Regex.matches_choice_iff (by simp), ← regex_sequence_items]
  constructor
  · rintro ⟨r, hr, hmatch⟩
    obtain ⟨b, hb, rfl⟩ := List.mem_map.mp hr
    rcases List.mem_cons.mp (List.mem_reverse.mp hb) with rfl | hb
    · exact .inr hmatch
    · exact .inl ⟨b, hb, hmatch⟩
  · rintro (⟨b, hb, hmatch⟩ | hmatch)
    · exact ⟨b.regex, List.mem_map_of_mem (List.mem_reverse.mpr (List.mem_cons_of_mem _ hb)), hmatch⟩
    · exact ⟨_, List.mem_map_of_mem (List.mem_reverse.mpr List.mem_cons_self), hmatch⟩

theorem repeats_congr {R R' : Nat → Nat → Prop} (h : ∀ p q, R p q ↔ R' p q) (times : Option Count) :
    vocabulary.Repeats R times p q ↔ vocabulary.Repeats R' times p q := by
  obtain rfl : R = R' := funext fun p => funext fun q => propext (h p q)
  exact Iff.rfl

/-- Behind no branch and no item, what a group has matched adds nothing. -/
theorem matches_empty_iff (reach : Pattern.Reach) :
    ((∃ b ∈ ([] : List Piece), b.regex.Matches text.toArray p q) ∨ (∃ m, p = m ∧ reach.first m q) ∨ reach.later p q) ↔
      reach.Any p q := by
  constructor
  · rintro (⟨b, hb, -⟩ | ⟨m, rfl, hfirst⟩ | hlater)
    · cases hb
    · exact .inl hfirst
    · exact .inr hlater
  · rintro (hfirst | hlater)
    · exact .inr (.inl ⟨p, rfl, hfirst⟩)
    · exact .inr (.inr hlater)

/-- **An expression is read as what it matches.**  The finished branches of the group stay, its open branch goes on as
the first branch of the expression. -/
theorem matches_close_into_iff (e : SignTree vocabulary) {g : Group} (hflags : g.flags = dotFlags dotAll) :
    (into e g).close.regex.Matches text.toArray p q ↔
      (∃ b ∈ g.branches, b.regex.Matches text.toArray p q) ∨
        (∃ m, g.branch.Matches text.toArray p m ∧ (e.reach text dotAll).first m q) ∨
          (e.reach text dotAll).later p q := by
  -- What the first item of a branch matches moves from the expression to the branch of the group.
  have hmove (g : Group) (piece : Piece) {R first : Nat → Nat → Prop} (p q : Nat)
      (hR : ∀ m m', piece.regex.Matches text.toArray m m' ↔ R m m') :
      (∃ m, (g.push piece).branch.Matches text.toArray p m ∧ first m q) ↔
        ∃ m, g.branch.Matches text.toArray p m ∧ ∃ m', R m m' ∧ first m' q := by
    simp only [matches_branch_push_iff, hR]
    constructor
    · rintro ⟨m', ⟨m, hm, hm'⟩, hq⟩
      exact ⟨m, hm, m', hm', hq⟩
    · rintro ⟨m, hm, m', hm', hq⟩
      exact ⟨m', ⟨m, hm, hm'⟩, hq⟩
  induction e generalizing g dotAll p q with
  | nil =>
      refine (matches_close_iff g).trans (or_congr Iff.rfl ?_)
      constructor
      · intro h
        exact .inl ⟨q, h, rfl⟩
      · rintro (⟨m, hm, rfl⟩ | h)
        · exact hm
        · exact h.elim
  | item w times rest ih =>
      refine (ih (g := g.pushWord w times) hflags).trans ?_
      refine or_congr Iff.rfl (or_congr (hmove g _ p q fun m m' => ?_) Iff.rfl)
      rw [hflags]
      exact (matches_times_iff _ times).trans (repeats_congr (fun _ _ => w.matches_regex_iff dotAll) times)
  | setting s rest ih =>
      have hset : g.setDotAll.flags = dotFlags true := rfl
      refine (ih hset).trans (or_congr Iff.rfl (or_congr ?_ Iff.rfl))
      simp only [matches_branch_setDotAll_iff]
      exact Iff.rfl
  | group o inner times rest ihInner ihRest =>
      refine (ihRest (g := g.push _) hflags).trans (or_congr Iff.rfl (or_congr (hmove g _ p q fun m m' => ?_) Iff.rfl))
      refine (matches_times_iff _ times).trans (repeats_congr (fun p q => ?_) times)
      refine (matches_closed_iff _).trans ((ihInner (g := { flags := g.flags, bounded := o.bounded }) hflags).trans ?_)
      exact matches_empty_iff _
  | bar rest ih =>
      refine (ih (g := g.closeBranch) hflags).trans ?_
      constructor
      · rintro (⟨b, hb, hmatch⟩ | ⟨m, rfl, hfirst⟩ | hlater)
        · rcases List.mem_cons.mp hb with rfl | hb
          · exact .inr (.inl ⟨q, regex_sequence_items g ▸ hmatch, rfl⟩)
          · exact .inl ⟨b, hb, hmatch⟩
        · exact .inr (.inr (.inl hfirst))
        · exact .inr (.inr (.inr hlater))
      · rintro (⟨b, hb, hmatch⟩ | ⟨m, hm, rfl⟩ | hfirst | hlater)
        · exact .inl ⟨b, List.mem_cons_of_mem _ hb, hmatch⟩
        · exact .inl ⟨_, List.mem_cons_self, (regex_sequence_items g).symm ▸ hm⟩
        · exact .inr (.inl ⟨p, rfl, hfirst⟩)
        · exact .inr (.inr hlater)

end matching

/-! ### Depth -/

/-- How deep the groups of an expression are nested. -/
def nesting : SignTree vocabulary → Nat
  | .nil => 0
  | .item _ _ rest | .setting _ rest | .bar rest => nesting rest
  | .group _ inner _ rest => max (nesting inner + 1) (nesting rest)

theorem peak_tokens_append (e : SignTree vocabulary) (us : List (Token vocabulary)) (d : Nat) (hd : d ≤ peak us d) :
    peak (e.tokens ++ us) d = max (d + nesting e) (peak us d) := by
  induction e generalizing us d with
  | nil => exact (Nat.max_eq_right hd).symm
  | item w times rest ih | setting s rest ih | bar rest ih => exact ih us d hd
  | group o inner times rest ihInner ihRest =>
      have hrest := ihRest us d hd
      have hinner := ihInner (.closing times :: (rest.tokens ++ us)) (d + 1) (Nat.le_max_left _ _)
      show peak ((inner.tokens ++ .closing times :: rest.tokens) ++ us) (d + 1) = _
      rw [List.append_assoc, List.cons_append, hinner]
      show max (d + 1 + nesting inner) (max (d + 1) (peak (rest.tokens ++ us) d)) =
        max (d + max (nesting inner + 1) (nesting rest)) (peak us d)
      rw [hrest]
      omega

theorem peak_tokens (e : SignTree vocabulary) : peak e.tokens 0 = nesting e := by
  have h := peak_tokens_append e [] 0 (Nat.le_refl 0)
  rw [List.append_nil] at h
  rw [h]
  exact (Nat.max_eq_left (Nat.zero_le _)).trans (Nat.zero_add _)

theorem deepest_le {ps : List Piece} {n : Nat} (h : ∀ p ∈ ps, p.depth ≤ n) : deepest ps ≤ n := by
  have hfold : ∀ d ≤ n, ps.foldl (fun d p => max d p.depth) d ≤ n := by
    induction ps with
    | nil => exact fun d hd => hd
    | cons p ps ih =>
        rw [List.forall_mem_cons] at h
        exact fun d hd => ih h.2 _ (Nat.max_le.mpr ⟨hd, h.1⟩)
  exact hfold 0 (Nat.zero_le n)

/-- Parts one after the other, and parts to choose from, nest once deeper than the parts at most. -/
theorem depth_composed_le {ps : List Piece} {n : Nat} (h : ∀ p ∈ ps, p.depth ≤ n) :
    (Piece.sequence ps).depth ≤ n + 1 ∧ (Piece.choice ps).depth ≤ n + 1 := by
  have hdeepest := deepest_le h
  unfold Piece.sequence Piece.choice
  dsimp only
  split_ifs <;> omega

theorem depth_times_le (p : Piece) (times : Option Count) : (p.times times).depth ≤ p.depth + 1 := by
  cases times with
  | none => exact Nat.le_succ p.depth
  | some n => exact Nat.le_refl _

/-- The parts of a group nest no deeper than groups nested so often allow: a group adds itself, a choice, a sequence and
a repetition. -/
structure Group.Shallow (n : Nat) (g : Group) : Prop where
  items : ∀ i ∈ g.items, i.piece.depth ≤ 4 * n + 1
  branches : ∀ b ∈ g.branches, b.depth ≤ 4 * n + 2

namespace Group.Shallow

variable {n : Nat} {g : Group}

theorem push (h : g.Shallow n) {p : Piece} (hp : p.depth ≤ 4 * n + 1) : (g.push p).Shallow n :=
  ⟨List.forall_mem_cons.mpr ⟨hp, h.items⟩, h.branches⟩

theorem setDotAll (h : g.Shallow n) : g.setDotAll.Shallow n :=
  ⟨List.forall_mem_cons.mpr ⟨Nat.zero_le _, h.items⟩, h.branches⟩

theorem closeBranch (h : g.Shallow n) : g.closeBranch.Shallow n := by
  have hitems : ∀ p ∈ g.items.reverse.map Item.piece, p.depth ≤ 4 * n + 1 := by
    intro p hp
    obtain ⟨i, hi, rfl⟩ := List.mem_map.mp hp
    exact h.items i (List.mem_reverse.mp hi)
  exact ⟨nofun, List.forall_mem_cons.mpr ⟨(depth_composed_le hitems).1, h.branches⟩⟩

theorem depth_close_le (h : g.Shallow n) : g.close.depth ≤ 4 * n + 3 :=
  (depth_composed_le fun p hp => h.closeBranch.branches p (List.mem_reverse.mp hp)).2

end Group.Shallow

theorem shallow_into {e : SignTree vocabulary} {n : Nat} (he : nesting e ≤ n) {g : Group} (hg : g.Shallow n) :
    (into e g).Shallow n := by
  induction e generalizing g n with
  | nil => exact hg
  | item w times rest ih =>
      have hdepth := depth_times_le ⟨w.regex g.flags.dotAll, 0⟩ times
      exact ih he (hg.push (Nat.le_trans hdepth (Nat.le_add_left 1 _)))
  | setting s rest ih => exact ih he hg.setDotAll
  | group o inner times rest ihInner ihRest =>
      obtain ⟨hinner, hrest⟩ := Nat.max_le.mp he
      set opened : Group := { flags := g.flags, bounded := o.bounded }
      have hclose := (ihInner (Nat.le_refl (nesting inner)) (g := opened) ⟨nofun, nofun⟩).depth_close_le
      have hdepth := depth_times_le (into inner opened).closed times
      refine ihRest hrest (hg.push (Nat.le_trans hdepth ?_))
      show (into inner opened).close.depth + 1 + 1 ≤ 4 * n + 1
      omega
  | bar rest ih => exact ih he hg.closeBranch

/-! ### The engine -/

/-- An expression is read, if its groups are not nested too deep. -/
theorem exists_read? (e : SignTree vocabulary) (hdepth : peak e.tokens 0 ≤ vocabulary.depth) :
    ∃ r, read? e.text = some r ∧ ∀ text p q, r.Matches text.toArray p q ↔ (e.reach text false).Any p q := by
  have hempty : Group.Shallow vocabulary.depth {} := ⟨nofun, nofun⟩
  have hclose : (into e {}).close.depth ≤ nestLimit :=
    Nat.le_trans (shallow_into (peak_tokens e ▸ hdepth) hempty).depth_close_le (by decide)
  refine ⟨(into e {}).close.regex, ?_, fun text p q => ?_⟩
  · unfold SignTree.text
    rw [read?_textOf, run_tokens, Option.bind_some, if_pos ⟨rfl, hclose⟩]
  · exact (matches_close_into_iff e rfl).trans (matches_empty_iff _)

/-- Signs whose groups are not well nested are not read. -/
theorem read?_of_not_wellNested {ts : List (Token vocabulary)} (h : ¬ WellNested ts) : read? (textOf ts) = none := by
  have hdepth : (run {} ts).map (fun r => r.outer.length) = depthAfter ts 0 := depth_run {} ts
  rw [read?_textOf]
  cases hrun : run {} ts with
  | none => rfl
  | some r =>
      rw [hrun, Option.map_some] at hdepth
      have houter : ¬ r.outer.isEmpty := by
        intro hempty
        rw [List.isEmpty_iff.mp hempty] at hdepth
        exact h hdepth.symm
      exact if_neg fun hr => houter hr.1

/-- **The engine of the library is documented.** -/
theorem documented : Pattern.Engine.Documented inferInstance vocabulary where
  dot := ⟨rfl, rfl, fun dotAll => by cases dotAll <;> rfl⟩
  textStart := ⟨rfl, rfl, fun _ => rfl⟩
  textEnd := ⟨rfl, rfl, fun _ => rfl⟩
  quoted := fun _ => ⟨rfl, rfl, fun _ => rfl⟩
  anyTimes := ⟨rfl, rfl⟩
  plainGroup := ⟨rfl, rfl, fun _ => rfl⟩
  dotAll := rfl
  builds := by
    intro limit e _ hdepth
    obtain ⟨r, hread, hmatches⟩ := exists_read? e hdepth
    show (∃ reason, build limit _ = _) ∨ ∃ test, build limit _ = _ ∧ _
    unfold build
    rw [hread]
    dsimp only
    split_ifs with hsize
    · exact .inl ⟨_, rfl⟩
    · refine .inr ⟨_, rfl, fun text => ?_⟩
      rw [Regex.isMatch_iff]
      simp only [Regex.MatchesIn, hmatches, List.size_toArray]
      exact Iff.rfl
  refuses := by
    intro limit ts hts
    have hnested : ¬ WellNested ts := fun h => hts ⟨h, proper ts⟩
    refine ⟨"malformed pattern " ++ textOf ts, ?_⟩
    show build limit _ = _
    unfold build
    rw [read?_of_not_wellNested hnested]

end DocumentQuery.BuiltinEngine
