/-!
# Association lists in key order

A finite map is kept as a list of pairs whose keys ascend strictly (`Keyed.Ascending`), so that two maps
with the same bindings are the same list and a map is read off in key order. Main statements:
`find?_insert_self` and `find?_insert_of_ne` say what an insertion does to every look-up, `find?_erase_self`
and `find?_erase_of_ne` what a removal does, `find?_merge` what a union does, `ascending_insert`,
`ascending_erase` and `ascending_merge` that all of them keep the order, and `eq_of_find?_eq` that look-ups
tell maps in order apart.
-/

namespace DocumentQuery.Keyed

variable {κ α : Type} [Ord κ]

/-- Keys ascend strictly from left to right. -/
def Ascending (entries : List (κ × α)) : Prop :=
  entries.Pairwise fun a b => compare a.1 b.1 = .lt

/-- The value bound to a key. -/
def find? (key : κ) : List (κ × α) → Option α
  | [] => none
  | (k, a) :: rest => if compare key k = .eq then some a else find? key rest

/-- Binds a key, replacing the value it had. -/
def insert (key : κ) (value : α) : List (κ × α) → List (κ × α)
  | [] => [(key, value)]
  | (k, a) :: rest =>
    match compare key k with
    | .lt => (key, value) :: (k, a) :: rest
    | .eq => (key, value) :: rest
    | .gt => (k, a) :: insert key value rest

/-- The keys that have a value. -/
def keys (entries : List (κ × α)) : List κ := entries.map Prod.fst

/-- Unbinds a key. -/
def erase (key : κ) (entries : List (κ × α)) : List (κ × α) :=
  entries.filter fun e => compare key e.1 != .eq

/-- Adds every binding of the second map to the first; the second wins where both bind a key. -/
def merge (first second : List (κ × α)) : List (κ × α) :=
  second.foldr (fun e m => insert e.1 e.2 m) first

/-- The map of a list of bindings in any order; of two bindings of a key the later one wins. -/
def ofList (entries : List (κ × α)) : List (κ × α) :=
  merge [] entries.reverse

@[simp] theorem find?_nil (key : κ) : find? key ([] : List (κ × α)) = none := rfl

theorem find?_cons_self [Std.ReflOrd κ] (key : κ) (value : α) (entries : List (κ × α)) :
    find? key ((key, value) :: entries) = some value := by
  simp [find?]

theorem find?_eq_none_iff [Std.LawfulEqOrd κ] {key : κ} {entries : List (κ × α)} :
    find? key entries = none ↔ key ∉ keys entries := by
  induction entries with
  | nil => simp [keys]
  | cons e rest ih =>
    obtain ⟨k, a⟩ := e
    by_cases h : key = k
    · simp [find?, keys, h]
    · simpa [find?, keys, h] using ih

@[simp] theorem merge_nil (entries : List (κ × α)) : merge entries [] = entries := rfl

@[simp] theorem merge_cons (first : List (κ × α)) (key : κ) (value : α) (rest : List (κ × α)) :
    merge first ((key, value) :: rest) = insert key value (merge first rest) := rfl

theorem find?_insert_self [Std.ReflOrd κ] (key : κ) (value : α) (entries : List (κ × α)) :
    find? key (insert key value entries) = some value := by
  induction entries with
  | nil => simp [insert, find?]
  | cons e rest ih =>
    obtain ⟨k, a⟩ := e
    cases h : compare key k <;> simp [insert, find?, h, ih]

theorem find?_insert_of_ne [Std.LawfulEqOrd κ] {key other : κ} (value : α)
    (entries : List (κ × α)) (h : other ≠ key) :
    find? other (insert key value entries) = find? other entries := by
  induction entries with
  | nil => simp [insert, find?, h]
  | cons e rest ih =>
    obtain ⟨k, a⟩ := e
    cases hk : compare key k with
    | lt => simp [insert, find?, hk, h]
    | eq =>
      obtain rfl := Std.LawfulEqOrd.eq_of_compare hk
      simp [insert, find?, h]
    | gt => simp [insert, find?, hk, ih]

theorem find?_merge [Std.LawfulEqOrd κ] (key : κ) (first second : List (κ × α)) :
    find? key (merge first second) = (find? key second).or (find? key first) := by
  induction second with
  | nil => rfl
  | cons e rest ih =>
    obtain ⟨k, a⟩ := e
    by_cases h : key = k
    · subst h
      simp [find?, find?_insert_self]
    · simp [find?, find?_insert_of_ne _ _ h, ih, h]

theorem find?_erase_self [Std.LawfulEqOrd κ] (key : κ) (entries : List (κ × α)) :
    find? key (erase key entries) = none := by
  induction entries with
  | nil => rfl
  | cons e rest ih =>
    obtain ⟨k, a⟩ := e
    rw [erase] at ih
    by_cases h : compare key k = .eq <;> simp [erase, find?, h, ih]

theorem find?_erase_of_ne [Std.LawfulEqOrd κ] {key other : κ} (entries : List (κ × α))
    (h : other ≠ key) : find? other (erase key entries) = find? other entries := by
  induction entries with
  | nil => rfl
  | cons e rest ih =>
    obtain ⟨k, a⟩ := e
    rw [erase] at ih
    by_cases hk : compare key k = .eq
    · obtain rfl := Std.LawfulEqOrd.eq_of_compare hk
      simp [erase, find?, h, ih]
    · simp [erase, find?, hk, ih]

theorem mem_insert {key : κ} {value : α} {entries : List (κ × α)} {e : κ × α}
    (h : e ∈ insert key value entries) : e = (key, value) ∨ e ∈ entries := by
  induction entries with
  | nil => simpa [insert] using h
  | cons d rest ih =>
    obtain ⟨k, a⟩ := d
    cases hk : compare key k <;> grind [insert]

theorem ascending_insert [Std.TransOrd κ] {key : κ} {value : α} {entries : List (κ × α)}
    (h : Ascending entries) : Ascending (insert key value entries) := by
  induction entries with
  | nil => simp [insert, Ascending]
  | cons e rest ih =>
    obtain ⟨k, a⟩ := e
    obtain ⟨hall, hrest⟩ := List.pairwise_cons.1 h
    cases hk : compare key k with
    | lt =>
      simp only [insert, hk]
      refine List.pairwise_cons.2 ⟨fun e he => ?_, h⟩
      rcases List.mem_cons.1 he with rfl | he
      · exact hk
      · exact Std.TransCmp.lt_trans hk (hall e he)
    | eq =>
      simp only [insert, hk]
      exact List.pairwise_cons.2 ⟨fun e he => Std.TransCmp.lt_of_eq_of_lt hk (hall e he), hrest⟩
    | gt =>
      simp only [insert, hk]
      refine List.pairwise_cons.2 ⟨fun e he => ?_, ih hrest⟩
      rcases mem_insert he with rfl | he
      · exact Std.OrientedCmp.lt_of_gt hk
      · exact hall e he

theorem ascending_erase {key : κ} {entries : List (κ × α)} (h : Ascending entries) :
    Ascending (erase key entries) :=
  List.Pairwise.filter _ h

theorem ascending_merge [Std.TransOrd κ] {first : List (κ × α)} (second : List (κ × α))
    (h : Ascending first) : Ascending (merge first second) := by
  induction second with
  | nil => exact h
  | cons e rest ih => exact ascending_insert ih

theorem ascending_ofList [Std.TransOrd κ] (entries : List (κ × α)) : Ascending (ofList entries) :=
  ascending_merge entries.reverse List.Pairwise.nil

theorem find?_of_forall_lt {key : κ} {entries : List (κ × α)} (h : ∀ e ∈ entries, compare key e.1 = .lt) :
    find? key entries = none := by
  induction entries with
  | nil => rfl
  | cons e rest ih =>
    obtain ⟨hhead, hrest⟩ := List.forall_mem_cons.1 h
    simpa [find?, hhead] using ih hrest

/-- What comes before the first key has no value. -/
theorem find?_of_lt_head [Std.TransOrd κ] {key : κ} {e : κ × α} {rest : List (κ × α)} (h : Ascending (e :: rest))
    (hlt : compare key e.1 = .lt) : find? key (e :: rest) = none :=
  find?_of_forall_lt (List.forall_mem_cons.2 ⟨hlt, fun f hf =>
    Std.TransCmp.lt_trans hlt ((List.pairwise_cons.1 h).1 f hf)⟩)

/-- Two maps in order with the same bindings are the same list. -/
theorem eq_of_find?_eq [Std.TransOrd κ] [Std.LawfulEqOrd κ] {first second : List (κ × α)} (hfirst : Ascending first)
    (hsecond : Ascending second) (h : ∀ key, find? key first = find? key second) : first = second := by
  induction first generalizing second with
  | nil =>
    cases second with
    | nil => rfl
    | cons f second => simpa [find?] using h f.1
  | cons e first ih =>
    cases second with
    | nil => simpa [find?] using h e.1
    | cons f second =>
      obtain ⟨k, a⟩ := e
      obtain ⟨k', b⟩ := f
      have hk := h k
      have hk' := h k'
      rw [find?_cons_self] at hk hk'
      -- The lesser of two first keys would be missing in the other map.
      cases hcompare : compare k k' with
      | lt => cases hk.trans (find?_of_lt_head hsecond hcompare)
      | gt => cases hk'.symm.trans (find?_of_lt_head hfirst (Std.OrientedCmp.lt_of_gt hcompare))
      | eq =>
        obtain rfl : k = k' := Std.LawfulEqOrd.eq_of_compare hcompare
        obtain rfl : a = b := by simpa [find?] using hk
        obtain ⟨he, hfirst⟩ := List.pairwise_cons.1 hfirst
        obtain ⟨hf, hsecond⟩ := List.pairwise_cons.1 hsecond
        refine congrArg _ (ih hfirst hsecond fun key => ?_)
        by_cases hkey : key = k
        · rw [hkey, find?_of_forall_lt he, find?_of_forall_lt hf]
        · simpa [find?, hkey] using h key

end DocumentQuery.Keyed
