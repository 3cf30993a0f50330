/-!
# Cutting a text at a separator

`pieces sep` cuts a character list at every occurrence of `sep`, keeping empty pieces, and `joined sep` puts
pieces together again. Main statements: `joined_pieces` (nothing is lost), `pieces_joined` (pieces free of the
separator come back) and `not_mem_of_mem_pieces` (no piece holds the separator).
-/

namespace DocumentQuery.Text

/-- Puts a character before the first piece. -/
def consFirst (c : Char) : List (List Char) → List (List Char)
  | [] => [[c]]
  | piece :: rest => (c :: piece) :: rest

/-- The pieces between occurrences of the separator; a text without it is one piece. -/
def pieces (sep : Char) : List Char → List (List Char)
  | [] => [[]]
  | c :: rest => if c = sep then [] :: pieces sep rest else consFirst c (pieces sep rest)

/-- The pieces with one separator between neighbours. -/
def joined (sep : Char) : List (List Char) → List Char
  | [] => []
  | [piece] => piece
  | piece :: next :: rest => piece ++ sep :: joined sep (next :: rest)

/-- Drops a character from both ends as often as it stands there. -/
def trimmed (c : Char) (text : List Char) : List Char :=
  ((text.dropWhile (· = c)).reverse.dropWhile (· = c)).reverse

@[simp] theorem pieces_nil (sep : Char) : pieces sep [] = [[]] := rfl

@[simp] theorem pieces_cons_self (sep : Char) (rest : List Char) :
    pieces sep (sep :: rest) = [] :: pieces sep rest := by
  simp [pieces]

theorem pieces_cons_of_ne {sep c : Char} (rest : List Char) (h : c ≠ sep) :
    pieces sep (c :: rest) = consFirst c (pieces sep rest) := by
  simp [pieces, h]

@[simp] theorem consFirst_ne_nil (c : Char) (ps : List (List Char)) : consFirst c ps ≠ [] := by
  cases ps <;> simp [consFirst]

@[simp] theorem pieces_ne_nil (sep : Char) (text : List Char) : pieces sep text ≠ [] := by
  cases text with
  | nil => simp
  | cons c rest => by_cases h : c = sep <;> simp [pieces, h]

theorem joined_cons {sep : Char} (piece : List Char) {rest : List (List Char)} (h : rest ≠ []) :
    joined sep (piece :: rest) = piece ++ sep :: joined sep rest := by
  cases rest with
  | nil => exact absurd rfl h
  | cons next rest => rfl

theorem joined_consFirst (sep c : Char) {ps : List (List Char)} (h : ps ≠ []) :
    joined sep (consFirst c ps) = c :: joined sep ps := by
  match ps, h with
  | [piece], _ => rfl
  | piece :: next :: rest, _ => simp [consFirst, joined]

theorem joined_pieces (sep : Char) (text : List Char) : joined sep (pieces sep text) = text := by
  induction text with
  | nil => rfl
  | cons c rest ih =>
    by_cases h : c = sep
    · subst h
      rw [pieces_cons_self, joined_cons _ (pieces_ne_nil _ _), ih, List.nil_append]
    · rw [pieces_cons_of_ne rest h, joined_consFirst sep c (pieces_ne_nil _ _), ih]

theorem pieces_of_not_mem {sep : Char} {text : List Char} (h : sep ∉ text) :
    pieces sep text = [text] := by
  induction text with
  | nil => rfl
  | cons c rest ih =>
    have hc : c ≠ sep := fun e => h (by simp [e])
    rw [pieces_cons_of_ne rest hc, ih fun hm => h (by simp [hm])]
    rfl

theorem pieces_append_cons {sep : Char} {text : List Char} (rest : List Char) (h : sep ∉ text) :
    pieces sep (text ++ sep :: rest) = text :: pieces sep rest := by
  induction text with
  | nil => simp
  | cons c text ih =>
    have hc : c ≠ sep := fun e => h (by simp [e])
    rw [List.cons_append, pieces_cons_of_ne _ hc, ih fun hm => h (by simp [hm])]
    rfl

theorem pieces_joined {sep : Char} {ps : List (List Char)} (hne : ps ≠ [])
    (h : ∀ p ∈ ps, sep ∉ p) : pieces sep (joined sep ps) = ps := by
  induction ps with
  | nil => exact absurd rfl hne
  | cons piece rest ih =>
    cases rest with
    | nil => exact pieces_of_not_mem (h piece (by simp))
    | cons next rest =>
      rw [joined_cons _ (by simp), pieces_append_cons _ (h piece (by simp)),
        ih (by simp) fun p hp => h p (by simp [List.mem_cons.1 hp])]

theorem not_mem_of_mem_pieces {sep : Char} {text piece : List Char} (h : piece ∈ pieces sep text) :
    sep ∉ piece := by
  induction text generalizing piece with
  | nil => simp_all
  | cons c rest ih =>
    by_cases hc : c = sep
    · subst hc
      rcases List.mem_cons.1 (by simpa using h) with rfl | h
      · simp
      · exact ih h
    · rw [pieces_cons_of_ne rest hc] at h
      cases hp : pieces sep rest with
      | nil => exact absurd hp (pieces_ne_nil _ _)
      | cons first others =>
        rw [hp, consFirst, List.mem_cons] at h
        rcases h with rfl | h
        · have hf : sep ∉ first := ih (by simp [hp])
          simpa [Ne.symm hc] using hf
        · exact ih (by simp [hp, h])

end DocumentQuery.Text
