import DocumentQuery.BuildError
import Mathlib.Data.List.TakeWhile

/-! # Resource paths and their texts

A text is read as a resource path after the slashes at its ends are stripped (`Text.Stripped`).  The path is the one
whose text is left, and there is one exactly if no two slashes that are left stand side by side
(`ResourcePath.ofText_eq_ok_iff`).  So each text falls under one of four readings: it is refused, it is the empty path,
a document key, or a collection (`ResourcePath.Reading`). -/

namespace DocumentQuery

namespace Text

variable {c sep : Char} {text inner : List Char}

/-! ### Stripped ends -/

/-- The text has the inner one between occurrences of the character, and these do not go on inside. -/
def Stripped (c : Char) (text inner : List Char) : Prop :=
  ∃ m n, text = List.replicate m c ++ inner ++ List.replicate n c ∧ inner.head? ≠ some c ∧ inner.getLast? ≠ some c

theorem dropWhile_replicate_append (m : ℕ) (h : inner.head? ≠ some c) :
    (List.replicate m c ++ inner).dropWhile (· = c) = inner := by
  rw [List.dropWhile_append_of_pos]
  · cases inner with
    | nil => rfl
    | cons x rest =>
        have hx : x ≠ c := fun hx => h (congrArg some hx)
        exact List.dropWhile_cons_of_neg (by simpa using hx)
  · intro x hx
    simpa using List.eq_of_mem_replicate hx

theorem exists_eq_replicate_append_dropWhile (c : Char) (text : List Char) :
    ∃ m, text = List.replicate m c ++ text.dropWhile (· = c) ∧ (text.dropWhile (· = c)).head? ≠ some c := by
  have hfront : text.takeWhile (· = c) = List.replicate (text.takeWhile (· = c)).length c :=
    List.eq_replicate_of_mem fun x hx => by simpa using List.mem_takeWhile_imp hx
  refine ⟨(text.takeWhile (· = c)).length, ?_, fun hhead => ?_⟩
  · rw [← hfront, List.takeWhile_append_dropWhile]
  · have hnot := List.head?_dropWhile_not (· = c) text
    rw [hhead] at hnot
    simp at hnot

theorem stripped_trimmed (c : Char) (text : List Char) : Stripped c text (trimmed c text) := by
  obtain ⟨m, htext, hhead⟩ := exists_eq_replicate_append_dropWhile c text
  obtain ⟨n, hfront, hlast⟩ := exists_eq_replicate_append_dropWhile c (text.dropWhile (· = c)).reverse
  have hinner : text.dropWhile (· = c) = trimmed c text ++ List.replicate n c := by
    rw [← List.reverse_reverse (text.dropWhile (· = c)), hfront, List.reverse_append, List.reverse_replicate]
    rfl
  refine ⟨m, n, ?_, fun h => hhead ?_, ?_⟩
  · rw [List.append_assoc, ← hinner]
    exact htext
  · rw [hinner, List.head?_append, h, Option.some_or]
  · rw [trimmed, List.getLast?_reverse]
    exact hlast

/-- Only one text is left when the ends are stripped. -/
theorem Stripped.eq_trimmed (h : Stripped c text inner) : inner = trimmed c text := by
  obtain ⟨m, n, rfl, hhead, hlast⟩ := h
  unfold trimmed
  cases inner with
  | nil =>
      have hnone := dropWhile_replicate_append (m + n) hhead
      rw [List.append_nil] at hnone
      rw [List.append_nil, List.replicate_append_replicate, hnone]
      rfl
  | cons x rest =>
      have hfront : (x :: rest ++ List.replicate n c).head? ≠ some c := hhead
      have hback : (x :: rest).reverse.head? ≠ some c := by rwa [List.head?_reverse]
      rw [List.append_assoc, dropWhile_replicate_append m hfront, List.reverse_append, List.reverse_replicate,
        dropWhile_replicate_append n hback, List.reverse_reverse]

theorem stripped_self (hhead : text.head? ≠ some c) (hlast : text.getLast? ≠ some c) : Stripped c text text :=
  ⟨0, 0, by simp, hhead, hlast⟩

theorem pieces_eq_splitOn (sep : Char) (text : List Char) : pieces sep text = text.splitOn sep := by
  induction text with
  | nil => rfl
  | cons c rest ih =>
      rw [List.splitOn_cons_eq_if_modifyHead, pieces, ← ih]
      obtain ⟨first, others, hpieces⟩ := List.exists_cons_of_ne_nil (pieces_ne_nil sep rest)
      by_cases h : c = sep
      · simp [h]
      · simp [h, hpieces, consFirst]

/-- A text that begins or ends with the separator has an empty piece there. -/
theorem stripped_self_of_pieces (h : [] ∉ pieces sep text) : Stripped sep text text := by
  rw [pieces_eq_splitOn] at h
  refine stripped_self (fun hhead => h ?_) fun hlast => h ?_
  · obtain ⟨rest, rfl⟩ := List.head?_eq_some_iff.mp hhead
    have hsplit := List.splitOn_append_cons_self [] rest (a := sep)
    rw [List.nil_append, List.splitOn_nil] at hsplit
    rw [hsplit]
    exact List.mem_append_left _ (List.mem_singleton.mpr rfl)
  · obtain ⟨front, rfl⟩ := List.getLast?_eq_some_iff.mp hlast
    rw [List.splitOn_append_cons_self, List.splitOn_nil]
    exact List.mem_append_right _ (List.mem_singleton.mpr rfl)

end Text

namespace ResourcePath

/-- No segment is empty or holds a slash. -/
def Valid (p : ResourcePath) : Prop := ∀ s ∈ p.segments, s ≠ "" ∧ '/' ∉ s.toList

instance (p : ResourcePath) : Decidable p.Valid := inferInstanceAs (Decidable (∀ s ∈ p.segments, _ ∧ _))

variable {s : String} {p : ResourcePath} {inner : List Char}

theorem toList_text (p : ResourcePath) : p.text.toList = Text.joined '/' (p.segments.map String.toList) :=
  String.toList_ofList

/-- The pieces of a written path are its segments. -/
theorem pieces_text (h : p.Valid) (hne : p.segments ≠ []) :
    Text.pieces '/' p.text.toList = p.segments.map String.toList := by
  rw [toList_text]
  refine Text.pieces_joined (mt List.map_eq_nil_iff.mp hne) fun piece hpiece => ?_
  obtain ⟨segment, hsegment, rfl⟩ := List.mem_map.mp hpiece
  exact (h segment hsegment).2

theorem nil_not_mem_segments (h : p.Valid) : [] ∉ p.segments.map String.toList := by
  intro hmem
  obtain ⟨segment, hsegment, hempty⟩ := List.mem_map.mp hmem
  exact (h segment hsegment).1 (String.toList_eq_nil_iff.mp hempty)

theorem stripped_text (h : p.Valid) : Text.Stripped '/' p.text.toList p.text.toList := by
  by_cases hne : p.segments = []
  · rw [toList_text, hne]
    exact Text.stripped_self nofun nofun
  · refine Text.stripped_self_of_pieces ?_
    rw [pieces_text h hne]
    exact nil_not_mem_segments h

/-- Reading, from the text that is left when the ends are stripped. -/
theorem parse?_eq (h : Text.Stripped '/' s.toList inner) :
    parse? s = if inner = [] then some ⟨[]⟩
      else if [] ∈ Text.pieces '/' inner then none else some ⟨(Text.pieces '/' inner).map String.ofList⟩ := by
  rw [h.eq_trimmed]
  rfl

theorem ofText_eq_ok_iff_parse? : ofText s = .ok p ↔ parse? s = some p := BuildError.orElse_eq_ok_iff

theorem valid_of_pieces (h : [] ∉ Text.pieces '/' inner) : Valid ⟨(Text.pieces '/' inner).map String.ofList⟩ := by
  rintro _ hsegment
  obtain ⟨piece, hpiece, rfl⟩ := List.mem_map.mp hsegment
  rw [String.toList_ofList]
  refine ⟨fun hempty => h ?_, Text.not_mem_of_mem_pieces hpiece⟩
  have hnil : piece = [] := by simpa using hempty
  exact hnil ▸ hpiece

theorem toList_text_of_pieces (inner : List Char) :
    (text ⟨(Text.pieces '/' inner).map String.ofList⟩).toList = inner := by
  have hchars : ((Text.pieces '/' inner).map String.ofList).map String.toList = Text.pieces '/' inner := by
    simp [List.map_map, Function.comp_def]
  rw [toList_text, hchars, Text.joined_pieces]

/-- A text is read as the path whose text is left of it when the slashes at its ends are stripped. -/
theorem ofText_eq_ok_iff : ofText s = .ok p ↔ p.Valid ∧ Text.Stripped '/' s.toList p.text.toList := by
  rw [ofText_eq_ok_iff_parse?]
  constructor
  · intro hread
    have hstripped := Text.stripped_trimmed '/' s.toList
    rw [parse?_eq hstripped] at hread
    split_ifs at hread with hnil hempty
    · cases hread
      rw [hnil] at hstripped
      exact ⟨nofun, hstripped⟩
    · cases hread
      refine ⟨valid_of_pieces hempty, ?_⟩
      rwa [toList_text_of_pieces]
  · rintro ⟨hvalid, hstripped⟩
    rw [parse?_eq hstripped]
    by_cases hne : p.segments = []
    · have hroot : p = ⟨[]⟩ := congrArg mk hne
      rw [hroot]
      rfl
    · have hpieces := pieces_text hvalid hne
      have hnil := nil_not_mem_segments hvalid
      have hinner : p.text.toList ≠ [] := by
        intro hinner
        rw [hinner, Text.pieces_nil] at hpieces
        exact hnil (hpieces ▸ List.mem_singleton.mpr rfl)
      have hsegments : (p.segments.map String.toList).map String.ofList = p.segments := by
        simp [List.map_map, Function.comp_def]
      rw [if_neg hinner, hpieces, if_neg hnil, hsegments]

/-- A text is read exactly if nothing is left of it, or no empty piece. -/
theorem exists_ofText_iff (h : Text.Stripped '/' s.toList inner) :
    (∃ p, ofText s = .ok p) ↔ inner = [] ∨ [] ∉ inner.splitOn '/' := by
  simp only [ofText_eq_ok_iff_parse?, parse?_eq h, Text.pieces_eq_splitOn]
  split_ifs with hnil hempty
  · exact iff_of_true ⟨_, rfl⟩ (.inl hnil)
  · exact iff_of_false nofun (not_or.mpr ⟨hnil, not_not.mpr hempty⟩)
  · exact iff_of_true ⟨_, rfl⟩ (.inr hempty)

/-! ### The four readings of a text -/

/-- What a text may be read as. -/
inductive Reading where
  | refused | empty | document | collection
deriving DecidableEq

/-- The text is read so. -/
def Reading.Of (s : String) : Reading → Prop
  | refused => ∀ p, ofText s ≠ .ok p
  | empty => ofText s = .ok ⟨[]⟩
  | document => ∃ p, documentOfText s = .ok p
  | collection => ∃ p, collectionOfText s = .ok p

/-- The reading of a text that is read as a path. -/
def reading (p : ResourcePath) : Reading :=
  if p.segments = [] then .empty else if p.segments.length % 2 = 0 then .document else .collection

theorem documentOfText_eq_ok_iff : documentOfText s = .ok p ↔ ofText s = .ok p ∧ p.IsDocumentKey := by
  rw [ofText_eq_ok_iff_parse?, documentOfText, BuildError.orElse_eq_ok_iff, parseDocument?, Option.filter_eq_some_iff,
    decide_eq_true_iff]

theorem collectionOfText_eq_ok_iff : collectionOfText s = .ok p ↔ ofText s = .ok p ∧ p.IsCollection := by
  rw [ofText_eq_ok_iff_parse?, collectionOfText, BuildError.orElse_eq_ok_iff, parseCollection?,
    Option.filter_eq_some_iff, decide_eq_true_iff]

theorem reading_eq_empty_iff : p.reading = .empty ↔ p.segments = [] := by
  unfold reading
  split_ifs with hempty heven <;> simp [hempty]

theorem reading_eq_document_iff : p.reading = .document ↔ p.IsDocumentKey := by
  unfold reading IsDocumentKey
  split_ifs with hempty heven
  · simp [hempty]
  · exact iff_of_true rfl ⟨hempty, heven⟩
  · simp [heven]

theorem reading_eq_collection_iff : p.reading = .collection ↔ p.IsCollection := by
  unfold reading IsCollection
  split_ifs with hempty heven
  · simp [hempty]
  · simp [heven]
  · exact iff_of_true rfl (Nat.mod_two_ne_zero.mp heven)

/-- A text that is read as a path has the reading of the path. -/
theorem Reading.of_iff_eq_reading {r : Reading} (h : ofText s = .ok p) : r.Of s ↔ p.reading = r := by
  have hunique : ∀ q, ofText s = .ok q ↔ p = q := by
    intro q
    rw [h]
    exact ⟨Except.ok.inj, congrArg _⟩
  cases r with
  | refused =>
      refine iff_of_false (fun hrefused => hrefused p h) ?_
      unfold reading
      split_ifs <;> exact nofun
  | empty =>
      rw [reading_eq_empty_iff, Of, hunique]
      exact ⟨congrArg segments, congrArg mk⟩
  | document => simp [Of, documentOfText_eq_ok_iff, hunique, reading_eq_document_iff]
  | collection => simp [Of, collectionOfText_eq_ok_iff, hunique, reading_eq_collection_iff]

theorem Reading.of_iff_eq_refused {r : Reading} (h : ∀ p, ofText s ≠ .ok p) : r.Of s ↔ .refused = r := by
  cases r with
  | refused => exact iff_of_true h rfl
  | empty => exact iff_of_false (h _) nofun
  | document => exact iff_of_false (fun ⟨p, hp⟩ => h p (documentOfText_eq_ok_iff.mp hp).1) nofun
  | collection => exact iff_of_false (fun ⟨p, hp⟩ => h p (collectionOfText_eq_ok_iff.mp hp).1) nofun

/-- Each text has one reading. -/
theorem existsUnique_reading (s : String) : ∃! r : Reading, r.Of s := by
  by_cases hread : ∃ p, ofText s = .ok p
  · obtain ⟨p, hp⟩ := hread
    exact ⟨p.reading, (Reading.of_iff_eq_reading hp).mpr rfl, fun r hr => ((Reading.of_iff_eq_reading hp).mp hr).symm⟩
  · have hrefused := not_exists.mp hread
    exact ⟨.refused, hrefused, fun r hr => ((Reading.of_iff_eq_refused hrefused).mp hr).symm⟩

theorem documentOfText_eq_error (h : ∀ p, documentOfText s ≠ .ok p) :
    documentOfText s = .error (.invalidDocumentPath s) :=
  BuildError.orElse_eq_error h

theorem collectionOfText_eq_error (h : ∀ p, collectionOfText s ≠ .ok p) :
    collectionOfText s = .error (.invalidCollectionPath s) :=
  BuildError.orElse_eq_error h

/-- **Resource paths and their texts.**  Of every text one text is left when the slashes at its ends are stripped, and
the text is read exactly if nothing is left or no piece between slashes is empty.  What is read has segments that are
neither empty nor hold slashes, its own text is what was left, and it is read from that again; and every path of such
segments is read from its text.  Each text has one of four readings: it is refused, also as a document and as a
collection; it is the empty path, which is neither; or it is a document or a collection, and reading it as such gives
what reading it gives. -/
theorem texts_and_resource_paths :
    (∀ s : String, ∃! inner, Text.Stripped '/' s.toList inner) ∧
      (∀ (s : String) (inner : List Char), Text.Stripped '/' s.toList inner →
        ((∃ p, ofText s = .ok p) ↔ inner = [] ∨ [] ∉ inner.splitOn '/') ∧
          ∀ p, ofText s = .ok p → p.Valid ∧ p.text.toList = inner ∧ ofText p.text = .ok p) ∧
      (∀ p : ResourcePath, p.Valid → ofText p.text = .ok p) ∧
      (∀ s : String, ∃! r : Reading, r.Of s) ∧
      (∀ s : String, Reading.refused.Of s ∨ Reading.empty.Of s →
        documentOfText s = .error (.invalidDocumentPath s) ∧
          collectionOfText s = .error (.invalidCollectionPath s)) ∧
      ∀ (s : String) (p : ResourcePath), documentOfText s = .ok p ∨ collectionOfText s = .ok p → ofText s = .ok p := by
  refine ⟨fun s => ⟨_, Text.stripped_trimmed _ _, fun _ hinner => hinner.eq_trimmed⟩,
    fun s inner hinner => ⟨exists_ofText_iff hinner, fun p hread => ?_⟩,
    fun p hp => ofText_eq_ok_iff.mpr ⟨hp, stripped_text hp⟩, existsUnique_reading, fun s hs => ?_, fun s p hread => ?_⟩
  · obtain ⟨hvalid, hstripped⟩ := ofText_eq_ok_iff.mp hread
    exact ⟨hvalid, hstripped.eq_trimmed.trans hinner.eq_trimmed.symm,
      ofText_eq_ok_iff.mpr ⟨hvalid, stripped_text hvalid⟩⟩
  · have hother : ∀ r : Reading, r ≠ .refused → r ≠ .empty → ¬ r.Of s := by
      intro r hrefused hempty hr
      rcases hs with hs | hs
      · exact hrefused ((existsUnique_reading s).unique hr hs)
      · exact hempty ((existsUnique_reading s).unique hr hs)
    exact ⟨documentOfText_eq_error fun p hp => hother .document nofun nofun ⟨p, hp⟩,
      collectionOfText_eq_error fun p hp => hother .collection nofun nofun ⟨p, hp⟩⟩
  · rcases hread with hread | hread
    · exact (documentOfText_eq_ok_iff.mp hread).1
    · exact (collectionOfText_eq_ok_iff.mp hread).1

/-- Three slashes at the ends of a document's text are ignored, and one between slashes makes a text that is refused as
every kind of path. -/
theorem texts_and_resource_paths_with_slashes :
    Text.Stripped '/' "//users/alice/".toList "users/alice".toList ∧
      documentOfText "//users/alice/" = .ok ⟨["users", "alice"]⟩ ∧
      ofText "//users/alice/" = .ok ⟨["users", "alice"]⟩ ∧
      Valid ⟨["users", "alice"]⟩ ∧ ofText (text ⟨["users", "alice"]⟩) = .ok ⟨["users", "alice"]⟩ ∧
      Text.Stripped '/' "/users//alice".toList "users//alice".toList ∧ (¬ ∃ p, ofText "/users//alice" = .ok p) ∧
      documentOfText "/users//alice" = .error (.invalidDocumentPath "/users//alice") ∧
      collectionOfText "/users//alice" = .error (.invalidCollectionPath "/users//alice") := by
  obtain ⟨-, hread, hwritten, -, hfailed, hsame⟩ := texts_and_resource_paths
  have hdocument : Text.Stripped '/' "//users/alice/".toList "users/alice".toList :=
    ⟨2, 1, by decide, by decide, by decide⟩
  have hbroken : Text.Stripped '/' "/users//alice".toList "users//alice".toList :=
    ⟨1, 0, by decide, by decide, by decide⟩
  have hkey : documentOfText "//users/alice/" = .ok ⟨["users", "alice"]⟩ := by decide
  have hpath := hsame _ _ (.inl hkey)
  have hrefused : ¬ ∃ p, ofText "/users//alice" = .ok p := by
    rw [(hread _ _ hbroken).1]
    decide
  obtain ⟨hvalid, -, -⟩ := (hread _ _ hdocument).2 _ hpath
  obtain ⟨hasDocument, hasCollection⟩ := hfailed "/users//alice" (.inl (not_exists.mp hrefused))
  exact ⟨hdocument, hkey, hpath, hvalid, hwritten _ hvalid, hbroken, hrefused, hasDocument, hasCollection⟩

end ResourcePath

end DocumentQuery
