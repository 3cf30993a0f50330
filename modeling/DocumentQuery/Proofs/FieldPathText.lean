import DocumentQuery.BuildError
import Mathlib.Data.List.Basic

/-! # Field paths and their texts

The canonical text of a field path quotes each segment that is not a plain identifier, and reading goes through a text
character by character, knowing whether it stands inside quotes and what it holds of the current segment.  A segment's
text, quoted or not, is read as the characters of the segment (`FieldPath.readSegments_segmentText`), whatever they
are, so that a canonical text is read as its path (`FieldPath.parse?_text`).  A text without quotes is cut at its dots
(`FieldPath.readSegments_of_not_mem`). -/

namespace DocumentQuery.FieldPath

/-- There is a segment, and no segment is empty. -/
def Valid (p : FieldPath) : Prop := p.segments ≠ [] ∧ "" ∉ p.segments

instance (p : FieldPath) : Decidable p.Valid := inferInstanceAs (Decidable (_ ∧ _))

theorem ofSegments_eq_ok_iff (p : FieldPath) : ofSegments p.segments = .ok p ↔ p.Valid := by
  unfold ofSegments ofSegments? Valid
  split_ifs with h
  · exact iff_of_false nofun fun hvalid => h.elim hvalid.1 hvalid.2
  · exact iff_of_true rfl (not_or.mp h)

variable {quoted : Bool} {current segment rest text : List Char} {c : Char} {segments : List String}

/-! ### Steps of reading -/

theorem readSegments_quote (quoted : Bool) (current rest : List Char) :
    readSegments quoted current (quote :: rest) = readSegments (!quoted) current rest := by
  rw [readSegments.eq_def]
  exact if_pos rfl

theorem readSegments_escape (current rest : List Char) (c : Char) :
    readSegments true current ('\\' :: c :: rest) = readSegments true (c :: current) rest := by
  rw [readSegments, if_neg (by decide), if_pos (by decide)]

theorem readSegments_quoted_char (hquote : c ≠ quote) (hescape : c ≠ '\\') :
    readSegments true current (c :: rest) = readSegments true (c :: current) rest := by
  rw [readSegments.eq_def]
  dsimp only
  rw [if_neg hquote, if_neg (by simp [hescape]), if_neg (by simp)]

theorem readSegments_plain_char (hquote : c ≠ quote) (hdot : c ≠ '.') :
    readSegments false current (c :: rest) = readSegments false (c :: current) rest := by
  rw [readSegments.eq_def]
  dsimp only
  rw [if_neg hquote, if_neg (by simp), if_neg (by simp [hdot])]

theorem readSegments_dot (current rest : List Char) :
    readSegments false current ('.' :: rest) =
      if current = [] then none else (readSegments false [] rest).map (String.ofList current.reverse :: ·) := by
  rw [readSegments.eq_def]
  dsimp only
  rw [if_neg (by decide), if_neg (by decide), if_pos (by decide)]

/-! ### Segments are read as they are written -/

theorem marked_cons_self (c : Char) (segment : List Char) :
    marked c (c :: segment) = '\\' :: c :: marked c segment := by
  simp [marked]

theorem marked_cons_of_ne {d : Char} (segment : List Char) (h : d ≠ c) :
    marked c (d :: segment) = d :: marked c segment := by
  simp [marked, h]

/-- The backslashes in front of grave accents are put last, so that they stay single. -/
theorem escaped_cons (c : Char) (segment : List Char) :
    escaped (c :: segment) = if c = quote ∨ c = '\\' then '\\' :: c :: escaped segment else c :: escaped segment := by
  have hdistinct : '\\' ≠ quote := by decide
  unfold escaped
  by_cases hescape : c = '\\'
  · rw [if_pos (.inr hescape), hescape, marked_cons_self, marked_cons_of_ne _ hdistinct, marked_cons_of_ne _ hdistinct]
  rw [marked_cons_of_ne _ hescape]
  by_cases hquote : c = quote
  · rw [if_pos (.inl hquote), hquote, marked_cons_self]
  · rw [if_neg (not_or.mpr ⟨hquote, hescape⟩), marked_cons_of_ne _ hquote]

theorem readSegments_escaped (current segment rest : List Char) :
    readSegments true current (escaped segment ++ rest) = readSegments true (segment.reverse ++ current) rest := by
  induction segment generalizing current with
  | nil => rfl
  | cons c segment ih =>
      rw [escaped_cons, List.reverse_cons, List.append_assoc, List.singleton_append]
      split_ifs with h
      · rw [List.cons_append, List.cons_append, readSegments_escape, ih]
      · obtain ⟨hquote, hescape⟩ := not_or.mp h
        rw [List.cons_append, readSegments_quoted_char hquote hescape, ih]

theorem readSegments_plain (hquote : quote ∉ segment) (hdot : '.' ∉ segment) (current rest : List Char) :
    readSegments false current (segment ++ rest) = readSegments false (segment.reverse ++ current) rest := by
  induction segment generalizing current with
  | nil => rfl
  | cons c segment ih =>
      obtain ⟨hc, hquote⟩ := List.ne_and_not_mem_of_not_mem_cons hquote
      obtain ⟨hc', hdot⟩ := List.ne_and_not_mem_of_not_mem_cons hdot
      rw [List.cons_append, readSegments_plain_char hc.symm hc'.symm, ih hquote hdot, List.reverse_cons,
        List.append_assoc, List.singleton_append]

/-- A plain segment holds neither quotes nor dots. -/
theorem not_mem_of_isPlain (h : isPlain segment) (hc : isWordChar c = false) : c ∉ segment := by
  intro hmem
  have hall := (Bool.and_eq_true_iff.mp h).1
  rw [List.all_eq_true] at hall
  rw [hall c hmem] at hc
  cases hc

theorem readSegments_segmentText (segment : String) (rest : List Char) :
    readSegments false [] ((segmentText segment).toList ++ rest) = readSegments false segment.toList.reverse rest := by
  unfold segmentText
  split_ifs with h
  · rw [readSegments_plain (not_mem_of_isPlain h (by decide)) (not_mem_of_isPlain h (by decide)), List.append_nil]
  · rw [String.toList_ofList, List.append_assoc, List.cons_append, readSegments_quote, Bool.not_false,
      readSegments_escaped, List.append_nil, List.singleton_append, readSegments_quote, Bool.not_true]

/-- Written segments, separated by dots, are read as the segments. -/
theorem readSegments_intercalate (hne : segments ≠ []) (h : "" ∉ segments) :
    readSegments false [] (['.'].intercalate (segments.map fun s => (segmentText s).toList)) = some segments := by
  induction segments with
  | nil => exact absurd rfl hne
  | cons segment rest ih =>
      obtain ⟨hsegment, hrest⟩ := List.ne_and_not_mem_of_not_mem_cons h
      have hchars : segment.toList.reverse ≠ [] := by
        simpa using hsegment.symm
      cases rest with
      | nil =>
          have hread := readSegments_segmentText segment []
          rw [List.append_nil] at hread
          rw [List.map_singleton, List.intercalate_singleton, hread, readSegments, if_neg (by simpa using hchars),
            List.reverse_reverse, String.ofList_toList]
      | cons next rest =>
          rw [List.map_cons, List.intercalate_cons_of_ne_nil (by simp), List.append_assoc, readSegments_segmentText,
            List.singleton_append, readSegments_dot, if_neg hchars, ih (List.cons_ne_nil _ _) hrest, Option.map_some,
            List.reverse_reverse, String.ofList_toList]

theorem parse?_text {p : FieldPath} (h : p.Valid) : parse? p.text = some p := by
  have hchars : p.text.toList = ['.'].intercalate (p.segments.map fun s => (segmentText s).toList) := by
    rw [FieldPath.text, String.toList_intercalate, List.map_map]
    rfl
  rw [parse?, hchars, readSegments_intercalate h.1 h.2]
  rfl

/-! ### What is read -/

/-- Whatever is read has a segment, and none of its segments is empty. -/
theorem valid_of_readSegments (h : readSegments quoted current text = some segments) : Valid ⟨segments⟩ := by
  have hchars : ∀ current : List Char, current ≠ [] → "" ≠ String.ofList current.reverse := by
    intro current hne hempty
    exact hne (by simpa using hempty.symm)
  fun_induction readSegments quoted current text generalizing segments with
  | case1 => cases h
  | case2 quoted current hopen =>
      cases h
      exact ⟨List.cons_ne_nil _ _, List.not_mem_cons_of_ne_of_not_mem (hchars current (not_or.mp hopen).2) nofun⟩
  | case3 quoted current rest ih => exact ih h
  | case4 => cases h
  | case5 quoted current _ _ _ c rest ih => exact ih h
  | case6 => cases h
  | case7 quoted current _ rest _ _ _ hcurrent ih =>
      obtain ⟨others, hothers, rfl⟩ := Option.map_eq_some_iff.mp h
      exact ⟨List.cons_ne_nil _ _, List.not_mem_cons_of_ne_of_not_mem (hchars current hcurrent) (ih hothers).2⟩
  | case8 quoted current c rest _ _ _ ih => exact ih h

/-- Without quotes a text is cut at its dots; the first piece begins with what is held of the current segment. -/
theorem readSegments_of_not_mem (htext : quote ∉ text) (hcurrent : '.' ∉ current) :
    readSegments false current text =
      if [] ∈ (current.reverse ++ text).splitOn '.' then none
      else some (((current.reverse ++ text).splitOn '.').map String.ofList) := by
  have hreverse : ∀ current : List Char, '.' ∉ current → '.' ∉ current.reverse := fun _ => mt List.mem_reverse.mp
  induction text generalizing current with
  | nil =>
      rw [List.append_nil, List.splitOn_eq_singleton (hreverse current hcurrent), readSegments]
      by_cases hempty : current = []
      · simp [hempty]
      · simp [hempty, Ne.symm]
  | cons c rest ih =>
      obtain ⟨hquote, hrest⟩ := List.ne_and_not_mem_of_not_mem_cons htext
      by_cases hdot : c = '.'
      · subst hdot
        rw [readSegments_dot, List.splitOn_append_cons_self_of_not_mem (hreverse current hcurrent),
          ih hrest List.not_mem_nil, List.reverse_nil, List.nil_append]
        by_cases hempty : current = []
        · simp [hempty]
        by_cases hpiece : [] ∈ rest.splitOn '.' <;> simp [hempty, hpiece]
      · have hcurrent' : '.' ∉ c :: current := List.not_mem_cons_of_ne_of_not_mem (Ne.symm hdot) hcurrent
        rw [readSegments_plain_char hquote.symm hdot, ih hrest hcurrent', List.reverse_cons, List.append_assoc,
          List.singleton_append]

/-! ### Texts and paths -/

theorem ofText_text {p : FieldPath} (h : p.Valid) : ofText p.text = .ok p := by
  rw [ofText, parse?_text h]
  rfl

/-- **Field paths come back from their texts.**  Every path that can be made of segments, whatever their characters, is
read from its canonical text, so that two such paths never have one text.  Whatever is read from a text is such a path.
A text without grave accents is read exactly if no piece between its dots is empty, and then as its pieces. -/
theorem canonical_text_is_read_back :
    (∀ p : FieldPath, p.Valid → ofSegments p.segments = .ok p ∧ ofText p.text = .ok p) ∧
      (∀ p q : FieldPath, p.Valid → q.Valid → p.text = q.text → p = q) ∧
      (∀ (s : String) (p : FieldPath), ofText s = .ok p → p.Valid) ∧
      ∀ s : String, quote ∉ s.toList → ofText s =
        if [] ∈ s.toList.splitOn '.' then .error (.invalidFieldPath s)
        else .ok ⟨(s.toList.splitOn '.').map String.ofList⟩ := by
  refine ⟨fun p hp => ⟨(ofSegments_eq_ok_iff p).mpr hp, ofText_text hp⟩, fun p q hp hq htext => ?_, fun s p hread => ?_,
    fun s hs => ?_⟩
  · have hread := ofText_text hp
    rw [htext, ofText_text hq] at hread
    exact (Except.ok.inj hread).symm
  · obtain ⟨segments, hsegments, rfl⟩ := Option.map_eq_some_iff.mp (BuildError.orElse_eq_ok_iff.mp hread)
    exact valid_of_readSegments hsegments
  · have hpieces := readSegments_of_not_mem hs List.not_mem_nil
    rw [List.reverse_nil, List.nil_append] at hpieces
    unfold ofText parse?
    rw [hpieces]
    split_ifs <;> rfl

/-- A segment of the three signs that mean something in texts stands in quotes beside one that begins with a digit and a
plain one.  Outside quotes a backslash is a sign like others, and between two dots something must stand. -/
theorem canonical_text_is_read_back_of_signs :
    (⟨["\\.\x60", "0", "a"]⟩ : FieldPath).Valid ∧
      FieldPath.text ⟨["\\.\x60", "0", "a"]⟩ = "\x60\\\\.\\\x60\x60.\x600\x60.a" ∧
      ofText "\x60\\\\.\\\x60\x60.\x600\x60.a" = .ok ⟨["\\.\x60", "0", "a"]⟩ ∧
      quote ∉ "\\.0.a".toList ∧ ofText "\\.0.a" = .ok ⟨["\\", "0", "a"]⟩ ∧
      quote ∉ "a..b".toList ∧ ofText "a..b" = .error (.invalidFieldPath "a..b") := by
  have hvalid : (⟨["\\.\x60", "0", "a"]⟩ : FieldPath).Valid := by decide
  have htext : FieldPath.text ⟨["\\.\x60", "0", "a"]⟩ = "\x60\\\\.\\\x60\x60.\x600\x60.a" := by decide
  obtain ⟨hwritten, -, -, hpieces⟩ := canonical_text_is_read_back
  refine ⟨hvalid, htext, htext ▸ (hwritten _ hvalid).2, by decide, ?_, by decide, ?_⟩
  · rw [hpieces _ (by decide)]
    decide
  · rw [hpieces _ (by decide)]
    decide

end DocumentQuery.FieldPath
