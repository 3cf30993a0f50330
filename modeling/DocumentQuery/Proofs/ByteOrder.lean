import Mathlib.Data.String.Basic
import DocumentQuery.Keyed

/-! # The order of texts by bytes

Texts are compared character by character.  The UTF-8 form of a character with a smaller code comes before that of a
greater one, whatever follows either (`Text.encoded_append_lt`): a longer form has a greater first byte, and of two
forms of one length the first byte that differs holds the first digit of the codes to the base 64 that differs.  So the
order of texts is the order of their bytes (`Text.compare_eq_lt_iff`), and a map whose keys ascend has them in byte
order (`Keyed.inByteOrder_iff`). -/

namespace DocumentQuery

namespace Text

/-- The UTF-8 form of a text. -/
def bytes (s : String) : List UInt8 := s.toUTF8.data.toList

theorem bytes_eq (s : String) : bytes s = s.toList.flatMap String.utf8EncodeChar := by
  rw [bytes, String.toUTF8_eq_toByteArray, ← String.utf8Encode_toList, List.utf8Encode, List.toList_data_toByteArray]

theorem ofNat_eq_iff {m n : Nat} (hm : m < UInt8.size) (hn : n < UInt8.size) :
    UInt8.ofNat m = UInt8.ofNat n ↔ m = n := by
  rw [← UInt8.toNat_inj, UInt8.toNat_ofNat_of_lt' hm, UInt8.toNat_ofNat_of_lt' hn]

theorem encoded_append_lt {c d : Char} (h : c < d) (xs ys : List UInt8) :
    String.utf8EncodeChar c ++ xs < String.utf8EncodeChar d ++ ys := by
  have hlt : c.val.toNat < d.val.toNat := h
  have hd : d.val.toNat < 0x110000 := by
    have hvalid := d.valid
    unfold UInt32.isValidChar Nat.isValidChar at hvalid
    omega
  have hsize : UInt8.size = 256 := rfl
  -- The digits of a code are found by dividing again and again.
  have hthird (n : Nat) : n / 4096 = n / 64 / 64 := by omega
  have hfourth (n : Nat) : n / 262144 = n / 64 / 64 / 64 := by omega
  unfold String.utf8EncodeChar
  simp only [hthird, hfourth]
  generalize c.val.toNat = m at *
  generalize d.val.toNat = n at *
  split_ifs <;>
    simp (disch := omega) only [List.cons_append, List.nil_append, List.cons_lt_cons_iff, UInt8.ofNat_lt_iff_lt,
      ofNat_eq_iff] <;>
    omega

theorem encoded_ne_nil (c : Char) : String.utf8EncodeChar c ≠ [] := by
  rw [← List.length_pos_iff, String.length_utf8EncodeChar]
  exact c.utf8Size_pos

theorem flatMap_encoded_lt {cs ds : List Char} (h : cs < ds) :
    cs.flatMap String.utf8EncodeChar < ds.flatMap String.utf8EncodeChar := by
  induction cs generalizing ds with
  | nil =>
      cases ds with
      | nil => exact absurd h (List.not_lt_nil _)
      | cons d ds =>
          obtain ⟨b, rest, hform⟩ := List.exists_cons_of_ne_nil (encoded_ne_nil d)
          rw [List.flatMap_nil, List.flatMap_cons, hform]
          exact List.nil_lt_cons _ _
  | cons c cs ih =>
      cases ds with
      | nil => exact absurd h (List.not_lt_nil _)
      | cons d ds =>
          rw [List.flatMap_cons, List.flatMap_cons]
          rcases List.cons_lt_cons_iff.mp h with hlt | ⟨rfl, hlt⟩
          · exact encoded_append_lt hlt _ _
          · exact List.append_left_lt (ih hlt)

variable {s t : String}

theorem bytes_lt_bytes (h : s < t) : bytes s < bytes t := by
  rw [bytes_eq, bytes_eq]
  exact flatMap_encoded_lt (String.lt_iff_toList_lt.mp h)

/-- Texts stand in the order of their bytes. -/
theorem bytes_lt_bytes_iff : bytes s < bytes t ↔ s < t := by
  refine ⟨fun h => ?_, bytes_lt_bytes⟩
  rcases lt_trichotomy s t with hlt | rfl | hgt
  · exact hlt
  · exact absurd h (List.lt_irrefl _)
  · exact absurd h (List.lt_asymm (bytes_lt_bytes hgt))

theorem compare_eq_lt_iff : compare s t = .lt ↔ bytes s < bytes t := by
  have hcompare : compare s t = compareOfLessAndEq s t := rfl
  rw [hcompare, compareOfLessAndEq_eq_lt, bytes_lt_bytes_iff]

end Text

namespace Keyed

variable {α : Type} {entries : List (String × α)}

/-- The bytes of the keys ascend strictly, so that no key stands twice. -/
def InByteOrder (entries : List (String × α)) : Prop :=
  entries.Pairwise fun a b => Text.bytes a.1 < Text.bytes b.1

theorem inByteOrder_iff : InByteOrder entries ↔ Ascending entries := by
  simp only [InByteOrder, Ascending, Text.compare_eq_lt_iff]

end Keyed

end DocumentQuery
