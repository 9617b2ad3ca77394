import Mathlib.Data.List.DropRight
import PackedRecords.Proofs.Text.ByteOrder
import PackedRecords.Text.Blank

/-!
Bytes as text, and text without the blanks around it.

Proved here:

* `fromUTF8?_eq_some_iff`: bytes are read as the text that they are the encoding of, and as
  none if there is no such text;
* `exists_bytes_eq`: bytes below 0x80 are always text;
* `trims_iff`: trimming takes away all the blanks at both ends and nothing else.
-/

namespace PackedRecords.Text

/-! ## Encoding -/

variable {s t : String} {bs : List UInt8}

theorem mk_bytes (s : String) : (⟨(bytes s).toArray⟩ : ByteArray) = s.toByteArray := by
  rw [bytes, Array.toArray_toList, String.toUTF8_eq_toByteArray]

theorem fromUTF8?_eq_some_iff : String.fromUTF8? ⟨bs.toArray⟩ = some s ↔ bytes s = bs := by
  unfold String.fromUTF8?
  constructor
  · intro read
    split at read
    · cases read
      rfl
    · cases read
  · rintro rfl
    rw [mk_bytes, dif_pos s.isValidUTF8]
    rfl

theorem fromUTF8?_eq_none_iff : String.fromUTF8? ⟨bs.toArray⟩ = none ↔ ∀ s, bytes s ≠ bs := by
  simp only [Option.eq_none_iff_forall_ne_some, ne_eq, fromUTF8?_eq_some_iff]

/-- A byte below 0x80 is the encoding of the character with its number. -/
theorem utf8EncodeChar_ofUInt8 {b : UInt8} (low : b ≤ 0x7F) :
    String.utf8EncodeChar (Char.ofUInt8 b) = [b] := by
  have one : (Char.ofUInt8 b).utf8Size = 1 := by
    rw [Char.utf8Size_eq_one_iff, UInt32.le_iff_toNat_le]
    exact UInt8.le_iff_toNat_le.mp low
  have value : (Char.ofUInt8 b).val = b.toUInt32 := rfl
  rw [String.utf8EncodeChar_eq_singleton one, value]
  simp

theorem exists_bytes_eq (ascii : ∀ b ∈ bs, b ≤ 0x7F) : ∃ s, bytes s = bs := by
  refine ⟨String.ofList (bs.map Char.ofUInt8), ?_⟩
  rw [bytes_eq, String.toList_ofList, List.flatMap_map]
  induction bs with
  | nil => rfl
  | cons b bs ih =>
    obtain ⟨low, ascii⟩ := List.forall_mem_cons.mp ascii
    rw [List.flatMap_cons, ih ascii, utf8EncodeChar_ofUInt8 low]
    rfl

/-! ## Trimming -/

/-- `t` is what is left of `s` without the blanks at its two ends. -/
structure Trims (s t : String) : Prop where
  split : ∃ left right, s.toList = left ++ t.toList ++ right ∧
    (∀ c ∈ left, isBlank c) ∧ ∀ c ∈ right, isBlank c
  first : ∀ c ∈ t.toList.head?, ¬isBlank c
  last : ∀ c ∈ t.toList.getLast?, ¬isBlank c

theorem not_blank_of_dropWhile {cs : List Char} {c : Char}
    (first : c ∈ (cs.dropWhile isBlank).head?) : ¬isBlank c := by
  have stops := List.head?_dropWhile_not isBlank cs
  rw [first] at stops
  simpa using stops

theorem dropWhile_of_first {cs : List Char} (first : ∀ c ∈ cs.head?, ¬isBlank c) :
    cs.dropWhile isBlank = cs := by
  cases cs with
  | nil => rfl
  | cons c cs => exact List.dropWhile_cons_of_neg (first c rfl)

theorem trim_trims (s : String) : Trims s (trim s) := by
  have kept : (trim s).toList = (s.toList.dropWhile isBlank).rdropWhile isBlank :=
    String.toList_ofList
  constructor
  case split =>
    refine ⟨s.toList.takeWhile isBlank, (s.toList.dropWhile isBlank).rtakeWhile isBlank, ?_,
      fun _ => List.mem_takeWhile_imp, fun _ => List.mem_rtakeWhile_imp⟩
    rw [kept, List.append_assoc, List.rdropWhile_append_rtakeWhile,
      List.takeWhile_append_dropWhile]
  case first =>
    rw [kept]
    intro c first
    obtain ⟨right, split⟩ := List.rdropWhile_prefix isBlank (s.toList.dropWhile isBlank)
    have first : c ∈ (s.toList.dropWhile isBlank).head? :=
      split ▸ List.mem_head?_append_of_mem_head? first
    exact not_blank_of_dropWhile first
  case last =>
    rw [kept, List.rdropWhile, List.getLast?_reverse]
    exact fun c => not_blank_of_dropWhile

/-- Blanks at both ends leave one inner part, if it does not begin or end with one. -/
theorem trims_iff : Trims s t ↔ t = trim s := by
  constructor
  · rintro ⟨⟨left, right, split, before, behind⟩, first, last⟩
    apply String.toList_inj.mp
    have inner : (t.toList ++ right).dropWhile isBlank = [] ∧ t.toList = [] ∨
        (t.toList ++ right).dropWhile isBlank = t.toList ++ right := by
      cases shown : t.toList with
      | nil => exact .inl ⟨List.dropWhile_eq_nil_iff.mpr behind, rfl⟩
      | cons c cs =>
        rw [shown] at first
        exact .inr (dropWhile_of_first first)
    rw [trim, String.toList_ofList, trimChars, split, List.append_assoc,
      List.dropWhile_append_of_pos before]
    rcases inner with ⟨nothing, empty⟩ | whole
    · rw [nothing, empty]
      rfl
    · rw [whole, List.reverse_append,
        List.dropWhile_append_of_pos (fun c there => behind c (List.mem_reverse.mp there)),
        dropWhile_of_first (by rwa [List.head?_reverse]), List.reverse_reverse]
  · rintro rfl
    exact trim_trims s

end PackedRecords.Text
