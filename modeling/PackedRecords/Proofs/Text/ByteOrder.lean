import PackedRecords.NameMap

/-!
Names in the order of their UTF-8 bytes. It is the order of their code points, in which a
`NameMap` keeps its entries: of two characters, the one with the smaller code point has the
smaller byte where their encodings first differ.
-/

namespace PackedRecords.Text

/-- The UTF-8 bytes of a text. Lists of bytes compare at the first byte that differs. -/
def bytes (s : String) : List UInt8 := s.toUTF8.data.toList

theorem bytes_eq (s : String) : bytes s = s.toList.flatMap String.utf8EncodeChar := by
  have encoded : s.toUTF8 = s.toList.utf8Encode := by
    rw [String.toUTF8_eq_toByteArray, ← String.toByteArray_ofList, String.ofList_toList]
  rw [bytes, encoded, List.utf8Encode, List.data_toByteArray]

variable {xs ys : List UInt8} {c d : Char}

theorem ofNat_cons_lt {m n : Nat} (le : m ≤ n) (small : n < 256) (rest : m = n → xs < ys) :
    UInt8.ofNat m :: xs < UInt8.ofNat n :: ys := by
  rw [List.cons_lt_cons_iff]
  rcases Nat.lt_or_eq_of_le le with less | same
  · refine .inl (UInt8.lt_iff_toNat_lt.mpr ?_)
    rwa [UInt8.toNat_ofNat_of_lt' (Nat.lt_trans less small), UInt8.toNat_ofNat_of_lt' small]
  · exact .inr ⟨congrArg UInt8.ofNat same, rest same⟩

theorem utf8EncodeChar_append_lt (less : c < d) (xs ys : List UInt8) :
    String.utf8EncodeChar c ++ xs < String.utf8EncodeChar d ++ ys := by
  have less : c.val.toNat < d.val.toNat := less
  have last : d.val.toNat < 0x110000 := by
    rcases d.valid with low | ⟨-, high⟩
    · exact Nat.lt_trans low (by decide)
    · exact high
  -- Longer encodings start with greater bytes. Of the same length, they differ where the
  -- digits of the code points do.
  have lead : ∀ {m n : Nat} {xs ys : List UInt8}, m < n → n < 256 →
      UInt8.ofNat m :: xs < UInt8.ofNat n :: ys := fun less small =>
    ofNat_cons_lt (Nat.le_of_lt less) small fun same => absurd same (Nat.ne_of_lt less)
  simp only [String.utf8EncodeChar]
  by_cases c1 : c.val.toNat ≤ 127
  · rw [if_pos c1]
    split
    · exact lead less (by omega)
    split
    · exact lead (by omega) (by omega)
    split
    · exact lead (by omega) (by omega)
    · exact lead (by omega) (by omega)
  rw [if_neg c1, if_neg (show ¬d.val.toNat ≤ 127 by omega)]
  by_cases c2 : c.val.toNat ≤ 2047
  · rw [if_pos c2]
    split
    · refine ofNat_cons_lt (by omega) (by omega) fun first => ?_
      exact lead (by omega) (by omega)
    split
    · exact lead (by omega) (by omega)
    · exact lead (by omega) (by omega)
  rw [if_neg c2, if_neg (show ¬d.val.toNat ≤ 2047 by omega)]
  by_cases c3 : c.val.toNat ≤ 65535
  · rw [if_pos c3]
    split
    · refine ofNat_cons_lt (by omega) (by omega) fun first => ?_
      refine ofNat_cons_lt (by omega) (by omega) fun second => ?_
      exact lead (by omega) (by omega)
    · exact lead (by omega) (by omega)
  rw [if_neg c3, if_neg (show ¬d.val.toNat ≤ 65535 by omega)]
  refine ofNat_cons_lt (by omega) (by omega) fun first => ?_
  refine ofNat_cons_lt (by omega) (by omega) fun second => ?_
  refine ofNat_cons_lt (by omega) (by omega) fun third => ?_
  exact lead (by omega) (by omega)

theorem flatMap_utf8EncodeChar_lt {cs ds : List Char} (less : cs < ds) :
    cs.flatMap String.utf8EncodeChar < ds.flatMap String.utf8EncodeChar := by
  induction cs generalizing ds with
  | nil =>
    cases ds with
    | nil => cases less
    | cons d ds =>
      rw [List.flatMap_nil, List.flatMap_cons]
      cases code : String.utf8EncodeChar d with
      | nil => exact absurd code String.utf8EncodeChar_ne_nil
      | cons b bs => exact List.nil_lt_cons b _
  | cons c cs ih =>
    cases ds with
    | nil => cases less
    | cons d ds =>
      rw [List.flatMap_cons, List.flatMap_cons]
      rcases List.cons_lt_cons_iff.mp less with first | ⟨rfl, rest⟩
      · exact utf8EncodeChar_append_lt first _ _
      · exact List.append_left_lt (ih rest)

theorem bytes_lt_iff {s t : String} : bytes s < bytes t ↔ s < t := by
  have keeps : ∀ {s t : String}, s < t → bytes s < bytes t := fun less => by
    rw [bytes_eq, bytes_eq]
    exact flatMap_utf8EncodeChar_lt less
  refine ⟨fun less => ?_, keeps⟩
  rcases Std.lt_trichotomy s t with before | rfl | after
  · exact before
  · exact absurd less (List.lt_irrefl _)
  · exact absurd less (List.lt_asymm (keeps after))

end PackedRecords.Text
