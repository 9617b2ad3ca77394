import PackedRecords.Text.Unprintable.Combining
import PackedRecords.Text.Unprintable.Shapeless

/-!
The characters that a quoted name shows by their code point: those in either table, though
neither is searched to its end (`isUnprintable_iff`).
-/

namespace PackedRecords.Text

def isUnprintable (c : Char) : Bool :=
  shapeless.contains c.toNat || combining.contains c.toNat

theorem isUnprintable_iff (c : Char) :
    isUnprintable c = true ↔
      ∃ range ∈ shapeless ++ combining, range.1 ≤ c.toNat ∧ c.toNat ≤ range.2 := by
  rw [isUnprintable, Bool.or_eq_true, ← Ranges.mem_iff_contains shapeless_ascending,
    ← Ranges.mem_iff_contains combining_ascending]
  simp only [List.mem_append, or_and_right, exists_or]

end PackedRecords.Text
