/-!
Sets of code points as tables of closed ranges. Main statement: on an ascending table a
search that ends early misses nothing (`mem_iff_contains`).
-/

namespace PackedRecords.Text

abbrev Ranges := List (Nat × Nat)

/-- The search ends at the first range that begins after the code point. -/
def Ranges.contains : Ranges → Nat → Bool
  | [], _ => false
  | (first, last) :: rest, n => first ≤ n && (n ≤ last || Ranges.contains rest n)

/-- No range is empty, and each begins after the one before it; the first begins at `low`
or later. -/
def Ranges.ascending : Ranges → Nat → Bool
  | [], _ => true
  | (first, last) :: rest, low =>
    low ≤ first && first ≤ last && Ranges.ascending rest (last + 1)

theorem Ranges.contains_of_lt {table : Ranges} {low n : Nat} (h : table.ascending low = true)
    (hn : n < low) : table.contains n = false := by
  cases table with
  | nil => rfl
  | cons r rest =>
    simp only [Ranges.ascending, Bool.and_eq_true, decide_eq_true_eq] at h
    simp only [Ranges.contains, Bool.and_eq_false_iff, decide_eq_false_iff_not]
    exact Or.inl (by omega)

theorem Ranges.mem_iff_contains {table : Ranges} {low : Nat} (h : table.ascending low = true)
    (n : Nat) : (∃ r ∈ table, r.1 ≤ n ∧ n ≤ r.2) ↔ table.contains n = true := by
  induction table generalizing low with
  | nil => simp [Ranges.contains]
  | cons r rest ih =>
    simp only [Ranges.ascending, Bool.and_eq_true, decide_eq_true_eq] at h
    obtain ⟨⟨_, hr⟩, hrest⟩ := h
    have late : Ranges.contains rest n = true → r.2 < n := fun hc => by
      refine Nat.lt_of_not_le fun hle => ?_
      rw [Ranges.contains_of_lt hrest (Nat.lt_succ_of_le hle)] at hc
      cases hc
    simp only [List.mem_cons, exists_eq_or_imp, ih hrest, Ranges.contains, Bool.and_eq_true,
      Bool.or_eq_true, decide_eq_true_eq]
    constructor
    · rintro (⟨h₁, h₂⟩ | hc)
      · exact ⟨h₁, Or.inl h₂⟩
      · exact ⟨by have := late hc; omega, Or.inr hc⟩
    · rintro ⟨h₁, h₂ | hc⟩
      · exact Or.inl ⟨h₁, h₂⟩
      · exact Or.inr hc

end PackedRecords.Text
