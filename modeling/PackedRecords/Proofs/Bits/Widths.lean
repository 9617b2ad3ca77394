import PackedRecords.Proofs.Bits.Checked
import PackedRecords.Proofs.Bits.Word

/-!
The two readings of a raw word for every word and every width, however wide: nothing is asked of
the bits above the width, nor of the width itself.

Proved here:

* `testBit_reverseLow_of_mirror`, `testBit_reverseLow_of_lone`: the reverse bit by bit, with the
  bits that leave at the high end;
* `reverseLow_lt`, `reverseLow_congr`, `reverseLow_reverseLow`: what follows for up to 64 bits;
* `wraps_signExtend`, `signExtend_of_whole`: sign extension inside the word and for all of it;
* `checkedSignExtend_eq`: no shift goes too far;
* on top of them, both readings at every width.
-/

namespace PackedRecords.Bits

variable {word other : UInt64} {n width : Nat}

/-! ## Words by their bits -/

theorem eq_of_testBit {a b : UInt64} (same : ∀ i < 64, a.toNat.testBit i = b.toNat.testBit i) :
    a = b := by
  apply UInt64.toNat_inj.mp
  apply Nat.eq_of_testBit_eq
  intro i
  by_cases inside : i < 64
  · exact same i inside
  · simp [testBit_of_le, Nat.not_lt.mp inside]

/-- Words that agree modulo a power of two have the same bits below it. -/
theorem testBit_of_mod_eq (same : other.toNat % 2 ^ n = word.toNat % 2 ^ n) {i : Nat}
    (below : i < n) : other.toNat.testBit i = word.toNat.testBit i := by
  simpa [Nat.testBit_mod_two_pow, below] using congrArg (Nat.testBit · i) same

/-! ## Reversal -/

/-- Bits as far from one end as from the other change places. -/
theorem testBit_reverseLow_of_mirror {i j : Nat} (inside : i < 64) (mirror : i + j + 1 = n) :
    (reverseLow word n).toNat.testBit i = word.toNat.testBit j := by
  have lower : i < n := by omega
  have place : n - 1 - i = j := by omega
  simp [testBit_reverseLow word n inside, lower, place]

/-- Where no bit of the word changes places with it, a bit is zero. -/
theorem testBit_reverseLow_of_lone {i : Nat} (inside : i < 64)
    (lone : ∀ j < 64, i + j + 1 ≠ n) : (reverseLow word n).toNat.testBit i = false := by
  rw [testBit_reverseLow word n inside]
  by_cases lower : i < n
  · have above : 64 ≤ n - 1 - i := by
      have far := lone (n - 1 - i)
      omega
    simp [testBit_of_le above]
  · simp [lower]

theorem testBit_reverseLow_of_le {i : Nat} (above : n ≤ i) :
    (reverseLow word n).toNat.testBit i = false := by
  by_cases inside : i < 64
  · exact testBit_reverseLow_of_lone inside fun j _ => by omega
  · exact testBit_of_le (Nat.not_lt.mp inside)

theorem reverseLow_lt (word : UInt64) (n : Nat) : (reverseLow word n).toNat < 2 ^ n :=
  Nat.lt_pow_two_of_testBit _ fun _ => testBit_reverseLow_of_le

theorem reverseLow_congr (same : other.toNat % 2 ^ n = word.toNat % 2 ^ n) :
    reverseLow other n = reverseLow word n := by
  apply eq_of_testBit
  intro i inside
  rw [testBit_reverseLow other n inside, testBit_reverseLow word n inside]
  by_cases lower : i < n
  · simp [lower, testBit_of_mod_eq same (show n - 1 - i < n by omega)]
  · simp [lower]

/-- The reverse of the reverse has the low bits where they were, and nothing above them. -/
theorem reverseLow_reverseLow (small : n ≤ 64) :
    (reverseLow (reverseLow word n) n).toNat = word.toNat % 2 ^ n := by
  apply Nat.eq_of_testBit_eq
  intro i
  rw [Nat.testBit_mod_two_pow]
  by_cases lower : i < n
  · obtain ⟨j, mirror⟩ : ∃ j, i + j + 1 = n := ⟨n - 1 - i, by omega⟩
    have back : j + i + 1 = n := by omega
    rw [testBit_reverseLow_of_mirror (by omega) mirror,
      testBit_reverseLow_of_mirror (by omega) back]
    simp [lower]
  · simp [lower, testBit_reverseLow_of_le (Nat.not_lt.mp lower)]

/-- From twice the bits of a word on, all of them have left. -/
theorem reverseLow_of_le (wide : 128 ≤ n) : reverseLow word n = 0 := by
  apply eq_of_testBit
  intro i inside
  rw [testBit_reverseLow_of_lone inside fun j _ => by omega]
  simp

/-- Bit `i` of the reverse of `n` bits is bit `n - 1 - i` of the word, if the word has such a bit,
and zero otherwise, for every `n`. Up to 64, it is the low bits alone that count, the reverse has
no others, and to reverse it leads back to them; from 128 on the reverse is zero. -/
theorem reverseLow_mirrors (word : UInt64) (n : Nat) :
    (∀ i < 64,
      (∀ j < 64, i + j + 1 = n →
        (reverseLow word n).toNat.testBit i = word.toNat.testBit j) ∧
      ((∀ j < 64, i + j + 1 ≠ n) → (reverseLow word n).toNat.testBit i = false)) ∧
    (n ≤ 64 →
      (reverseLow word n).toNat < 2 ^ n ∧
      (∀ other : UInt64, other.toNat % 2 ^ n = word.toNat % 2 ^ n →
        reverseLow other n = reverseLow word n) ∧
      (reverseLow (reverseLow word n) n).toNat = word.toNat % 2 ^ n) ∧
    (128 ≤ n → reverseLow word n = 0) := by
  refine ⟨fun i inside => ⟨fun j _ mirror => testBit_reverseLow_of_mirror inside mirror,
    testBit_reverseLow_of_lone inside⟩, fun small => ?_, reverseLow_of_le⟩
  exact ⟨reverseLow_lt word n, fun _ => reverseLow_congr, reverseLow_reverseLow small⟩

/-- Four bits of a word that has more, seventy, of which some leave, and so many that all do. -/
theorem reverseLow_of_notch :
    (reverseLow 0xF0D 4).toNat < 16 ∧ reverseLow 0xF0D 4 = reverseLow 0xA5D 4 ∧
    (reverseLow (reverseLow 0xF0D 4) 4).toNat = 13 ∧
    (reverseLow 0xF4D 70).toNat.testBit 63 = true ∧
    (reverseLow 0xF4D 70).toNat.testBit 5 = false ∧
    reverseLow 0xF0D 128 = 0 := by
  obtain ⟨below, congr, twice⟩ := (reverseLow_mirrors 0xF0D 4).2.1 (by decide)
  obtain ⟨bits, -⟩ := reverseLow_mirrors 0xF4D 70
  refine ⟨below, (congr 0xA5D (by decide)).symm, twice, ?_, ?_, ?_⟩
  · exact (bits 63 (by decide)).1 6 (by decide) (by decide)
  · exact (bits 5 (by decide)).2 fun j _ => by omega
  · exact (reverseLow_mirrors 0xF0D 128).2.2 (by decide)

/-! ## Sign extension -/

theorem wraps_signExtend (word : UInt64) (positive : 0 < width) (small : width ≤ 64) :
    Wraps width word.toNat (signExtend word width).toInt := by
  obtain ⟨v, rfl⟩ := Nat.exists_eq_succ_of_ne_zero (Nat.ne_of_gt positive)
  rw [toInt_signExtend word positive small]
  exact .of_bmod v (Nat.le_refl _) rfl

/-- A width of zero, or of the whole word, leaves all bits as they are. -/
theorem signExtend_of_whole (word : UInt64) (whole : width = 0 ∨ 64 ≤ width) :
    (signExtend word width).toInt =
      if 2 ^ 63 ≤ word.toNat then (word.toNat : Int) - 2 ^ 64 else (word.toNat : Int) := by
  rw [signExtend, if_pos whole, toInt_toInt64]
  exact bmod_of_lt (v := 63) word.toNat_lt

theorem signExtend_congr (positive : 0 < width) (small : width < 64)
    (same : other.toNat % 2 ^ width = word.toNat % 2 ^ width) :
    signExtend other width = signExtend word width := by
  apply Int64.toInt_inj.mp
  have alike : (other.toNat : Int) ≡ word.toNat [ZMOD 2 ^ width] := by
    rw [Int.ModEq]
    exact_mod_cast same
  have here := wraps_signExtend other positive (Nat.le_of_lt small)
  have there := wraps_signExtend word positive (Nat.le_of_lt small)
  exact Wraps.unique positive ⟨here.low, here.high, here.congruent.trans alike⟩ there

/-- The low bits of an integer, as a word has them, are those that it was made from. -/
theorem toUInt64_signExtend_mod (word : UInt64) (positive : 0 < width) (small : width < 64) :
    (signExtend word width).toUInt64.toNat % 2 ^ width = word.toNat % 2 ^ width := by
  have extended := (wraps_signExtend word positive (Nat.le_of_lt small)).congruent
  have written : (signExtend word width).toInt ≡
      (signExtend word width).toUInt64.toNat [ZMOD 2 ^ 64] := by
    rw [← Int64.toInt64_toUInt64 (signExtend word width), toInt_toInt64,
      Int64.toInt64_toUInt64]
    exact (Wraps.of_bmod 63 (Nat.le_refl _) rfl).congruent
  have low := written.of_dvd (pow_dvd_pow 2 (Nat.le_of_lt small))
  have both := low.symm.trans extended
  rw [Int.ModEq] at both
  exact_mod_cast both

/-- Sign extension as a machine does it, with the difference and both shifts looked at. -/
def checkedSignExtend (word : UInt64) (width : Nat) : Except Halt Int64 :=
  if width = 0 ∨ 64 ≤ width then .ok word.toInt64
  else do
    let unused ← Halt.subtract 64 width
    let up ← Halt.shiftBy 64 unused
    let down ← Halt.shiftBy 64 unused
    pure ((word <<< UInt64.ofNat up).toInt64 >>> Int64.ofNat down)

theorem checkedSignExtend_eq (word : UInt64) (width : Nat) :
    checkedSignExtend word width = .ok (signExtend word width) := by
  rw [checkedSignExtend, signExtend]
  by_cases whole : width = 0 ∨ 64 ≤ width
  · rw [if_pos whole, if_pos whole]
  · have unused : Halt.subtract 64 width = .ok (64 - width) := Halt.subtract_of_le (by omega)
    have shift : Halt.shiftBy 64 (64 - width) = .ok (64 - width) := Halt.shiftBy_of_lt (by omega)
    rw [if_neg whole, if_neg whole, unused, Halt.ok_bind, shift]
    rfl

/-- For every word and every width from 1 to 63, sign extension gives the one integer of the width
that the word wraps around to. It depends on the low bits alone, and these can be read back from
it. At all other widths it is the whole word in two's complement. No width makes a shift go too
far. -/
theorem signExtend_wraps (word : UInt64) (width : Nat) :
    checkedSignExtend word width = .ok (signExtend word width) ∧
    (0 < width → width < 64 →
      (∀ r : Int, Wraps width word.toNat r ↔ r = (signExtend word width).toInt) ∧
      (∀ other : UInt64, other.toNat % 2 ^ width = word.toNat % 2 ^ width →
        signExtend other width = signExtend word width) ∧
      (signExtend word width).toUInt64.toNat % 2 ^ width = word.toNat % 2 ^ width) ∧
    (width = 0 ∨ 64 ≤ width →
      (signExtend word width).toInt =
        if 2 ^ 63 ≤ word.toNat then (word.toNat : Int) - 2 ^ 64 else (word.toNat : Int)) := by
  refine ⟨checkedSignExtend_eq word width, fun positive small => ?_, signExtend_of_whole word⟩
  have extended := wraps_signExtend word positive (Nat.le_of_lt small)
  refine ⟨fun r => ⟨fun wraps => wraps.unique positive extended, ?_⟩,
    fun _ => signExtend_congr positive small, toUInt64_signExtend_mod word positive small⟩
  rintro rfl
  exact extended

/-- The narrowest and the widest field, under bits that are set above them, and no field at all. -/
theorem signExtend_of_garbage :
    (signExtend 0xFFFFFFFFFFFFFF01 1).toInt = -1 ∧
    (signExtend 0xBFFFFFFFFFFFFFFF 63).toInt = 2 ^ 62 - 1 ∧
    (signExtend 0x8000000000000000 0).toInt = -2 ^ 63 ∧
    checkedSignExtend 0xFFFFFFFFFFFFFF01 1 = .ok (-1) := by
  obtain ⟨checked, one, -⟩ := signExtend_wraps 0xFFFFFFFFFFFFFF01 1
  obtain ⟨-, most, -⟩ := signExtend_wraps 0xBFFFFFFFFFFFFFFF 63
  obtain ⟨-, -, none⟩ := signExtend_wraps 0x8000000000000000 0
  refine ⟨?_, ?_, ?_, ?_⟩
  · exact (((one (by decide) (by decide)).1 (-1)).mp ⟨by decide, by decide, by decide⟩).symm
  · exact (((most (by decide) (by decide)).1 (2 ^ 62 - 1)).mp
      ⟨by decide, by decide, by decide⟩).symm
  · exact none (.inl rfl)
  · exact checked

end PackedRecords.Bits
