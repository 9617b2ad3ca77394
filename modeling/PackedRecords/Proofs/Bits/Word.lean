import Mathlib.Data.Int.ModEq
import Mathlib.Tactic.Positivity
import PackedRecords.Bits.Word
import PackedRecords.Proofs.Bits.Digits

/-!
The readings of a raw word as integers. Shifting a word up and back down leaves a residue that
lies about zero; moving bits across to an empty word turns them round.

Proved here, for every word:

* `toInt_signExtend`: sign extension is the balanced residue, for every width up to 64;
* `testBit_reverseLow`: where a bit goes in reversal, for every number of bits, by induction on it;
* `toNat_reverseLow`: the reverse of a word that holds a slice of a buffer;
* `Wraps.unique`: one integer of a width at most is what another wraps around to.
-/

namespace PackedRecords.Bits

/-! ## Sign extension -/

theorem half_two_pow (v : Nat) : ((2 ^ (v + 1) : Nat) : Int) / 2 = 2 ^ v ∧
    (((2 ^ (v + 1) : Nat) : Int) + 1) / 2 = 2 ^ v := by
  have whole : ((2 ^ (v + 1) : Nat) : Int) = 2 * 2 ^ v := by
    push_cast
    ring
  omega

theorem bmod_bounds (n : Int) (v : Nat) :
    -2 ^ v ≤ n.bmod (2 ^ (v + 1)) ∧ n.bmod (2 ^ (v + 1)) < 2 ^ v := by
  have positive : 0 < 2 ^ (v + 1) := Nat.two_pow_pos _
  exact ⟨(half_two_pow v).1 ▸ Int.le_bmod positive, (half_two_pow v).2 ▸ Int.bmod_lt positive⟩

/-- A residue about zero is shifted up with its modulus. -/
theorem bmod_mul_two_pow (n : Int) (v s : Nat) :
    (n * 2 ^ s).bmod (2 ^ (v + s + 1)) = n.bmod (2 ^ (v + 1)) * 2 ^ s := by
  have weight : (0 : Int) < 2 ^ s := by positivity
  obtain ⟨low, high⟩ := bmod_bounds n v
  rw [Int.bmod_eq_iff (Nat.two_pow_pos _), (half_two_pow _).1, (half_two_pow _).2, pow_add]
  refine ⟨?_, ?_, ?_⟩
  · rw [← Int.neg_mul]
    exact Int.mul_le_mul_of_nonneg_right low weight.le
  · exact Int.mul_lt_mul_of_pos_right high weight
  · have size : ((2 ^ (v + s + 1) : Nat) : Int) = (2 ^ (v + 1) : Nat) * 2 ^ s := by
      push_cast
      ring
    rw [size, ← Int.sub_mul]
    exact Int.mul_dvd_mul_right _ Int.dvd_bmod_sub_self

private theorem shift_amounts : ∀ s : Fin 64,
    ((UInt64.ofNat s.val).toBitVec % 64).toNat = s.val ∧
      ((Int64.ofNat s.val).toBitVec.smod 64).toNat = s.val := by
  decide

theorem toInt_signExtend_of_lt (word : UInt64) {width : Nat} (positive : 0 < width)
    (small : width < 64) : (signExtend word width).toInt = (word.toNat : Int).bmod (2 ^ width) := by
  obtain ⟨left, right⟩ := shift_amounts ⟨64 - width, by omega⟩
  obtain ⟨v, rfl⟩ := Nat.exists_eq_succ_of_ne_zero (Nat.ne_of_gt positive)
  have exponent : v + (64 - (v + 1)) + 1 = 64 := by omega
  have shifted := bmod_mul_two_pow word.toNat v (64 - (v + 1))
  rw [exponent] at shifted
  rw [signExtend, if_neg (by omega), ← Int64.toInt_toBitVec, Int64.toBitVec_shiftRight,
    UInt64.toBitVec_toInt64, UInt64.toBitVec_shiftLeft, BitVec.sshiftRight', right,
    BitVec.shiftLeft_eq', left, BitVec.toInt_sshiftRight, BitVec.toInt_shiftLeft,
    UInt64.toNat_toBitVec, Nat.shiftLeft_eq, Int.shiftRight_eq_div_pow, Nat.cast_mul, Nat.cast_pow,
    Nat.cast_ofNat, shifted]
  exact Int.mul_ediv_cancel _ (by positivity)

theorem toInt_toInt64 (word : UInt64) : word.toInt64.toInt = (word.toNat : Int).bmod (2 ^ 64) :=
  word.toBitVec.toInt_eq_toNat_bmod

theorem toInt_signExtend (word : UInt64) {width : Nat} (positive : 0 < width)
    (small : width ≤ 64) : (signExtend word width).toInt = (word.toNat : Int).bmod (2 ^ width) := by
  by_cases whole : width = 64
  · subst whole
    exact toInt_toInt64 word
  · exact toInt_signExtend_of_lt word positive (by omega)

/-- The balanced residue of a number of `v + 1` bits is its reading in two's complement. -/
theorem bmod_of_lt {n v : Nat} (below : n < 2 ^ (v + 1)) :
    (n : Int).bmod (2 ^ (v + 1)) = if 2 ^ v ≤ n then (n : Int) - 2 ^ (v + 1) else n := by
  have whole : (2 : Nat) ^ (v + 1) = 2 * 2 ^ v := by ring
  rw [Int.bmod_def, Int.emod_eq_of_lt (by omega) (by exact_mod_cast below), (half_two_pow v).2]
  have half : ((n : Int) < 2 ^ v) ↔ ¬2 ^ v ≤ n := by
    rw [Nat.not_le]
    exact_mod_cast Iff.rfl
  by_cases high : 2 ^ v ≤ n
  · rw [if_neg (mt half.mp (not_not_intro high)), if_pos high]
    norm_cast
  · rw [if_pos (half.mpr high), if_neg high]

/-! ## Integers of a width -/

/-- Of the integers of so many bits, `x` is the one that `m` wraps around to. -/
structure Wraps (width : Nat) (m x : Int) : Prop where
  low : -2 ^ (width - 1) ≤ x
  high : x < 2 ^ (width - 1)
  congruent : x ≡ m [ZMOD 2 ^ width]

theorem Wraps.unique {width : Nat} {m x y : Int} (positive : 0 < width) (h : Wraps width m x)
    (h' : Wraps width m y) : x = y := by
  have whole : (2 : Int) ^ width = 2 * 2 ^ (width - 1) := by
    rw [← pow_succ', Nat.sub_add_cancel positive]
  have low := h.low
  have high := h.high
  have low' := h'.low
  have high' := h'.high
  have near : (x - y).natAbs < (2 * 2 ^ (width - 1) : Int).natAbs := by omega
  have apart := (h.congruent.trans h'.congruent.symm).symm.dvd
  rw [whole] at apart
  exact Int.sub_eq_zero.mp (Int.eq_zero_of_dvd_of_natAbs_lt_natAbs apart near)

theorem Wraps.of_bmod {n m : Int} {width : Nat} (v : Nat) (narrow : v + 1 ≤ width)
    (congruent : n ≡ m [ZMOD 2 ^ width]) : Wraps (v + 1) m (n.bmod (2 ^ (v + 1))) where
  low := (bmod_bounds n v).1
  high := (bmod_bounds n v).2
  congruent := by
    have kept : n.bmod (2 ^ (v + 1)) ≡ n [ZMOD 2 ^ (v + 1)] := by
      have residue : n.bmod (2 ^ (v + 1)) % (2 ^ (v + 1) : Nat) = n % (2 ^ (v + 1) : Nat) :=
        Int.bmod_emod
      exact_mod_cast residue
    exact kept.trans (congruent.of_dvd (pow_dvd_pow 2 narrow))

/-! ## Reversal -/

/-- A word has no bits from the sixty-fourth on. -/
theorem testBit_of_le {word : UInt64} {k : Nat} (above : 64 ≤ k) : word.toNat.testBit k = false :=
  Nat.testBit_lt_two_pow (Nat.lt_of_lt_of_le word.toNat_lt (Nat.pow_le_pow_right (by omega) above))

/-- The lowest bit moves below those that were moved before. -/
theorem testBit_moved (word done : UInt64) {k : Nat} (inside : k < 64) :
    ((done <<< 1) ||| (word &&& 1)).toNat.testBit k =
      if k = 0 then word.toNat.testBit 0 else done.toNat.testBit (k - 1) := by
  have one : (1 : UInt64).toNat = 1 := rfl
  rw [UInt64.toNat_or, UInt64.toNat_and, UInt64.toNat_shiftLeft, Nat.testBit_or, Nat.testBit_and,
    Nat.testBit_mod_two_pow, Nat.testBit_shiftLeft, one]
  cases k with
  | zero => simp
  | succ k => simp [inside, Nat.testBit_succ]

theorem testBit_shiftAcross (n : Nat) (word done : UInt64) {k : Nat} (inside : k < 64) :
    (shiftAcross n word done).toNat.testBit k =
      if k < n then word.toNat.testBit (n - 1 - k) else done.toNat.testBit (k - n) := by
  induction n generalizing word done with
  | zero => simp [shiftAcross]
  | succ n ih =>
    have shifted (j : Nat) : (word >>> 1).toNat.testBit j = word.toNat.testBit (j + 1) := by
      simp [UInt64.toNat_shiftRight, Nat.testBit_shiftRight, Nat.add_comm]
    rw [shiftAcross, ih, shifted, testBit_moved word done (by omega)]
    by_cases lower : k < n
    · have place : n - 1 - k + 1 = n + 1 - 1 - k := by omega
      simp [lower, Nat.lt_succ_of_lt lower, place]
    · by_cases last : k = n
      · simp [last]
      · have later : ¬k < n + 1 := by omega
        have place : k - n ≠ 0 ∧ k - n - 1 = k - (n + 1) := by omega
        simp [lower, later, place]

/-- Bit `k` of the reverse is the one as far from the other end. -/
theorem testBit_reverseLow (word : UInt64) (n : Nat) {k : Nat} (inside : k < 64) :
    (reverseLow word n).toNat.testBit k = (decide (k < n) && word.toNat.testBit (n - 1 - k)) := by
  rw [reverseLow, testBit_shiftAcross n word 0 inside]
  by_cases lower : k < n <;> simp [lower]

/-! ## Slices the other way round -/

variable {data : Array UInt8} {p n : Nat}

theorem reverse_slice_succ (data : Array UInt8) (p n : Nat) :
    ofDigits (slice data p (n + 1)).reverse =
      2 ^ n * (bitAt data (p + n)).toNat + ofDigits (slice data p n).reverse := by
  rw [slice_succ, List.reverse_concat, ← List.singleton_append, ofDigits_append,
    List.length_reverse, length_slice, Nat.mul_comm]
  simp [ofDigits]

theorem ofDigits_reverse_slice_eq_sum (data : Array UInt8) (p n : Nat) :
    ofDigits (slice data p n).reverse =
      ∑ j ∈ Finset.range n, (bitAt data (p + j)).toNat * 2 ^ j := by
  induction n with
  | zero => simp [ofDigits]
  | succ n ih =>
    rw [reverse_slice_succ, ih, Finset.sum_range_succ]
    ring

theorem testBit_ofDigits_reverse_slice (data : Array UInt8) (p n k : Nat) :
    (ofDigits (slice data p n).reverse).testBit k = (decide (k < n) && bitAt data (p + k)) := by
  induction n with
  | zero => simp [ofDigits]
  | succ n ih =>
    have below : ofDigits (slice data p n).reverse < 2 ^ n := by
      simpa using ofDigits_lt (slice data p n).reverse
    rw [reverse_slice_succ, Nat.testBit_two_pow_mul_add _ below, ih]
    by_cases lower : k < n
    · simp [lower, Nat.lt_succ_of_lt lower]
    · rcases Nat.lt_or_ge n k with above | last
      · have later : ¬k < n + 1 := by omega
        have high : (bitAt data (p + n)).toNat.testBit (k - n) = false :=
          Nat.testBit_lt_two_pow (Nat.lt_of_le_of_lt (Bool.toNat_le _)
            (Nat.one_lt_two_pow (by omega)))
        simp [lower, later, high]
      · obtain rfl : k = n := by omega
        cases bitAt data (p + k) <;> simp

theorem toNat_reverseLow {word : UInt64} (small : n ≤ 64)
    (value : word.toNat = ofDigits (slice data p n)) :
    (reverseLow word n).toNat = ofDigits (slice data p n).reverse := by
  apply Nat.eq_of_testBit_eq
  intro k
  rw [testBit_ofDigits_reverse_slice]
  by_cases inside : k < 64
  · rw [testBit_reverseLow word n inside, value, testBit_ofDigits_slice]
    by_cases lower : k < n
    · have place : n - 1 - k < n ∧ p + n - 1 - (n - 1 - k) = p + k := by omega
      simp [lower, place]
    · simp [lower]
  · have outside : ¬k < n := by omega
    simp [outside, testBit_of_le (Nat.not_lt.mp inside)]

end PackedRecords.Bits
