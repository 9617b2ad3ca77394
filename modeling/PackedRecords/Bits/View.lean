import PackedRecords.Bits.Cursor

/-!
What a buffer says bit by bit, without any cursor: the meaning that reads are
measured against. The window of a read shows exactly the bits it was asked for.
-/

namespace PackedRecords.Bits

/-- Bit `i` of a buffer, counted from the high end of its first byte. Bits past the
end are clear. -/
def bitAt (data : Array UInt8) (i : Nat) : Bool :=
  (data.getD (i / 8) 0).toNat.testBit (7 - i % 8)

/-- The number with the given binary digits, highest first. -/
def ofDigits (digits : List Bool) : Nat :=
  digits.foldl (fun n b => 2 * n + b.toNat) 0

/-- The `n` bits of a buffer from bit `p` on. -/
def slice (data : Array UInt8) (p n : Nat) : List Bool :=
  (List.range n).map fun j => bitAt data (p + j)

theorem bitAt_of_lt {data : Array UInt8} {i : Nat} (h : i / 8 < data.size) :
    bitAt data i = data[i / 8].toNat.testBit (7 - i % 8) := by
  simp [bitAt, h]

/-! ## The window of a read -/

private theorem low_ones : ∀ n : Fin 9,
    ((1 : UInt16) <<< UInt16.ofNat n.val - 1).toNat = Nat.pow 2 n.val - 1 := by
  decide

private theorem toNat_shiftRight_ofNat {w : UInt16} {s : Nat} (h : s < 16) :
    (w >>> UInt16.ofNat s).toNat = w.toNat >>> s := by
  simp [UInt16.toNat_shiftRight, Nat.mod_eq_of_lt h]

private theorem toNat_high (b : UInt8) : (b.toUInt16 <<< 8).toNat = b.toNat <<< 8 := by
  have := b.toNat_lt
  simp [UInt16.toNat_shiftLeft, Nat.shiftLeft_eq]
  omega

theorem testBit_past_byte (b : UInt8) {i : Nat} (h : 8 ≤ i) :
    b.toNat.testBit i = false :=
  Nat.testBit_lt_two_pow (Nat.lt_of_lt_of_le b.toNat_lt (Nat.pow_le_pow_right (by omega) h))

/-- The window shows the bits asked for, the last one lowest, and nothing else. -/
theorem testBit_window {data : Array UInt8} {p n : Nat} (positive : 0 < n) (small : n ≤ 8)
    (inside : p + n ≤ 8 * data.size) (k : Nat) :
    (Cursor.window data p n positive inside).toNat.testBit k =
      (decide (k < n) && bitAt data (p + n - 1 - k)) := by
  have ones : ((1 : UInt16) <<< UInt16.ofNat n - 1).toNat = 2 ^ n - 1 :=
    low_ones ⟨n, by omega⟩
  unfold Cursor.window
  simp only [UInt16.toNat_toUInt8, UInt16.toNat_and, ones]
  rw [toNat_shiftRight_ofNat (by omega), Nat.testBit_mod_two_pow,
    Nat.and_two_pow_sub_one_eq_mod, Nat.testBit_mod_two_pow, Nat.testBit_shiftRight]
  by_cases hk : k < n
  · have k8 : k < 8 := by omega
    simp only [hk, k8, decide_true, Bool.true_and]
    rw [bitAt_of_lt (by omega)]
    split
    · rw [UInt16.toNat_or, toNat_high, Nat.testBit_or, Nat.testBit_shiftLeft,
        UInt8.toNat_toUInt16]
      by_cases second : k < p % 8 + n - 8
      · have byte : (p + n - 1 - k) / 8 = p / 8 + 1 := by omega
        have low : 16 - p % 8 - n + k = 7 - (p + n - 1 - k) % 8 := by omega
        have notHigh : ¬8 ≤ 7 - (p + n - 1 - k) % 8 := by omega
        simp [byte, low, notHigh]
      · have byte : (p + n - 1 - k) / 8 = p / 8 := by omega
        have low : 16 - p % 8 - n + k - 8 = 7 - (p + n - 1 - k) % 8 := by omega
        have high : 8 ≤ 16 - p % 8 - n + k := by omega
        rw [testBit_past_byte _ high]
        simp [byte, low, high]
    · have byte : (p + n - 1 - k) / 8 = p / 8 := by omega
      have low : 16 - p % 8 - n + k - 8 = 7 - (p + n - 1 - k) % 8 := by omega
      have high : 8 ≤ 16 - p % 8 - n + k := by omega
      rw [toNat_high, Nat.testBit_shiftLeft]
      simp [byte, low, high]
  · simp [hk]

end PackedRecords.Bits
