import Mathlib.Algebra.BigOperators.Ring.Finset
import Mathlib.Tactic.Ring
import PackedRecords.Bits.View

/-!
Bits of a buffer as binary digits.

Proved here, for every buffer, place and width:

* `toNat_bitAt`: a bit of a buffer is the byte it lies in, shifted and masked;
* `slice_add`, `ofDigits_append`: cutting a slice in two splits its number;
* `ofDigits_inj`: the number of so many digits tells all of them;
* `testBit_ofDigits_slice`, `ofDigits_slice_eq_sum`: the number of a slice, bit by
  bit and as a sum of powers of two;
* `eq_of_bitAt_eq`: buffers of one length that agree on every bit are equal;
* `bitAt_octets`: bytes cut out of a buffer at any bit have its bits.
-/

namespace PackedRecords.Bits

theorem toNat_bitAt (data : Array UInt8) (i : Nat) :
    (bitAt data i).toNat = ((data.getD (i / 8) 0).toNat >>> (7 - i % 8)) &&& 1 := by
  rw [bitAt, Nat.toNat_testBit, Nat.shiftRight_eq_div_pow, Nat.and_one_is_mod]

/-! ## Numbers of digits -/

theorem ofDigits_concat (l : List Bool) (b : Bool) :
    ofDigits (l ++ [b]) = 2 * ofDigits l + b.toNat := by
  simp [ofDigits, List.foldl_append]

theorem ofDigits_append (l m : List Bool) :
    ofDigits (l ++ m) = ofDigits l * 2 ^ m.length + ofDigits m := by
  induction m generalizing l with
  | nil => simp [ofDigits]
  | cons b m ih =>
    have whole := ih (l ++ [b])
    have head := ih [b]
    have digit : ofDigits [b] = b.toNat := by simp [ofDigits]
    rw [ofDigits_concat, List.append_assoc, List.singleton_append] at whole
    rw [digit, List.singleton_append] at head
    rw [whole, head, List.length_cons]
    ring

theorem ofDigits_cons (b : Bool) (l : List Bool) :
    ofDigits (b :: l) = b.toNat * 2 ^ l.length + ofDigits l := by
  rw [← List.singleton_append, ofDigits_append]
  simp [ofDigits]

theorem ofDigits_lt (l : List Bool) : ofDigits l < 2 ^ l.length := by
  induction l with
  | nil => simp [ofDigits]
  | cons b l ih =>
    rw [ofDigits_cons, List.length_cons, Nat.pow_succ]
    have := Nat.mul_le_mul_right (2 ^ l.length) b.toNat_le
    omega

theorem ofDigits_inj {l m : List Bool} (length : l.length = m.length)
    (same : ofDigits l = ofDigits m) : l = m := by
  induction l generalizing m with
  | nil => exact (List.eq_nil_of_length_eq_zero length.symm).symm
  | cons b l ih =>
    cases m with
    | nil => cases length
    | cons b' m =>
      have length : l.length = m.length := Nat.succ.inj length
      have below := ofDigits_lt l
      have below' := ofDigits_lt m
      rw [ofDigits_cons, ofDigits_cons, length] at same
      rw [length] at below
      -- The weight of the first digit is more than all others come to.
      obtain ⟨head, tail⟩ : b = b' ∧ ofDigits l = ofDigits m := by
        cases b <;> cases b' <;> simp at same ⊢ <;> omega
      rw [head, ih length tail]

/-! ## Slices -/

@[simp] theorem length_slice (data : Array UInt8) (p n : Nat) : (slice data p n).length = n := by
  simp [slice]

@[simp] theorem slice_zero (data : Array UInt8) (p : Nat) : slice data p 0 = [] := rfl

theorem slice_add (data : Array UInt8) (p m n : Nat) :
    slice data p (m + n) = slice data p m ++ slice data (p + m) n := by
  simp [slice, List.range_add, Nat.add_assoc]

theorem slice_succ (data : Array UInt8) (p n : Nat) :
    slice data p (n + 1) = slice data p n ++ [bitAt data (p + n)] := by
  rw [slice_add]
  simp [slice]

theorem testBit_ofDigits_slice (data : Array UInt8) (p n k : Nat) :
    (ofDigits (slice data p n)).testBit k = (decide (k < n) && bitAt data (p + n - 1 - k)) := by
  induction n generalizing k with
  | zero => simp [ofDigits]
  | succ n ih =>
    rw [slice_succ, ofDigits_concat]
    cases k with
    | zero =>
      have place : p + (n + 1) - 1 - 0 = p + n := by omega
      rw [Nat.testBit_zero, place]
      cases bitAt data (p + n) <;> simp
    | succ k =>
      have half : (2 * ofDigits (slice data p n) + (bitAt data (p + n)).toNat) / 2 =
          ofDigits (slice data p n) := by
        have := Bool.toNat_le (bitAt data (p + n))
        omega
      have place : p + (n + 1) - 1 - (k + 1) = p + n - 1 - k := by omega
      rw [Nat.testBit_succ, half, ih, place]
      simp

theorem ofDigits_slice_eq_sum (data : Array UInt8) (p n : Nat) :
    ofDigits (slice data p n) =
      ∑ j ∈ Finset.range n, (bitAt data (p + j)).toNat * 2 ^ (n - 1 - j) := by
  induction n with
  | zero => simp [ofDigits]
  | succ n ih =>
    rw [slice_succ, ofDigits_concat, ih, Finset.sum_range_succ, Finset.mul_sum]
    congr 1
    · apply Finset.sum_congr rfl
      intro j hj
      rw [Finset.mem_range] at hj
      have weight : n + 1 - 1 - j = (n - 1 - j) + 1 := by omega
      rw [weight, Nat.pow_succ]
      ring
    · simp

/-! ## Bytes -/

theorem bitAt_cons (b : UInt8) (bytes : List UInt8) (j : Nat) :
    bitAt (b :: bytes).toArray j =
      if j < 8 then b.toNat.testBit (7 - j) else bitAt bytes.toArray (j - 8) := by
  by_cases first : j < 8
  · have place : j / 8 = 0 ∧ j % 8 = j := by omega
    simp [bitAt, first, place]
  · have place : j / 8 = (j - 8) / 8 + 1 ∧ j % 8 = (j - 8) % 8 := by omega
    simp [bitAt, first, place]

theorem eq_of_testBit_eq {a b : UInt8} (h : ∀ k, k < 8 → a.toNat.testBit k = b.toNat.testBit k) :
    a = b := by
  apply UInt8.toNat_inj.mp
  apply Nat.eq_of_testBit_eq
  intro k
  by_cases low : k < 8
  · exact h k low
  · rw [testBit_past_byte a (by omega), testBit_past_byte b (by omega)]

theorem eq_of_bitAt_eq {a b : List UInt8} (length : a.length = b.length)
    (h : ∀ j, bitAt a.toArray j = bitAt b.toArray j) : a = b := by
  induction a generalizing b with
  | nil => exact (List.eq_nil_of_length_eq_zero length.symm).symm
  | cons x a ih =>
    cases b with
    | nil => cases length
    | cons y b =>
      have head : x = y := eq_of_testBit_eq fun k low => by
        have here := h (7 - k)
        have place : 7 - k < 8 ∧ 7 - (7 - k) = k := by omega
        rwa [bitAt_cons, bitAt_cons, if_pos place.1, if_pos place.1, place.2] at here
      have tail : a = b := ih (Nat.succ.inj length) fun j => by
        have there := h (j + 8)
        have place : ¬j + 8 < 8 := by omega
        rwa [bitAt_cons, bitAt_cons, if_neg place, if_neg place, Nat.add_sub_cancel] at there
      rw [head, tail]

/-- The `n` bytes that start at bit `p` of a buffer, whether a byte starts there or not. -/
def octets (data : Array UInt8) (p n : Nat) : List UInt8 :=
  (List.range n).map fun k => UInt8.ofNat (ofDigits (slice data (p + 8 * k) 8))

@[simp] theorem length_octets (data : Array UInt8) (p n : Nat) : (octets data p n).length = n := by
  simp [octets]

theorem bitAt_octets (data : Array UInt8) (p n j : Nat) :
    bitAt (octets data p n).toArray j = (decide (j < 8 * n) && bitAt data (p + j)) := by
  by_cases inside : j < 8 * n
  · have byte : j / 8 < n := by omega
    have low : 7 - j % 8 < 8 := by omega
    have place : p + 8 * (j / 8) + 8 - 1 - (7 - j % 8) = p + j := by omega
    have fits : ofDigits (slice data (p + 8 * (j / 8)) 8) % 256 =
        ofDigits (slice data (p + 8 * (j / 8)) 8) :=
      Nat.mod_eq_of_lt (by simpa using ofDigits_lt (slice data (p + 8 * (j / 8)) 8))
    have here : (octets data p n).toArray.getD (j / 8) 0 =
        UInt8.ofNat (ofDigits (slice data (p + 8 * (j / 8)) 8)) := by simp [octets, byte]
    rw [bitAt, here, UInt8.toNat_ofNat', fits, testBit_ofDigits_slice, place]
    simp [low, inside]
  · have byte : n ≤ j / 8 := by omega
    simp [bitAt, byte, inside]

end PackedRecords.Bits
