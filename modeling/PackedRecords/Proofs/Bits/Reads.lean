import PackedRecords.Proofs.Bits.Digits

/-!
What reads give out. A cursor reads any number of bits in chunks of at most eight,
each through a window over two bytes; the answer does not show it.

Proved here, for every buffer, every place in it and every width:

* `toNat_peek`: one chunk is the number of its slice;
* `readWord_of_le`, `readBytes_of_le`: the two chunk loops, by induction on the
  chunks, with all digits read so far as the invariant;
* `read_eq_ok_iff`, `readWord_eq_ok_iff`, `readBytes_eq_ok_iff`: when each of the three
  reads succeeds, and with what.
-/

namespace PackedRecords.Cursor

open Bits

variable {c t : Cursor} {n : Nat}

/-! ## One chunk -/

theorem toNat_peek (small : n ≤ 8) (h : n ≤ c.available) :
    (c.peek n h).toNat = ofDigits (slice c.data c.position n) := by
  by_cases positive : 0 < n
  · apply Nat.eq_of_testBit_eq
    intro k
    simp only [peek, positive, ↓reduceDIte]
    rw [testBit_window positive small, testBit_ofDigits_slice]
  · obtain rfl : n = 0 := by omega
    rfl

theorem read_of_le (small : n ≤ 8) (h : n ≤ c.available) :
    read n c = (.ok (c.peek n h), c.advance n h) :=
  dif_pos ⟨small, h⟩

theorem require_of_le (h : n ≤ c.available) : require n c = (.ok (), c) :=
  if_pos h

theorem skip_of_le (h : n ≤ c.available) : skip n c = (.ok (), c.advance n h) :=
  dif_pos h

theorem align_of_dvd (h : n = 0 ∨ n ∣ c.position) : align n c = (.ok (), c) :=
  if_pos (h.imp_right Nat.mod_eq_zero_of_dvd)

theorem align_of_not_dvd (positive : 0 < n) (off : ¬n ∣ c.position) :
    align n c = skip (n - c.position % n) c := by
  rw [align, if_neg]
  rintro (rfl | there)
  · omega
  · exact off (Nat.dvd_of_mod_eq_zero there)

/-! ## Chunks -/

theorem chunks_of_lt (positive : 0 < n) (small : n < 8) : chunks n = [n] := by
  have quotient : n / 8 = 0 := Nat.div_eq_of_lt small
  have remainder : n % 8 = n := Nat.mod_eq_of_lt small
  have nonzero : n ≠ 0 := Nat.ne_of_gt positive
  simp [chunks, quotient, remainder, nonzero]

theorem chunks_add_eight (n : Nat) : chunks (n + 8) = 8 :: chunks n := by
  have quotient : (n + 8) / 8 = n / 8 + 1 := by omega
  have remainder : (n + 8) % 8 = n % 8 := by omega
  simp [chunks, quotient, remainder, List.replicate_succ]

/-- A width has no chunk, or one partial chunk, or a whole one before the others. -/
theorem chunks_induction {P : Nat → Prop} (none : P 0) (last : ∀ n, 0 < n → n < 8 → P n)
    (whole : ∀ n, P n → P (n + 8)) (n : Nat) : P n := by
  induction n using Nat.strongRecOn with
  | ind n ih =>
    by_cases zero : n = 0
    · exact zero ▸ none
    · by_cases small : n < 8
      · exact last n (Nat.pos_of_ne_zero zero) small
      · obtain ⟨m, rfl⟩ : ∃ m, n = m + 8 := ⟨n - 8, by omega⟩
        exact whole m (ih m (by omega))

/-! ## Words -/

/-- Reading below a word appends digits to it, as long as all of them fit. -/
theorem readBelow_of_le {word : UInt64} {digits : List Bool} (small : n ≤ 8)
    (fits : digits.length + n ≤ 64) (h : n ≤ c.available) (value : word.toNat = ofDigits digits) :
    ∃ next, readBelow word n c = (.ok next, c.advance n h) ∧
      next.toNat = ofDigits (digits ++ slice c.data c.position n) := by
  refine ⟨_, Attempt.bind_ok (read_of_le small h) _, ?_⟩
  have low := toNat_peek small h
  have lowBound := ofDigits_lt (slice c.data c.position n)
  have wordBound := ofDigits_lt digits
  rw [length_slice] at lowBound
  have shifted : ofDigits digits <<< n < 2 ^ 64 := by
    rw [Nat.shiftLeft_eq]
    calc ofDigits digits * 2 ^ n
        < 2 ^ digits.length * 2 ^ n := Nat.mul_lt_mul_of_pos_right wordBound (Nat.two_pow_pos n)
      _ = 2 ^ (digits.length + n) := (Nat.pow_add _ _ _).symm
      _ ≤ 2 ^ 64 := Nat.pow_le_pow_right (by omega) fits
  have amount : (UInt64.ofNat n).toNat % 64 = n := by
    rw [UInt64.toNat_ofNat']
    omega
  rw [UInt64.toNat_or, UInt64.toNat_shiftLeft, amount, UInt8.toNat_toUInt64, value, low,
    Nat.mod_eq_of_lt shifted, ← Nat.shiftLeft_add_eq_or_of_lt lowBound, ofDigits_append,
    length_slice, Nat.shiftLeft_eq]

theorem foldlM_readBelow_of_le {word : UInt64} {digits : List Bool}
    (fits : digits.length + n ≤ 64) (h : n ≤ c.available) (value : word.toNat = ofDigits digits) :
    ∃ next, (chunks n).foldlM readBelow word c = (.ok next, c.advance n h) ∧
      next.toNat = ofDigits (digits ++ slice c.data c.position n) := by
  induction n using chunks_induction generalizing c word digits with
  | none => exact ⟨word, rfl, by rw [slice_zero, List.append_nil, value]⟩
  | last n positive small =>
    obtain ⟨next, run, number⟩ := readBelow_of_le (Nat.le_of_lt small) fits h value
    refine ⟨next, ?_, number⟩
    rw [chunks_of_lt positive small, List.foldlM_cons, Attempt.bind_ok run]
    rfl
  | whole n ih =>
    have first : 8 ≤ c.available := by omega
    have left : n ≤ (c.advance 8 first).available := by
      rw [available_advance]
      omega
    obtain ⟨next, run, number⟩ := readBelow_of_le (Nat.le_refl 8) (by omega) first value
    have length : (digits ++ slice c.data c.position 8).length = digits.length + 8 := by simp
    obtain ⟨last, rest, total⟩ := ih (by omega) left number
    refine ⟨last, ?_, ?_⟩
    · rw [chunks_add_eight, List.foldlM_cons, Attempt.bind_ok run, rest, advance_advance]
      simp only [Nat.add_comm]
    · rw [total, Nat.add_comm n 8, slice_add, List.append_assoc]
      rfl

theorem readWord_of_le (small : n ≤ 64) (h : n ≤ c.available) :
    ∃ word, readWord n c = (.ok word, c.advance n h) ∧
      word.toNat = ofDigits (slice c.data c.position n) := by
  have fits : ([] : List Bool).length + n ≤ 64 := by simpa using small
  have value : (0 : UInt64).toNat = ofDigits [] := rfl
  obtain ⟨word, run, number⟩ := foldlM_readBelow_of_le fits h value
  refine ⟨word, ?_, number⟩
  rw [readWord, if_neg (by omega), Attempt.bind_ok (require_of_le h), run]

/-! ## Byte strings -/

theorem readHigh_of_le (positive : 0 < n) (small : n ≤ 8) (h : n ≤ c.available) :
    ∃ byte, readHigh n c = (.ok byte, c.advance n h) ∧
      ∀ j, j < 8 → byte.toNat.testBit (7 - j) =
        (decide (j < n) && bitAt c.data (c.position + j)) := by
  refine ⟨_, Attempt.bind_ok (read_of_le small h) _, ?_⟩
  intro j inByte
  have amount : (UInt8.ofNat (8 - n)).toNat % 8 = 8 - n := by
    rw [UInt8.toNat_ofNat']
    omega
  rw [UInt8.toNat_shiftLeft, amount, Nat.testBit_mod_two_pow, Nat.testBit_shiftLeft,
    toNat_peek small h, testBit_ofDigits_slice]
  by_cases inside : j < n
  · have weight : 8 - n ≤ 7 - j ∧ 7 - j - (8 - n) < n := by omega
    have place : c.position + n - 1 - (7 - j - (8 - n)) = c.position + j := by omega
    have low : 7 - j < 8 := by omega
    simp [inside, weight, place, low]
  · have weight : ¬8 - n ≤ 7 - j := by omega
    simp [inside, weight]

theorem mapM_readHigh_of_le (h : n ≤ c.available) :
    ∃ bytes, (chunks n).mapM readHigh c = (.ok bytes, c.advance n h) ∧
      bytes.length = (n + 7) / 8 ∧
      ∀ j, bitAt bytes.toArray j = (decide (j < n) && bitAt c.data (c.position + j)) := by
  induction n using chunks_induction generalizing c with
  | none => exact ⟨[], rfl, rfl, fun j => by simp [bitAt]⟩
  | last n positive small =>
    obtain ⟨byte, run, bits⟩ := readHigh_of_le positive (Nat.le_of_lt small) h
    refine ⟨[byte], ?_, ?_, ?_⟩
    · rw [chunks_of_lt positive small, List.mapM_cons, Attempt.bind_ok run]
      rfl
    · simp only [List.length_singleton]
      omega
    · intro j
      rw [bitAt_cons]
      by_cases inByte : j < 8
      · rw [if_pos inByte, bits j inByte]
      · have outside : ¬j < n := by omega
        simp [inByte, outside, bitAt]
  | whole n ih =>
    have first : 8 ≤ c.available := by omega
    have left : n ≤ (c.advance 8 first).available := by
      rw [available_advance]
      omega
    obtain ⟨byte, run, bits⟩ := readHigh_of_le (by omega) (Nat.le_refl 8) first
    obtain ⟨bytes, rest, length, tail⟩ := ih left
    refine ⟨byte :: bytes, ?_, ?_, ?_⟩
    · rw [chunks_add_eight, List.mapM_cons, Attempt.bind_ok run, Attempt.bind_ok rest,
        advance_advance]
      simp only [Nat.add_comm]
      rfl
    · rw [List.length_cons, length]
      omega
    · intro j
      rw [bitAt_cons]
      by_cases inByte : j < 8
      · have inside : j < n + 8 := by omega
        rw [if_pos inByte, bits j inByte]
        simp [inByte, inside]
      · have shift : j - 8 < n ↔ j < n + 8 := by omega
        have place : c.position + 8 + (j - 8) = c.position + j := by omega
        rw [if_neg inByte, tail]
        simp [shift, place]

theorem readBytes_of_le (h : n ≤ c.available) :
    ∃ bytes, readBytes n c = (.ok bytes, c.advance n h) ∧
      bytes.length = (n + 7) / 8 ∧
      ∀ j, bitAt bytes.toArray j = (decide (j < n) && bitAt c.data (c.position + j)) := by
  obtain ⟨bytes, run, shape⟩ := mapM_readHigh_of_le h
  exact ⟨bytes, by rw [readBytes, Attempt.bind_ok (require_of_le h), run], shape⟩

theorem readBytes_of_dvd (whole : 8 ∣ n) (h : n ≤ c.available) :
    readBytes n c = (.ok (octets c.data c.position (n / 8)), c.advance n h) := by
  obtain ⟨bytes, run, length, bits⟩ := readBytes_of_le h
  have width : 8 * (n / 8) = n := Nat.mul_div_cancel' whole
  have size : bytes.length = (octets c.data c.position (n / 8)).length := by
    rw [length, length_octets]
    omega
  rw [run, eq_of_bitAt_eq size fun j => by rw [bits, bitAt_octets, width]]

/-! ## Failing reads -/

theorem read_of_not_le (h : ¬(n ≤ 8 ∧ n ≤ c.available)) :
    read n c = (.error (.beyondEnd n c.available), c) :=
  dif_neg h

theorem require_of_not_le (h : ¬n ≤ c.available) :
    require n c = (.error (.beyondEnd n c.available), c) :=
  if_neg h

theorem skip_of_not_le (h : ¬n ≤ c.available) :
    skip n c = (.error (.beyondEnd n c.available), c) :=
  dif_neg h

theorem readWord_of_lt (wide : 64 < n) : readWord n c = (.error (.tooWide n), c) := by
  rw [readWord, if_pos wide]
  rfl

theorem readWord_of_not_le (small : n ≤ 64) (h : ¬n ≤ c.available) :
    readWord n c = (.error (.beyondEnd n c.available), c) := by
  rw [readWord, if_neg (by omega), Attempt.bind_error (require_of_not_le h)]

theorem readBytes_of_not_le (h : ¬n ≤ c.available) :
    readBytes n c = (.error (.beyondEnd n c.available), c) := by
  rw [readBytes, Attempt.bind_error (require_of_not_le h)]

/-! ## Exact answers -/

private theorem ok_eq_ok_iff {ε σ α : Type} {a b : α} {s u : σ} :
    ((.ok a, s) : Except ε α × σ) = (.ok b, u) ↔ u = s ∧ b = a := by
  simp only [Prod.mk.injEq, Except.ok.injEq, eq_comm, and_comm]

private theorem error_ne_ok {ε σ α : Type} {e : ε} {a : α} {s u : σ} :
    ((.error e, s) : Except ε α × σ) ≠ (.ok a, u) := by
  intro eq
  cases eq

theorem read_eq_ok_iff {v : UInt8} :
    read n c = (.ok v, t) ↔ n ≤ 8 ∧ ∃ h : n ≤ c.available, t = c.advance n h ∧
      v.toNat = ofDigits (slice c.data c.position n) := by
  by_cases fits : n ≤ 8 ∧ n ≤ c.available
  · obtain ⟨small, h⟩ := fits
    rw [read_of_le small h]
    simp only [ok_eq_ok_iff, small, h, exists_true_left, true_and, ← toNat_peek small h,
      UInt8.toNat_inj]
  · rw [read_of_not_le fits]
    constructor
    · intro eq
      exact absurd eq error_ne_ok
    · rintro ⟨small, h, -⟩
      exact absurd ⟨small, h⟩ fits

theorem readWord_eq_ok_iff {v : UInt64} :
    readWord n c = (.ok v, t) ↔ n ≤ 64 ∧ ∃ h : n ≤ c.available, t = c.advance n h ∧
      v.toNat = ofDigits (slice c.data c.position n) := by
  by_cases small : n ≤ 64
  · by_cases h : n ≤ c.available
    · obtain ⟨word, run, number⟩ := readWord_of_le small h
      rw [run]
      simp only [ok_eq_ok_iff, small, h, exists_true_left, true_and, ← number, UInt64.toNat_inj]
    · rw [readWord_of_not_le small h]
      constructor
      · intro eq
        exact absurd eq error_ne_ok
      · rintro ⟨-, there, -⟩
        exact absurd there h
  · rw [readWord_of_lt (by omega)]
    constructor
    · intro eq
      exact absurd eq error_ne_ok
    · rintro ⟨there, -⟩
      exact absurd there small

theorem readBytes_eq_ok_iff {bytes : List UInt8} :
    readBytes n c = (.ok bytes, t) ↔ ∃ h : n ≤ c.available, t = c.advance n h ∧
      bytes.length = (n + 7) / 8 ∧
      ∀ j, bitAt bytes.toArray j = (decide (j < n) && bitAt c.data (c.position + j)) := by
  by_cases h : n ≤ c.available
  · obtain ⟨found, run, length, bits⟩ := readBytes_of_le h
    rw [run]
    constructor
    · intro eq
      cases eq
      exact ⟨h, rfl, length, bits⟩
    · rintro ⟨_, rfl, length', bits'⟩
      have same : found = bytes :=
        eq_of_bitAt_eq (length.trans length'.symm) fun j => (bits j).trans (bits' j).symm
      rw [same]
  · rw [readBytes_of_not_le h]
    constructor
    · intro eq
      exact absurd eq error_ne_ok
    · rintro ⟨there, -⟩
      exact absurd there h

/-- A chunk, a word and a byte string are read exactly when they fit, and then hold the
bits from the cursor on: the first two as numbers with the first bit highest, byte strings
from the high end of their first byte, with what is left of the last one clear. -/
theorem read_word_bytes_exact (c t : Cursor) (n : Nat) :
    (∀ v, read n c = (.ok v, t) ↔
      n ≤ 8 ∧ ∃ h : n ≤ c.available, t = c.advance n h ∧
        v.toNat =
          ∑ j ∈ Finset.range n, (bitAt c.data (c.position + j)).toNat * 2 ^ (n - 1 - j)) ∧
    (∀ v, readWord n c = (.ok v, t) ↔
      n ≤ 64 ∧ ∃ h : n ≤ c.available, t = c.advance n h ∧
        v.toNat =
          ∑ j ∈ Finset.range n, (bitAt c.data (c.position + j)).toNat * 2 ^ (n - 1 - j)) ∧
    (∀ bytes, readBytes n c = (.ok bytes, t) ↔
      ∃ h : n ≤ c.available, t = c.advance n h ∧ bytes.length = (n + 7) / 8 ∧
        ∀ j, bitAt bytes.toArray j = (decide (j < n) && bitAt c.data (c.position + j))) := by
  simp only [← ofDigits_slice_eq_sum]
  exact ⟨fun _ => read_eq_ok_iff, fun _ => readWord_eq_ok_iff, fun _ => readBytes_eq_ok_iff⟩

end PackedRecords.Cursor
