import PackedRecords.Proofs.Field.Raw

/-!
Integer fields whose payloads tell their bits apart. The width that a kind accepts at most is
that of the machine integer it is kept in, so nothing is cut off. Codes of enumerations are the
exception: they are kept in 32 bits and accepted up to 64.

Proved here, for every format that is accepted:

* `number_eq_iff`, `number_of_reading`: the bits, their number and its reading tell each other;
* `number_of_payload`: so does the payload, where there is room for the bits;
* `exists_congruent`, `code_of_number`: in wider fields there are two numbers with one code;
* on top of them, `distinguishes_iff`: the formats under which no two fields collapse.
-/

namespace PackedRecords.FieldFormat

open Bits

variable {f : FieldFormat} {c c' : Cursor}

/-! ## Bits and numbers -/

theorem number_eq_iff : f.number c = f.number c' ↔
    slice c.data c.position f.bits = slice c'.data c'.position f.bits := by
  unfold number
  cases f.bitOrder with
  | msbFirst =>
    simp only [← ofDigits_slice_eq_sum]
    exact ⟨ofDigits_inj (by simp), congrArg ofDigits⟩
  | lsbFirst =>
    simp only [← ofDigits_reverse_slice_eq_sum]
    exact ⟨fun same => List.reverse_inj.mp (ofDigits_inj (by simp) same),
      congrArg fun digits : List Bool => ofDigits digits.reverse⟩

theorem reading_modEq (f : FieldFormat) (c : Cursor) :
    f.reading c ≡ f.number c [ZMOD 2 ^ f.bits] := by
  unfold reading
  split
  · exact Int.modEq_iff_dvd.mpr ⟨1, by ring⟩
  · rfl

theorem number_of_reading (same : f.reading c ≡ f.reading c' [ZMOD 2 ^ f.bits]) :
    f.number c = f.number c' := by
  have congruent : (f.number c : Int) ≡ f.number c' [ZMOD 2 ^ f.bits] :=
    (f.reading_modEq c).symm.trans (same.trans (f.reading_modEq c'))
  have congruent : f.number c ≡ f.number c' [MOD 2 ^ f.bits] := by
    exact_mod_cast congruent
  exact congruent.eq_of_lt_of_lt (f.number_lt c) (f.number_lt c')

/-! ## Payloads -/

def integerKinds : List Kind :=
  [.scalar .byte, .scalar .short, .scalar .int, .scalar .long, .scalar .enum]

/-- The bits that an integer of a kind has room for. -/
def room : Kind → Nat
  | .scalar .byte => 8
  | .scalar .short => 16
  | .scalar .int | .scalar .enum => 32
  | _ => 64

/-- The widths that are accepted are those there is room for, unless the field is a code. -/
theorem narrow_of_check (checked : f.checkWidth = .ok ()) (integers : f.kind ∈ integerKinds)
    (code : f.kind = .scalar .enum → f.bits ≤ 32) : f.bits ≤ room f.kind := by
  unfold checkWidth at checked
  simp only [integerKinds, List.mem_cons, List.not_mem_nil, or_false] at integers
  rcases integers with kind | kind | kind | kind | kind
  case inr.inr.inr.inr =>
    rw [kind]
    exact code kind
  all_goals
    rw [kind] at checked ⊢
    exact (width_of_checkAtMost checked).2

theorem number_of_payload {k : Kind} {x : k.Payload} (integers : k ∈ integerKinds)
    (narrow : f.bits ≤ room k) (payload : IsRawPayload (f.number c) (f.reading c) k x)
    (payload' : IsRawPayload (f.number c') (f.reading c') k x) : f.number c = f.number c' := by
  have wraps {width : Nat} {y : Int} (narrow : f.bits ≤ width) (wraps : Wraps width (f.reading c) y)
      (wraps' : Wraps width (f.reading c') y) : f.number c = f.number c' :=
    number_of_reading ((wraps.congruent.symm.trans wraps'.congruent).of_dvd (pow_dvd_pow 2 narrow))
  simp only [integerKinds, List.mem_cons, List.not_mem_nil, or_false] at integers
  rcases integers with rfl | rfl | rfl | rfl | rfl
  · exact payload.symm.trans payload'
  all_goals exact wraps narrow payload payload'

/-- Of a field that is wider, an enumeration code keeps the low bits. -/
theorem code_of_number {k : Kind} {x x' : k.Payload} (code : k = .scalar .enum)
    (wide : 32 ≤ f.bits) (same : f.number c ≡ f.number c' [MOD 2 ^ 32])
    (payload : IsRawPayload (f.number c) (f.reading c) k x)
    (payload' : IsRawPayload (f.number c') (f.reading c') k x') : x = x' := by
  subst code
  have low (c : Cursor) : f.reading c ≡ f.number c [ZMOD 2 ^ 32] :=
    (f.reading_modEq c).of_dvd (pow_dvd_pow 2 wide)
  have congruent : (f.number c : Int) ≡ f.number c' [ZMOD 2 ^ 32] := by exact_mod_cast same
  have readings : f.reading c' ≡ f.reading c [ZMOD 2 ^ 32] :=
    (low c').trans (congruent.symm.trans (low c).symm)
  have wraps : Wraps 32 (f.reading c) x.toInt := payload
  have wraps' : Wraps 32 (f.reading c') x'.toInt := payload'
  exact Int32.toInt_inj.mp (wraps.unique (by decide)
    ⟨wraps'.low, wraps'.high, wraps'.congruent.trans readings⟩)

/-! ## Fields -/

/-- Wherever two fields of the format lie, they decode to different payloads if their bits
differ. -/
def Distinguishes (f : FieldFormat) : Prop :=
  ∀ c c' : Cursor, f.bits ≤ c.available → f.bits ≤ c'.available →
    slice c.data c.position f.bits ≠ slice c'.data c'.position f.bits →
    ∃ d d', (f.decode c).1 = .ok d ∧ (f.decode c').1 = .ok d' ∧ d.value ≠ d'.value

theorem decode_of_integer (checked : f.check = .ok ()) (single : f.count = none)
    (plain : f.nullValue = none) (integers : f.kind ∈ integerKinds)
    (enough : f.bits ≤ c.available) :
    ∃ x, (f.decode c).1 = .ok ⟨⟨f.kind, x⟩, true, f.unit⟩ ∧
      IsRawPayload (f.number c) (f.reading c) f.kind x := by
  have raws : f.kind ∈ rawKinds ∧ f.kind.isFloating = false :=
    (by decide : ∀ k ∈ integerKinds, k ∈ rawKinds ∧ k.isFloating = false) f.kind integers
  obtain ⟨x, run, payload⟩ := decode_of_raw checked single raws.1
    (fun floating => absurd floating (by simp [raws.2])) enough (by simp [plain])
  exact ⟨x, by rw [run], payload⟩

theorem value_ne_of_payload {k : Kind} {x x' : k.Payload} (differ : x ≠ x') :
    Value.mk k x ≠ ⟨k, x'⟩ := by
  rintro ⟨⟩
  exact differ rfl

/-! ## Codes in wide fields -/

private theorem bitAt_empty : ∀ i < 64, bitAt #[0, 0, 0, 0, 0, 0, 0, 0] i = false := by decide

private theorem bitAt_31 : ∀ i < 64, bitAt #[0, 0, 0, 1, 0, 0, 0, 0] i = decide (i = 31) := by
  decide

private theorem bitAt_32 : ∀ i < 64, bitAt #[0, 0, 0, 0, 0x80, 0, 0, 0] i = decide (i = 32) := by
  decide

private theorem sum_of_lone {n j : Nat} {bit : Nat → Bool} (inside : j < n) (weight : Nat → Nat)
    (lone : ∀ i < n, bit i = decide (i = j)) :
    ∑ i ∈ Finset.range n, (bit i).toNat * weight i = weight j := by
  rw [Finset.sum_eq_single_of_mem j (Finset.mem_range.mpr inside)]
  · simp [lone j inside]
  · intro i there other
    simp [lone i (Finset.mem_range.mp there), other]

theorem number_of_empty {c : Cursor} (empty : ∀ j < f.bits, bitAt c.data (c.position + j) = false) :
    f.number c = 0 := by
  unfold number
  cases f.bitOrder
  all_goals
    apply Finset.sum_eq_zero
    intro j there
    rw [empty j (Finset.mem_range.mp there), Bool.toNat_false, Nat.zero_mul]

/-- More bits than a code has room for can hold zero, and the next number with its low bits. -/
theorem exists_congruent (wide : 32 < f.bits) (small : f.bits ≤ 64) :
    ∃ c c' : Cursor, f.bits ≤ c.available ∧ f.bits ≤ c'.available ∧
      f.number c = 0 ∧ f.number c' = 2 ^ 32 := by
  have enough {data : Array UInt8} (size : data.size = 8) :
      ∀ inside, f.bits ≤ (⟨data, 64 - f.bits, inside⟩ : Cursor).available := by
    intro inside
    simp only [Cursor.available, Cursor.lengthBits, size]
    omega
  have zero : f.number ⟨#[0, 0, 0, 0, 0, 0, 0, 0], 64 - f.bits, by simp⟩ = 0 :=
    number_of_empty fun j there => bitAt_empty _ (by simp; omega)
  refine ⟨⟨#[0, 0, 0, 0, 0, 0, 0, 0], 64 - f.bits, by simp⟩, ?_⟩
  -- The bit of weight two to the 32nd is the 33rd from the end of the field, or from its start.
  cases order : f.bitOrder with
  | msbFirst =>
    refine ⟨⟨#[0, 0, 0, 1, 0, 0, 0, 0], 64 - f.bits, by simp⟩, enough rfl _, enough rfl _, zero, ?_⟩
    simp only [number, order]
    rw [sum_of_lone (j := f.bits - 33) (by omega)]
    · congr 1
      omega
    · intro j there
      rw [bitAt_31 _ (by omega), decide_eq_decide]
      omega
  | lsbFirst =>
    refine ⟨⟨#[0, 0, 0, 0, 0x80, 0, 0, 0], 0, by simp⟩, enough rfl _, small, zero, ?_⟩
    simp only [number, order]
    rw [sum_of_lone (j := 32) wide]
    intro j there
    rw [Nat.zero_add, bitAt_32 _ (by omega)]

theorem not_distinguishes (checked : f.check = .ok ()) (single : f.count = none)
    (plain : f.nullValue = none) (code : f.kind = .scalar .enum) (wide : 32 < f.bits) :
    ¬f.Distinguishes := by
  have integers : f.kind ∈ integerKinds := code ▸ by decide
  have small : f.bits ≤ 64 := by
    have width := (check_eq_ok_iff.mp checked).2.2.2.2.2.2
    rw [checkWidth, code] at width
    exact (width_of_checkAtMost width).2
  intro distinguishes
  obtain ⟨c, c', enough, enough', zero, next⟩ := exists_congruent wide small
  obtain ⟨x, run, payload⟩ := decode_of_integer checked single plain integers enough
  obtain ⟨x', run', payload'⟩ := decode_of_integer checked single plain integers enough'
  obtain ⟨d, d', decoded, decoded', differ⟩ := distinguishes c c' enough enough' fun same => by
    cases zero.symm.trans ((number_eq_iff.mpr same).trans next)
  cases run.symm.trans decoded
  cases run'.symm.trans decoded'
  have congruent : f.number c ≡ f.number c' [MOD 2 ^ 32] := by
    rw [zero, next]
    rfl
  exact differ (congrArg (Value.mk f.kind)
    (code_of_number code (Nat.le_of_lt wide) congruent payload payload'))

/-- A single integer field without a null word tells all that its bits can hold apart, and there
is one exception: codes of enumerations, of which wider fields than there is room for are accepted
as well. -/
theorem distinguishes_iff (checked : f.check = .ok ()) (single : f.count = none)
    (plain : f.nullValue = none) (integers : f.kind ∈ integerKinds) :
    f.Distinguishes ↔ (f.kind = .scalar .enum → f.bits ≤ 32) := by
  constructor
  · intro distinguishes code
    by_contra wide
    exact not_distinguishes checked single plain code (Nat.lt_of_not_le wide) distinguishes
  · intro narrow c c' enough enough' differ
    have width := (check_eq_ok_iff.mp checked).2.2.2.2.2.2
    obtain ⟨x, run, payload⟩ := decode_of_integer checked single plain integers enough
    obtain ⟨x', run', payload'⟩ := decode_of_integer checked single plain integers enough'
    refine ⟨_, _, run, run', value_ne_of_payload fun same => differ (number_eq_iff.mp ?_)⟩
    exact number_of_payload integers (narrow_of_check width integers narrow) payload
      (same ▸ payload')

private def notch : FieldFormat := { kind := .scalar .int, bits := 32, signed := true }

theorem distinguishes_notch : notch.Distinguishes :=
  (distinguishes_iff (by decide) rfl rfl (by decide)).mpr (by decide)

private def grade : FieldFormat := { kind := .scalar .enum, bits := 33 }

private def marks : Cursor := ⟨#[0x80, 0, 0, 0, 0, 0, 0, 0, 0], 0, by decide⟩

/-- A bit that is set and 32 that are not, and after them 33 that are not: both are code 0. -/
theorem grades_of_marks :
    grade.check = .ok () ∧ slice marks.data 0 33 ≠ slice marks.data 33 33 ∧
      (grade.decode.times 2 marks).1 =
        .ok [.ofValue ⟨.scalar .enum, 0⟩, .ofValue ⟨.scalar .enum, 0⟩] ∧ ¬grade.Distinguishes := by
  refine ⟨by decide, by decide, by decide +kernel, ?_⟩
  exact not_distinguishes (by decide) rfl rfl rfl (by decide)

end PackedRecords.FieldFormat
