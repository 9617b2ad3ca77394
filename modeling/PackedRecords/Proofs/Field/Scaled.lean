import PackedRecords.Proofs.Field.Raw

/-!
Scaled fields, on the side of the integers: which number it is that is multiplied by the scale
and increased by the offset. The arithmetic of floating-point numbers stays as it is.

Proved here, for every format that is accepted and has a scale or an offset:

* `readElement_of_scaled`: the payload is what scaling makes of the signed word;
* `toInt_integer_eq_reading_iff`: this word is the reading of the bits, unless the field has no
  sign and a number from two to the sixty-third on;
* on top of them, the formats under which every field is scaled as it is read
  (`scalesReading_iff`): those with a sign, and those with fewer than 64 bits.
-/

namespace PackedRecords.FieldFormat

open Bits

variable {f : FieldFormat} {c t : Cursor} {raw : UInt64}

/-- The integer that the scale and the offset of a field are applied to. -/
def operand (f : FieldFormat) (c : Cursor) : Except FieldFault Int64 :=
  f.integer <$> (f.readRaw c).1

/-- What a field of a floating-point kind holds when scaling comes to `y`. -/
def IsScaledPayload (y : Binary64) : (k : Kind) → k.Payload → Prop
  | .scalar .float, x => x = y.toBinary32
  | .scalar .double, x => x = y
  | _, _ => False

/-- Whatever the bits are, they are scaled as the number that they are read as. -/
def ScalesReading (f : FieldFormat) : Prop :=
  ∀ c : Cursor, f.bits ≤ c.available → ∃ n, f.operand c = .ok n ∧ n.toInt = f.reading c

theorem isFloating_of_scaled (checked : f.check = .ok ()) (scaled : f.isScaled) :
    f.kind = .scalar .float ∨ f.kind = .scalar .double := by
  have floating := (check_eq_ok_iff.mp checked).2.2.2.2.1 scaled
  unfold Kind.isFloating at floating
  split at floating
  · exact .inl ‹_›
  · exact .inr ‹_›
  · cases floating

theorem raw_of_scaled (checked : f.check = .ok ()) (scaled : f.isScaled) : f.kind ∈ rawKinds := by
  rcases isFloating_of_scaled checked scaled with kind | kind <;> rw [kind] <;> decide

theorem width_of_scaled (checked : f.check = .ok ()) (scaled : f.isScaled) :
    0 < f.bits ∧ f.bits ≤ 64 :=
  width_of_raw (raw_of_scaled checked scaled) (check_eq_ok_iff.mp checked).2.2.2.2.2.2

/-- Without a sign, a word of 64 bits is still taken for one with a sign. -/
theorem toInt_integer_eq_reading_iff (positive : 0 < f.bits) (small : f.bits ≤ 64)
    (value : raw.toNat = f.number c) :
    (f.integer raw).toInt = f.reading c ↔ f.signed = true ∨ f.number c < 2 ^ 63 := by
  cases signed : f.signed with
  | true => simp [toInt_integer_of_signed signed positive small value]
  | false =>
    have below : f.number c < 2 ^ (63 + 1) :=
      Nat.lt_of_lt_of_le (f.number_lt c) (Nat.pow_le_pow_right (by omega) small)
    rw [toInt_integer_of_unsigned signed value, reading_of_unsigned signed, bmod_of_lt below]
    split <;> simp <;> omega

theorem readElement_of_scaled (checked : f.check = .ok ()) (scaled : f.isScaled)
    (run : f.readRaw c = (.ok raw, t)) : ∃ x,
      f.readElement f.kind c = (.ok (x, f.nullValue != some raw), t) ∧
      IsScaledPayload (f.scaled (f.integer raw)) f.kind x := by
  have holds {k : Kind} (floating : k = .scalar .float ∨ k = .scalar .double) :
      ∃ x, f.interpret raw k = .ok x ∧ IsScaledPayload (f.scaled (f.integer raw)) k x := by
    rcases floating with rfl | rfl
    all_goals exact ⟨_, rfl, if_pos scaled⟩
  obtain ⟨x, interpreted, payload⟩ := holds (isFloating_of_scaled checked scaled)
  exact ⟨x, readElement_of_interpreted (raw_of_scaled checked scaled) run interpreted, payload⟩

theorem operand_of_le (checked : f.check = .ok ()) (scaled : f.isScaled)
    (enough : f.bits ≤ c.available) : ∃ raw,
      f.readRaw c = (.ok raw, c.advance f.bits enough) ∧ f.operand c = .ok (f.integer raw) ∧
      ((f.integer raw).toInt = f.reading c ↔ f.signed = true ∨ f.number c < 2 ^ 63) := by
  obtain ⟨positive, small⟩ := width_of_scaled checked scaled
  obtain ⟨raw, run, value⟩ := readRaw_eq_number small enough
  refine ⟨raw, run, ?_, toInt_integer_eq_reading_iff positive small value⟩
  rw [operand, run]
  rfl

private def ones : Cursor := ⟨#[0xFF, 0xFF, 0xFF, 0xFF, 0xFF, 0xFF, 0xFF, 0xFF], 0, by decide⟩

theorem number_ones (wide : f.bits = 64) : f.number ones = 2 ^ 64 - 1 := by
  unfold number
  rw [wide]
  cases f.bitOrder with
  | msbFirst => decide +kernel
  | lsbFirst => decide +kernel

/-- The only fields that are not scaled as they are read have 64 bits and no sign. Of these, the
one with all bits set is the example. -/
theorem scalesReading_iff (checked : f.check = .ok ()) (scaled : f.isScaled) :
    f.ScalesReading ↔ f.signed = true ∨ f.bits < 64 := by
  constructor
  · intro scales
    rcases Nat.lt_or_eq_of_le (width_of_scaled checked scaled).2 with narrow | whole
    · exact .inr narrow
    · have enough : f.bits ≤ ones.available := whole ▸ by decide
      obtain ⟨n, operand, exact⟩ := scales ones enough
      obtain ⟨raw, -, operand', reads⟩ := operand_of_le checked scaled enough
      cases operand.symm.trans operand'
      refine .inl ((reads.mp exact).resolve_right ?_)
      rw [number_ones whole]
      decide
  · intro narrow c enough
    obtain ⟨raw, -, operand, reads⟩ := operand_of_le checked scaled enough
    refine ⟨f.integer raw, operand, reads.mpr (narrow.imp_right fun below => ?_)⟩
    exact Nat.lt_of_lt_of_le (f.number_lt c) (Nat.pow_le_pow_right (by omega) (by omega))

/-- Each element of a scaled field, alone or in a sequence, is scaled from a signed word. That is
its number, or its reading in two's complement if the field has a sign, except where the field has
no sign and its number does not fit; under all formats but those of 64 bits without a sign, it is
the reading whatever the bits are. -/
theorem operand_of_scaled (checked : f.check = .ok ()) (scaled : f.isScaled) :
    (∀ (c : Cursor) (enough : f.bits ≤ c.available), ∃ n x valid,
      f.operand c = .ok n ∧
      f.readElement f.kind c = (.ok (x, valid), c.advance f.bits enough) ∧
      IsScaledPayload (f.scaled n) f.kind x ∧
      (n.toInt = f.reading c ↔ f.signed = true ∨ f.number c < 2 ^ 63)) ∧
    (f.ScalesReading ↔ f.signed = true ∨ f.bits < 64) := by
  refine ⟨fun c enough => ?_, scalesReading_iff checked scaled⟩
  obtain ⟨raw, run, operand, reads⟩ := operand_of_le checked scaled enough
  obtain ⟨x, read, payload⟩ := readElement_of_scaled checked scaled run
  exact ⟨f.integer raw, x, _, operand, read, payload, reads⟩

private def drift : FieldFormat :=
  { kind := .scalar .float, bits := 12, signed := true, bitOrder := .lsbFirst,
    offset := some ⟨0x4024000000000000⟩ }

/-- Twelve bits from the middle of a byte, the sign last, with ten added. -/
theorem operand_of_drift : drift.ScalesReading ∧ ∃ n : Int64, ∃ x valid t,
    drift.readElement (.scalar .float) ⟨#[0xA5, 0x5F], 3, by decide⟩ = (.ok (x, valid), t) ∧
      x = (drift.scaled n).toBinary32 ∧ n.toInt = -172 := by
  obtain ⟨operands, scales⟩ := operand_of_scaled (f := drift) (by decide) (by decide)
  obtain ⟨n, x, valid, -, read, payload, exact⟩ :=
    operands ⟨#[0xA5, 0x5F], 3, by decide⟩ (by decide)
  have value : drift.reading ⟨#[0xA5, 0x5F], 3, by decide⟩ = -172 := by decide
  exact ⟨scales.mpr (.inl rfl), n, x, valid, _, read, payload,
    (exact.mpr (.inl rfl)).trans value⟩

private def depth : FieldFormat :=
  { kind := .scalar .double, bits := 64, scale := some ⟨0x3FF0000000000000⟩ }

private def abyss : Cursor := ⟨#[0x80, 0, 0, 0, 0, 0, 0, 0], 0, by decide⟩

/-- A field without a sign, which holds two to the sixty-third, is scaled as a number below zero. -/
theorem operand_of_depth :
    depth.check = .ok () ∧ depth.isScaled ∧ depth.signed = false ∧
      depth.reading abyss = 2 ^ 63 ∧ depth.operand abyss = .ok Int64.minValue ∧
      Int64.minValue.toInt = -2 ^ 63 ∧ ¬depth.ScalesReading ∧
      ∃ t, depth.decode abyss =
        (.ok ⟨⟨.scalar .double, depth.scaled Int64.minValue⟩, true, none⟩, t) := by
  have operand : depth.operand abyss = .ok Int64.minValue := by rfl
  have reading : depth.reading abyss = 2 ^ 63 := by decide +kernel
  refine ⟨by decide, by decide, rfl, reading, operand, by decide, fun scales => ?_, _, by rfl⟩
  obtain ⟨n, operand', exact⟩ := scales abyss (by decide)
  cases operand.symm.trans operand'
  rw [reading] at exact
  exact absurd exact (by decide)

end PackedRecords.FieldFormat
