import PackedRecords.Proofs.Bits.Word
import PackedRecords.Proofs.Field.Decoding

/-!
Fields that are raw words: truth values, integers and floating-point numbers as they are. What
such a field gives is a matter of its bits only, as binary digits in the order of the field.

Proved here, for every format that is accepted:

* `readRaw_eq_number`: the raw word is the number of the digits, highest or lowest first;
* `toInt_integer`: as an integer it is the reading of this number, up to whole words;
* `interpret_of_raw`: the payload of each kind;
* on top of them, the datum that a raw field decodes to.
-/

namespace PackedRecords.FieldFormat

open Bits

variable {f : FieldFormat} {c : Cursor} {raw : UInt64}

/-! ## Digits -/

/-- The number that the bits at the cursor are digits of, in the order of the field. -/
def number (f : FieldFormat) (c : Cursor) : Nat :=
  match f.bitOrder with
  | .msbFirst =>
    ∑ j ∈ Finset.range f.bits, (bitAt c.data (c.position + j)).toNat * 2 ^ (f.bits - 1 - j)
  | .lsbFirst => ∑ j ∈ Finset.range f.bits, (bitAt c.data (c.position + j)).toNat * 2 ^ j

/-- The number, or its reading in two's complement if the field has a sign. -/
def reading (f : FieldFormat) (c : Cursor) : Int :=
  if f.signed ∧ 2 ^ (f.bits - 1) ≤ f.number c then (f.number c : Int) - 2 ^ f.bits
  else f.number c

theorem number_lt (f : FieldFormat) (c : Cursor) : f.number c < 2 ^ f.bits := by
  unfold number
  cases f.bitOrder with
  | msbFirst =>
    rw [← ofDigits_slice_eq_sum]
    simpa using ofDigits_lt (slice c.data c.position f.bits)
  | lsbFirst =>
    rw [← ofDigits_reverse_slice_eq_sum]
    simpa using ofDigits_lt (slice c.data c.position f.bits).reverse

theorem readRaw_eq_number (small : f.bits ≤ 64) (h : f.bits ≤ c.available) :
    ∃ raw, f.readRaw c = (.ok raw, c.advance f.bits h) ∧ raw.toNat = f.number c := by
  obtain ⟨word, run, value⟩ := Cursor.readWord_of_le small h
  refine ⟨_, Attempt.bind_ok (Attempt.mapError_ok run _) _, ?_⟩
  unfold number
  cases f.bitOrder with
  | msbFirst => exact value.trans (ofDigits_slice_eq_sum _ _ _)
  | lsbFirst => exact (toNat_reverseLow small value).trans (ofDigits_reverse_slice_eq_sum _ _ _)

theorem toInt_integer_of_signed (signed : f.signed = true) (positive : 0 < f.bits)
    (small : f.bits ≤ 64) (value : raw.toNat = f.number c) :
    (f.integer raw).toInt = f.reading c := by
  obtain ⟨v, width⟩ := Nat.exists_eq_succ_of_ne_zero (Nat.ne_of_gt positive)
  have below := f.number_lt c
  rw [width] at below
  rw [integer, reading, if_pos signed, toInt_signExtend raw positive small, value, width,
    bmod_of_lt below]
  simp [signed]

theorem toInt_integer_of_unsigned (unsigned : f.signed = false) (value : raw.toNat = f.number c) :
    (f.integer raw).toInt = (f.number c : Int).bmod (2 ^ 64) := by
  rw [integer, unsigned, if_neg Bool.false_ne_true, toInt_toInt64, value]

theorem reading_of_unsigned (unsigned : f.signed = false) : f.reading c = f.number c := by
  simp [reading, unsigned]

/-- Signed integers are exact; others may be off by a whole word. -/
theorem toInt_integer (positive : 0 < f.bits) (small : f.bits ≤ 64)
    (value : raw.toNat = f.number c) : (f.integer raw).toInt ≡ f.reading c [ZMOD 2 ^ 64] := by
  cases signed : f.signed with
  | true => rw [toInt_integer_of_signed signed positive small value]
  | false =>
    rw [toInt_integer_of_unsigned signed value, reading_of_unsigned signed]
    exact_mod_cast (Int.bmod_emod : (f.number c : Int).bmod (2 ^ 64) % (2 ^ 64 : Nat) = _)

/-! ## Payloads -/

/-- What a field of the number `n`, read as the integer `m`, has for its payload. -/
def IsRawPayload (n : Nat) (m : Int) : (k : Kind) → k.Payload → Prop
  | .scalar .boolean, x => x = decide (n ≠ 0)
  | .scalar .byte, x => x.toNat = n
  | .scalar .short, x => Wraps 16 m x.toInt
  | .scalar .int, x => Wraps 32 m x.toInt
  | .scalar .long, x => Wraps 64 m x.toInt
  | .scalar .enum, x => Wraps 32 m x.toInt
  | .scalar .float, x => x.bits.toNat = n
  | .scalar .double, x => x.bits.toNat = n
  | _, _ => False

theorem width_of_raw (raws : f.kind ∈ rawKinds) (checked : f.checkWidth = .ok ()) :
    0 < f.bits ∧ f.bits ≤ 64 := by
  rcases kind_of_checkWidth checked with ⟨-, width⟩ | (kind | kind) | kind | kind
  · exact width
  all_goals
    rw [kind] at raws
    exact absurd raws (by decide)

/-- A kind that is accepted has room for the number, or takes what there is room for. -/
theorem interpret_of_raw {k : Kind} (kind : f.kind = k) (raws : k ∈ rawKinds)
    (checked : f.checkWidth = .ok ()) (plain : k.isFloating → f.isScaled = false)
    (value : raw.toNat = f.number c)
    (integer : (f.integer raw).toInt ≡ f.reading c [ZMOD 2 ^ 64]) :
    ∃ x, f.interpret raw k = .ok x ∧ IsRawPayload (f.number c) (f.reading c) k x := by
  have room {limit : Nat} (narrow : f.bits ≤ limit) : f.number c < 2 ^ limit :=
    Nat.lt_of_lt_of_le (f.number_lt c) (Nat.pow_le_pow_right (by omega) narrow)
  unfold checkWidth at checked
  rw [kind] at checked
  cases k with
  | blob => exact absurd raws (by decide)
  | sequence e => simp [rawKinds] at raws
  | scalar e =>
    cases e
    case boolean =>
      refine ⟨_, rfl, ?_⟩
      rw [IsRawPayload, ← value]
      by_cases zero : raw = 0
      · simp [zero]
      · have nonzero : raw.toNat ≠ 0 := fun none => zero (UInt64.toNat_inj.mp none)
        simp [zero, nonzero]
    case byte =>
      refine ⟨_, rfl, ?_⟩
      rw [IsRawPayload, UInt64.toNat_toUInt8, value]
      exact Nat.mod_eq_of_lt (room (width_of_checkAtMost checked).2)
    case short =>
      refine ⟨_, rfl, ?_⟩
      rw [IsRawPayload, Int64.toInt_toInt16]
      exact Wraps.of_bmod 15 (by omega) integer
    case int | enum =>
      refine ⟨_, rfl, ?_⟩
      rw [IsRawPayload, Int64.toInt_toInt32]
      exact Wraps.of_bmod 31 (by omega) integer
    case long => exact ⟨_, rfl, Int64.le_toInt _, Int64.toInt_lt _, integer⟩
    case float =>
      rw [plain rfl] at checked
      refine ⟨⟨raw.toUInt32⟩, by rw [interpret, plain rfl]; rfl, ?_⟩
      rw [IsRawPayload, UInt64.toNat_toUInt32, value]
      exact Nat.mod_eq_of_lt (room (Nat.le_of_eq (width_of_checkExactly checked)))
    case double => exact ⟨⟨raw⟩, by rw [interpret, plain rfl]; rfl, value⟩
    case string | date | byteString | complex | doubleComplex | externalReference =>
      exact absurd raws (by decide)

/-! ## Fields -/

theorem readElement_eq_of_raw {k : Kind} (raws : k ∈ rawKinds) (f : FieldFormat) :
    f.readElement k = (do
      let word ← f.readRaw
      let x ← Attempt.ofExcept (f.interpret word k)
      pure (x, f.nullValue != some word)) := by
  simp only [rawKinds, List.mem_cons, List.not_mem_nil, or_false] at raws
  rcases raws with rfl | rfl | rfl | rfl | rfl | rfl | rfl | rfl <;> rfl

theorem readElement_of_interpreted {k : Kind} {x : k.Payload} {t : Cursor} (raws : k ∈ rawKinds)
    (run : f.readRaw c = (.ok raw, t)) (interpreted : f.interpret raw k = .ok x) :
    f.readElement k c = (.ok (x, f.nullValue != some raw), t) := by
  rw [readElement_eq_of_raw raws, Attempt.bind_ok run, interpreted,
    Attempt.bind_ok (Attempt.ofExcept_ok x t)]
  rfl

theorem exists_interpret {k : Kind} (raws : k ∈ rawKinds) (f : FieldFormat) (raw : UInt64) :
    ∃ x, f.interpret raw k = .ok x := by
  simp only [rawKinds, List.mem_cons, List.not_mem_nil, or_false] at raws
  rcases raws with rfl | rfl | rfl | rfl | rfl | rfl | rfl | rfl <;> exact ⟨_, rfl⟩

/-- A single raw field that is all there is read as a word: as the null of the field if it is the
word for that, or as what its kind makes of the word. -/
theorem decode_eq_of_raw (checked : f.check = .ok ()) (single : f.count = none)
    (raws : f.kind ∈ rawKinds) (enough : f.bits ≤ c.available) :
    ∃ raw x, raw.toNat = f.number c ∧ f.interpret raw f.kind = .ok x ∧
      f.decode c =
        (.ok (if f.nullValue = some raw then f.nullDatum else ⟨⟨f.kind, x⟩, true, f.unit⟩),
          c.advance f.bits enough) := by
  obtain ⟨-, small⟩ := width_of_raw raws (check_eq_ok_iff.mp checked).2.2.2.2.2.2
  obtain ⟨raw, run, value⟩ := readRaw_eq_number small enough
  obtain ⟨x, interpreted⟩ := exists_interpret raws f raw
  refine ⟨raw, x, value, interpreted, ?_⟩
  rw [decode_of_check checked (extent_of_single checked single ▸ enough),
    readElements_of_single single, bind_assoc,
    Attempt.bind_ok (readElement_of_interpreted raws run interpreted)]
  by_cases null : f.nullValue = some raw
  · simp only [null, bne_self_eq_false, if_true]
    rfl
  · simp only [null, bne_iff_ne.mpr null, if_true, if_false]
    rfl

/-- A single raw field whose bits are all there, and are not those of its null, gives what its
kind makes of their number: whether it is zero or not, the number itself, its bit pattern as a
floating-point number, or the integer that its reading wraps around to. -/
theorem decode_of_raw (checked : f.check = .ok ()) (single : f.count = none)
    (raws : f.kind ∈ rawKinds) (plain : f.kind.isFloating → f.scale = none ∧ f.offset = none)
    (enough : f.bits ≤ c.available)
    (present : ∀ null, f.nullValue = some null → null.toNat ≠ f.number c) :
    ∃ x, f.decode c = (.ok ⟨⟨f.kind, x⟩, true, f.unit⟩, c.advance f.bits enough) ∧
      IsRawPayload (f.number c) (f.reading c) f.kind x := by
  have width := (check_eq_ok_iff.mp checked).2.2.2.2.2.2
  obtain ⟨positive, small⟩ := width_of_raw raws width
  obtain ⟨raw, run, value⟩ := readRaw_eq_number small enough
  obtain ⟨x, interpreted, right⟩ := interpret_of_raw rfl raws width
    (fun floating => by simp [isScaled, plain floating]) value (toInt_integer positive small value)
  refine ⟨x, ?_, right⟩
  have valid : (f.nullValue != some raw) = true := by
    simp only [bne_iff_ne, ne_eq]
    exact fun null => present raw null value
  rw [decode_of_check checked (extent_of_single checked single ▸ enough),
    readElements_of_single single, bind_assoc,
    Attempt.bind_ok (readElement_of_interpreted raws run interpreted), valid]
  rfl

private def elevation : FieldFormat :=
  { kind := .scalar .short, bits := 11, signed := true, bitOrder := .lsbFirst, unit := some "m",
    nullValue := some 917 }

/-- Eleven bits from the middle of a byte, the sign last. -/
theorem decode_of_elevation :
    ∃ x, elevation.decode ⟨#[0x5A, 0xC7], 3, by decide⟩ =
        (.ok ⟨⟨.scalar .short, x⟩, true, some "m"⟩, ⟨#[0x5A, 0xC7], 14, by decide⟩) ∧
      x.toInt = -917 := by
  obtain ⟨x, decoded, right⟩ := decode_of_raw (f := elevation) (c := ⟨#[0x5A, 0xC7], 3, by decide⟩)
    (by decide) rfl (by decide) nofun (by decide) (by rintro _ ⟨⟩; decide)
  have value : elevation.reading ⟨#[0x5A, 0xC7], 3, by decide⟩ = -917 := by decide
  rw [value] at right
  have right : Wraps 16 (-917) x.toInt := right
  exact ⟨x, decoded, right.unique (by decide) ⟨by decide, by decide, rfl⟩⟩

end PackedRecords.FieldFormat
