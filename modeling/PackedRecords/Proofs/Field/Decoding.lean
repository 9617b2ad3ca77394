import PackedRecords.Field.Decode
import PackedRecords.Proofs.Bits.Reads

/-!
Decoding a field whose format has been checked. The check leaves nothing that a read
or the choice of a payload could trip over, so that only text can fail.

Proved here, for every format and every cursor:

* `check_eq_ok_iff`: what a checked format satisfies;
* `readElement_of_le`: one element takes its bits, and is refused only for its text;
* `times_readElement_of_le`: so do as many elements as are asked for, up to the first that
  is refused, by induction on the count;
* `decode_of_enough`: a field that is all there is decoded whole, or refused for its text;
* on top of them, every outcome of decoding a field, and where it leaves the cursor.
-/

namespace PackedRecords

/-- The faults that only the bytes of a text can have. -/
def FieldFault.IsText (e : FieldFault) : Prop := e = .notText ∨ ∃ byte, e = .notAscii byte

namespace FieldFormat

open Bits

variable {f : FieldFormat} {c : Cursor}

/-! ## What the check leaves -/

private theorem refuse_eq_ok_iff {p : Prop} [Decidable p] {e : FieldFault}
    {x : Except FieldFault Unit} :
    (if p then .error e else x) = .ok () ↔ ¬p ∧ x = .ok () := by
  by_cases h : p <;> simp [h]

theorem extent?_eq_none_iff : f.extent? = none ↔ ¬f.bits * f.count.getD 1 < sizeLimit := by
  simp [extent?]

/-- The conditions are looked at in this order, and the first to fail is named. -/
theorem check_eq_ok_iff : f.check = .ok () ↔
    f.count ≠ some 0 ∧ f.bits * f.count.getD 1 < sizeLimit ∧
      (f.count ≠ none → f.kind.sequence? ≠ none) ∧
      (f.scale.all Binary64.isFinite ∧ f.offset.all Binary64.isFinite) ∧
      (f.isScaled → f.kind.isFloating) ∧
      (f.encoding ≠ none → f.kind.isText) ∧ f.checkWidth = .ok () := by
  simp only [check, refuse_eq_ok_iff, extent?_eq_none_iff, not_not, Bool.not_eq_true',
    Bool.not_eq_false, Bool.and_eq_true, not_and, ne_eq]

theorem extent_of_check (checked : f.check = .ok ()) : f.extent = f.bits * f.count.getD 1 := by
  have fits := (check_eq_ok_iff.mp checked).2.1
  simp [extent, extent?, fits]

theorem extent_of_single (checked : f.check = .ok ()) (count : f.count = none) :
    f.extent = f.bits := by
  simp [extent_of_check checked, count]

theorem extent_of_sequence {n : Nat} (checked : f.check = .ok ()) (count : f.count = some n) :
    f.extent = n * f.bits := by
  simp [extent_of_check checked, count, Nat.mul_comm]

theorem kind_of_sequence {n : Nat} (checked : f.check = .ok ()) (count : f.count = some n) :
    ∃ e, f.kind = .scalar e := by
  have sequence := (check_eq_ok_iff.mp checked).2.2.1 (by simp [count])
  cases kind : f.kind with
  | scalar e => exact ⟨e, rfl⟩
  | blob => simp [kind, Kind.sequence?] at sequence
  | sequence e => simp [kind, Kind.sequence?] at sequence

theorem width_of_checkAtMost {bits limit : Nat} (h : checkAtMost bits limit = .ok ()) :
    0 < bits ∧ bits ≤ limit := by
  unfold checkAtMost at h
  split at h
  · cases h
  · omega

theorem width_of_checkExactly {bits expected : Nat} (h : checkExactly bits expected = .ok ()) :
    bits = expected := by
  unfold checkExactly at h
  split at h
  · assumption
  · cases h

theorem width_of_checkWholeBytes {bits : Nat} (h : checkWholeBytes bits = .ok ()) :
    0 < bits ∧ 8 ∣ bits := by
  unfold checkWholeBytes at h
  split at h
  · cases h
  · split at h
    · cases h
    · omega

/-! ## Elements -/

theorem readRaw_of_le (small : f.bits ≤ 64) (h : f.bits ≤ c.available) :
    ∃ raw, f.readRaw c = (.ok raw, c.advance f.bits h) := by
  obtain ⟨word, run, -⟩ := Cursor.readWord_of_le small h
  exact ⟨_, Attempt.bind_ok (Attempt.mapError_ok run _) _⟩

theorem readBytes_of_le (h : f.bits ≤ c.available) :
    ∃ bytes, f.readBytes c = (.ok bytes, c.advance f.bits h) := by
  obtain ⟨bytes, run, -⟩ := Cursor.readBytes_of_le h
  exact ⟨bytes, Attempt.mapError_ok run _⟩

theorem isText_of_textOf {bytes : List UInt8} {e : FieldFault} (h : f.textOf bytes = .error e) :
    e.IsText := by
  unfold textOf at h
  split at h
  · cases h
  · rename_i refused
    cases h
    unfold spell at refused
    split at refused
    · cases refused
      exact .inr ⟨_, rfl⟩
    · split at refused
      · cases refused
      · cases refused
        exact .inl rfl

/-- What element `i` of a text field at the cursor spells, or why it is refused. -/
def spelling (f : FieldFormat) (c : Cursor) (i : Nat) : Except FieldFault String :=
  f.textOf (octets c.data (c.position + i * f.bits) (f.bits / 8))

/-- Element `i` of the field at the cursor is text that is refused. -/
def Garbled (f : FieldFormat) (c : Cursor) (i : Nat) (e : FieldFault) : Prop :=
  f.kind.isText ∧ f.spelling c i = .error e

/-- None of the first `n` elements is refused. -/
def Legible (f : FieldFormat) (c : Cursor) (n : Nat) : Prop := ∀ i < n, ∀ e, ¬f.Garbled c i e

theorem Garbled.isText {i : Nat} {e : FieldFault} (garbled : f.Garbled c i e) : e.IsText :=
  isText_of_textOf garbled.2

theorem garbled_advance (h : f.bits ≤ c.available) (i : Nat) (e : FieldFault) :
    f.Garbled (c.advance f.bits h) i e ↔ f.Garbled c (i + 1) e := by
  have place : c.position + f.bits + i * f.bits = c.position + (i + 1) * f.bits := by
    rw [Nat.succ_mul]
    omega
  rw [Garbled, Garbled, spelling, spelling, Cursor.data_advance, Cursor.position_advance, place]

theorem legible_zero (f : FieldFormat) (c : Cursor) : f.Legible c 0 := fun _ within =>
  absurd within (Nat.not_lt_zero _)

/-- The first element is looked at where it is, the others behind it. -/
theorem legible_succ (h : f.bits ≤ c.available) (n : Nat) :
    f.Legible c (n + 1) ↔ (∀ e, ¬f.Garbled c 0 e) ∧ f.Legible (c.advance f.bits h) n := by
  constructor
  · intro all
    exact ⟨all 0 (Nat.zero_lt_succ n), fun i within e garbled =>
      all (i + 1) (Nat.succ_lt_succ within) e ((garbled_advance h i e).mp garbled)⟩
  · rintro ⟨first, others⟩ i within e garbled
    cases i with
    | zero => exact first e garbled
    | succ i =>
      exact others i (Nat.lt_of_succ_lt_succ within) e ((garbled_advance h i e).mpr garbled)

theorem readText_of_le (whole : 8 ∣ f.bits) (h : f.bits ≤ c.available) :
    f.readText c = ((f.spelling c 0).map fun s => (s, !s.isEmpty), c.advance f.bits h) := by
  have run : f.readBytes c = _ := Attempt.mapError_ok (Cursor.readBytes_of_dvd whole h) _
  rw [readText, Attempt.bind_ok run, spelling, Nat.zero_mul, Nat.add_zero]
  cases f.textOf (octets c.data c.position (f.bits / 8)) <;> rfl

/-- The kinds whose elements are read as one raw word. -/
def rawKinds : List Kind :=
  [.scalar .boolean, .scalar .byte, .scalar .short, .scalar .int, .scalar .long, .scalar .enum,
    .scalar .float, .scalar .double]

theorem isText_of_raw {k : Kind} (raw : k ∈ rawKinds) : k.isText = false :=
  (by decide : ∀ k ∈ rawKinds, k.isText = false) k raw

theorem readElement_of_raw {k : Kind} (raw : k ∈ rawKinds) (f : FieldFormat) :
    ∃ x : UInt64 → k.Payload, f.readElement k = (do
      let word ← f.readRaw
      pure (x word, f.nullValue != some word)) := by
  simp only [rawKinds, List.mem_cons, List.not_mem_nil, or_false] at raw
  rcases raw with rfl | rfl | rfl | rfl | rfl | rfl | rfl | rfl <;> exact ⟨_, rfl⟩

/-- A kind that has a width is raw and fits a word, or is text, or is bytes as they are. -/
theorem kind_of_checkWidth (checked : f.checkWidth = .ok ()) :
    (f.kind ∈ rawKinds ∧ 0 < f.bits ∧ f.bits ≤ 64) ∨
      (f.kind = .scalar .string ∨ f.kind = .scalar .date) ∨
      (f.kind = .scalar .byteString ∨ f.kind = .blob) := by
  unfold checkWidth at checked
  cases kind : f.kind with
  | blob => exact .inr (.inr (.inr rfl))
  | sequence e => simp [kind] at checked
  | scalar e =>
    rw [kind] at checked
    cases e
    case boolean | long | enum => exact .inl ⟨by decide, width_of_checkAtMost checked⟩
    case byte | short | int =>
      have width := width_of_checkAtMost checked
      exact .inl ⟨by decide, by omega⟩
    case float | double =>
      simp only at checked
      split at checked
      · exact .inl ⟨by decide, width_of_checkAtMost checked⟩
      · have width := width_of_checkExactly checked
        exact .inl ⟨by decide, by omega⟩
    case string => exact .inr (.inl (.inl rfl))
    case date => exact .inr (.inl (.inr rfl))
    case byteString => exact .inr (.inr (.inl rfl))
    case complex | doubleComplex | externalReference => cases checked

theorem isText_iff {k : Kind} : k.isText ↔ k = .scalar .string ∨ k = .scalar .date := by
  unfold Kind.isText
  split <;> simp_all

theorem whole_of_text (checked : f.checkWidth = .ok ()) (text : f.kind.isText) : 8 ∣ f.bits := by
  unfold checkWidth at checked
  rcases isText_iff.mp text with kind | kind
  all_goals
    rw [kind] at checked
    exact (width_of_checkWholeBytes checked).2

/-- An element takes its bits, also when it is refused, and only text can be. -/
theorem readElement_of_le (checked : f.check = .ok ()) (h : f.bits ≤ c.available) :
    ∃ result, f.readElement f.kind c = (result, c.advance f.bits h) ∧
      ∀ e, result = .error e ↔ f.Garbled c 0 e := by
  have width := (check_eq_ok_iff.mp checked).2.2.2.2.2.2
  have plain {x : f.kind.Payload × Bool} (textless : f.kind.isText = false) (e : FieldFault) :
      Except.ok x = .error e ↔ f.Garbled c 0 e := by simp [Garbled, textless]
  rcases kind_of_checkWidth width with ⟨raw, -, small⟩ | kind | kind
  · obtain ⟨word, run⟩ := readRaw_of_le small h
    obtain ⟨x, element⟩ := readElement_of_raw raw f
    refine ⟨.ok (x word, f.nullValue != some word), ?_, plain (isText_of_raw raw)⟩
    rw [element, Attempt.bind_ok run]
    rfl
  · have text : f.kind.isText := isText_iff.mpr kind
    have run := readText_of_le (whole_of_text width text) h
    have refused (e : FieldFault) :
        ((f.spelling c 0).map fun s => (s, !s.isEmpty)) = .error e ↔ f.Garbled c 0 e := by
      cases spelled : f.spelling c 0 <;> simp [Garbled, text, spelled, Except.map]
    rcases kind with kind | kind <;> rw [kind] <;> exact ⟨_, run, refused⟩
  · obtain ⟨bytes, run⟩ := readBytes_of_le h
    have textless : f.kind.isText = false := by rcases kind with kind | kind <;> rw [kind] <;> rfl
    rcases kind with kind | kind
    all_goals
      rw [kind] at plain ⊢
      exact ⟨.ok (bytes, true), Attempt.bind_ok run _, plain (kind ▸ textless)⟩

/-! ## Whole fields -/

/-- The null of a field: what a null of its kind holds, in the unit of the field. -/
def nullDatum (f : FieldFormat) : Datum := { Datum.null f.kind with unit := f.unit }

/-- Elements take their bits one after the other, up to the first that is refused. -/
theorem times_readElement_of_le (checked : f.check = .ok ()) {n : Nat}
    (h : n * f.bits ≤ c.available) :
    (∃ xs, (f.readElement f.kind).times n c = (.ok xs, c.advance (n * f.bits) h) ∧
      f.Legible c n) ∨
    ∃ i e, ∃ behind : (i + 1) * f.bits ≤ c.available, i < n ∧ f.Legible c i ∧ f.Garbled c i e ∧
      (f.readElement f.kind).times n c = (.error e, c.advance ((i + 1) * f.bits) behind) := by
  -- Behind the first element the others count from zero again.
  induction n generalizing c with
  | zero =>
    refine .inl ⟨[], ?_, legible_zero f c⟩
    simp only [Nat.zero_mul]
    rfl
  | succ n ih =>
    have first : f.bits ≤ c.available := by
      rw [Nat.succ_mul] at h
      omega
    have left : n * f.bits ≤ (c.advance f.bits first).available := by
      rw [Cursor.available_advance]
      rw [Nat.succ_mul] at h
      omega
    obtain ⟨result, run, refused⟩ := readElement_of_le checked first
    rw [Attempt.times]
    cases result with
    | error e =>
      refine .inr ⟨0, e, by simpa using first, by omega, legible_zero f c,
        (refused e).mp rfl, ?_⟩
      rw [Attempt.bind_error run]
      simp only [Nat.zero_add, Nat.one_mul]
    | ok x =>
      have legible (e : FieldFault) : ¬f.Garbled c 0 e := by simp [← refused e]
      rw [Attempt.bind_ok run]
      rcases ih left with ⟨xs, rest, others⟩ | ⟨i, e, behind, below, others, garbled, rest⟩
      · refine .inl ⟨x :: xs, ?_, (legible_succ first n).mpr ⟨legible, others⟩⟩
        rw [Attempt.bind_ok rest, Cursor.advance_advance]
        simp only [Nat.succ_mul, Nat.add_comm]
        rfl
      · rw [Cursor.available_advance] at behind
        refine .inr ⟨i + 1, e, by rw [Nat.succ_mul]; omega, by omega,
          (legible_succ first i).mpr ⟨legible, others⟩, (garbled_advance first i e).mp garbled, ?_⟩
        rw [Attempt.bind_error rest, Cursor.advance_advance]
        simp only [Nat.succ_mul, Nat.add_comm, Nat.add_left_comm]

theorem readElements_of_single (count : f.count = none) :
    f.readElements = (do
      let (x, valid) ← f.readElement f.kind
      pure (if valid then .ofValue ⟨f.kind, x⟩ else .null f.kind)) := by
  simp only [readElements, count]

theorem readElements_of_sequence {n : Nat} {e : Element} (count : f.count = some n)
    (kind : f.kind = .scalar e) :
    f.readElements = (do
      let xs ← (f.readElement (.scalar e)).times n
      pure (.ofValue ⟨.sequence e, xs.map Prod.fst⟩)) := by
  simp only [readElements, count, kind]

theorem decode_of_check (checked : f.check = .ok ()) (h : f.extent ≤ c.available) :
    f.decode c = (do
      let d ← f.readElements
      pure { d with unit := f.unit }) c := by
  rw [decode, checked, Attempt.bind_ok (Attempt.ofExcept_ok () c),
    Attempt.bind_ok (Attempt.mapError_ok (Cursor.require_of_le h) _)]

/-- A field that is all there takes its bits, or stops behind the first text refused. -/
theorem decode_of_enough (checked : f.check = .ok ()) (h : f.extent ≤ c.available) :
    (∃ d, f.decode c = (.ok d, c.advance f.extent h) ∧ f.Legible c (f.count.getD 1)) ∨
    ∃ i e, ∃ behind : (i + 1) * f.bits ≤ c.available,
      i < f.count.getD 1 ∧ f.Legible c i ∧ f.Garbled c i e ∧
        f.decode c = (.error e, c.advance ((i + 1) * f.bits) behind) := by
  rw [decode_of_check checked h]
  cases count : f.count with
  | none =>
    have width := extent_of_single checked count
    obtain ⟨result, run, refused⟩ := readElement_of_le checked (width ▸ h)
    rw [readElements_of_single count]
    cases result with
    | ok x =>
      have legible (e : FieldFault) : ¬f.Garbled c 0 e := by simp [← refused e]
      refine .inl ⟨{ (if x.2 then .ofValue ⟨f.kind, x.1⟩ else .null f.kind : Datum) with
        unit := f.unit }, ?_, ?_⟩
      · rw [Attempt.bind_ok (Attempt.bind_ok run _)]
        simp only [width]
        rfl
      · exact (legible_succ (width ▸ h) 0).mpr ⟨legible, legible_zero f _⟩
    | error e =>
      refine .inr ⟨0, e, by simpa using width ▸ h, Nat.zero_lt_one, legible_zero f c,
        (refused e).mp rfl, ?_⟩
      rw [Attempt.bind_error (Attempt.bind_error run _)]
      simp only [Nat.zero_add, Nat.one_mul]
  | some n =>
    obtain ⟨element, kind⟩ := kind_of_sequence checked count
    have width := extent_of_sequence checked count
    have elements := times_readElement_of_le checked (width ▸ h)
    rw [kind] at elements
    rw [readElements_of_sequence count kind]
    rcases elements with ⟨xs, run, legible⟩ | ⟨i, e, behind, below, legible, garbled, run⟩
    · refine .inl ⟨⟨⟨.sequence element, xs.map Prod.fst⟩, true, f.unit⟩, ?_, legible⟩
      rw [Attempt.bind_ok (Attempt.bind_ok run _)]
      simp only [width]
      rfl
    · refine .inr ⟨i, e, behind, below, legible, garbled, ?_⟩
      rw [Attempt.bind_error (Attempt.bind_error run _)]

theorem decode_of_le (checked : f.check = .ok ()) (h : f.extent ≤ c.available) :
    (∃ d, f.decode c = (.ok d, c.advance f.extent h)) ∨
      ∃ e t, f.decode c = (.error e, t) ∧ e.IsText := by
  rcases decode_of_enough checked h with ⟨d, run, -⟩ | ⟨i, e, behind, -, -, garbled, run⟩
  · exact .inl ⟨d, run⟩
  · exact .inr ⟨e, _, run, garbled.isText⟩

/-! ## Every outcome -/

/-- The bits that the elements of a field take together. -/
def size (f : FieldFormat) : Nat := f.bits * f.count.getD 1

theorem decode_of_refused {e : FieldFault} (refused : f.check = .error e) :
    f.decode c = (.error e, c) := by
  rw [decode, refused, Attempt.bind_error (Attempt.ofExcept_error e c)]

theorem decode_of_short (checked : f.check = .ok ()) (short : ¬f.extent ≤ c.available) :
    f.decode c = (.error (.read (.beyondEnd f.extent c.available)), c) := by
  rw [decode, checked, Attempt.bind_ok (Attempt.ofExcept_ok () c),
    Attempt.bind_error (Attempt.mapError_error (Cursor.require_of_not_le short) _)]

/-- What is decoded has a format that makes sense, and is all there. -/
theorem enough_of_decode {d : Datum} {t : Cursor} (decoded : f.decode c = (.ok d, t)) :
    f.check = .ok () ∧ f.extent ≤ c.available := by
  cases checked : f.check with
  | error e => cases (decode_of_refused checked).symm.trans decoded
  | ok =>
    refine ⟨rfl, ?_⟩
    by_contra short
    cases (decode_of_short checked short).symm.trans decoded

/-- A format that makes no sense is refused for that, and the size of any other is a word. A
field that is not all there is refused for its size. Neither moves the cursor. A field that is
all there is decoded and passed, unless one of its elements is text that cannot be spelled; the
first of these is refused, with the cursor behind it. -/
theorem decode_outcome (f : FieldFormat) (c : Cursor) :
    (∀ e, f.check = .error e → f.decode c = (.error e, c)) ∧
    (f.check = .ok () →
      f.size < sizeLimit ∧
      (c.available < f.size →
        f.decode c = (.error (.read (.beyondEnd f.size c.available)), c)) ∧
      ∀ enough : f.size ≤ c.available,
        (∃ d, f.decode c = (.ok d, c.advance f.size enough) ∧ f.Legible c (f.count.getD 1)) ∨
        ∃ i e, ∃ behind : (i + 1) * f.bits ≤ c.available,
          i < f.count.getD 1 ∧ f.Legible c i ∧ f.Garbled c i e ∧ e.IsText ∧
            f.decode c = (.error e, c.advance ((i + 1) * f.bits) behind)) := by
  refine ⟨fun e => decode_of_refused, fun checked => ?_⟩
  have width : f.extent = f.size := extent_of_check checked
  refine ⟨(check_eq_ok_iff.mp checked).2.1, fun short => ?_, fun enough => ?_⟩
  · rw [decode_of_short checked (by omega), width]
  · rcases decode_of_enough checked (width ▸ enough) with
      ⟨d, run, legible⟩ | ⟨i, e, behind, below, legible, garbled, run⟩
    · simp only [width] at run
      exact .inl ⟨d, run, legible⟩
    · exact .inr ⟨i, e, behind, below, legible, garbled, garbled.isText, run⟩

private def tags : FieldFormat :=
  { kind := .scalar .string, bits := 16, count := some 3, encoding := some .ascii }

private def letters : Cursor := ⟨#[0x05, 0x36, 0x6C, 0x3A, 0x44, 0xE4, 0xF0], 4, by decide⟩

/-- Three tags of two letters that start within a byte, the second of them not in ASCII. -/
theorem decode_of_tags : ∃ behind : 32 ≤ letters.available,
    tags.decode letters = (.error (.notAscii 0xC3), letters.advance 32 behind) := by
  have first : tags.spelling letters 0 = .ok "Sf" := by rfl
  have second : tags.spelling letters 1 = .error (.notAscii 0xC3) := by rfl
  have enough : tags.size ≤ letters.available := by decide
  rcases ((decode_outcome tags letters).2 (by rfl)).2.2 enough with
    ⟨d, -, legible⟩ | ⟨i, e, behind, -, legible, ⟨-, refused⟩, -, run⟩
  · exact absurd ⟨rfl, second⟩ (legible 1 (by decide) _)
  · obtain _ | _ | i := i
    · cases first.symm.trans refused
    · cases second.symm.trans refused
      exact ⟨behind, run⟩
    · exact absurd ⟨rfl, second⟩ (legible 1 (by omega) _)

end FieldFormat

end PackedRecords
