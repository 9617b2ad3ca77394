import PackedRecords.Proofs.Field.Raw
import PackedRecords.Proofs.Field.Sequence
import PackedRecords.Proofs.Field.Text
import PackedRecords.Proofs.Layout.Entries

/-!
Nulls among decoded data. The kind and the unit of a datum are those of its field; whether it is
null is a matter of the bits, and then nothing of them is left in it.

Proved here:

* `settles_of_decode`: a datum is the null of its field if the field is a null, and valid if not;
* `decode_yields_valid`: sequences and byte strings are always valid;
* `decode_of_wide`, `decode_of_unread`: null words that are too large, or that the field does not
  look at, are as good as none;
* on top of them, the kind, the unit and the validity of whatever is decoded.
-/

namespace PackedRecords.FieldFormat

open Bits

variable {f : FieldFormat} {c t : Cursor} {d : Datum}

/-! ## Which fields are null -/

/-- The field at the cursor is a null: the number of its bits is the one that stands for null,
or it is text and shows nothing. -/
inductive IsNull (f : FieldFormat) (c : Cursor) : Prop
  | word (single : f.count = none) (raws : f.kind ∈ rawKinds) (null : UInt64)
    (given : f.nullValue = some null) (same : null.toNat = f.number c)
  | text (single : f.count = none) (text : f.kind.isText) (bytes : List UInt8)
    (counted : f.Counted (f.fieldBytes c) bytes) (shows : f.Shows bytes "")

/-- The datum is the null of the field if the field at the cursor is a null, and valid if not. -/
def Settles (f : FieldFormat) (c : Cursor) (d : Datum) : Prop :=
  f.IsNull c ∧ d = f.nullDatum ∨ ¬f.IsNull c ∧ d.valid = true

theorem isNull_iff_of_raw (single : f.count = none) (raws : f.kind ∈ rawKinds) {raw : UInt64}
    (value : raw.toNat = f.number c) : f.IsNull c ↔ f.nullValue = some raw := by
  constructor
  · rintro (⟨-, -, null, given, same⟩ | ⟨-, text, -⟩)
    · rw [given, UInt64.toNat_inj.mp (same.trans value.symm)]
    · simp [isText_of_raw raws] at text
  · exact fun given => .word single raws raw given value

theorem isNull_iff_of_text (single : f.count = none) (text : f.kind.isText) :
    f.IsNull c ↔ f.textOf (f.fieldBytes c) = .ok "" := by
  rw [textOf_eq_ok_iff]
  constructor
  · rintro (⟨-, raws, -⟩ | ⟨-, -, bytes, counted, shows⟩)
    · simp [isText_of_raw raws] at text
    · exact counted_iff.mp counted ▸ shows
  · exact .text single text _ (counted_textBytes f _)

/-- Fields that cannot be null: sequences, and what is neither a word nor text. -/
def NeverNull (f : FieldFormat) : Prop :=
  f.count ≠ none ∨ f.kind ∉ rawKinds ∧ ¬f.kind.isText

theorem readElement_yields_valid {k : Kind} (other : k ∉ rawKinds) (textless : ¬k.isText) :
    Attempt.Yields (fun x => x.2 = true) (f.readElement k) := by
  have packed : Attempt.Yields (fun x => x.2 = true) (f.readElement .blob) :=
    (Attempt.Yields.any _).bind fun _ _ => .pure rfl
  have refused (k : Kind) : Attempt.Yields (fun x : k.Payload × Bool => x.2 = true) (do
      let word ← f.readRaw
      let x ← (Attempt.fail (.unsupportedKind k) : Attempt FieldFault Cursor k.Payload)
      pure (x, f.nullValue != some word)) :=
    (Attempt.Yields.any _).bind fun _ _ =>
      (Attempt.Yields.fail (p := fun _ => False) _).bind fun _ never => never.elim
  cases k with
  | blob => exact packed
  | sequence e => exact refused _
  | scalar e =>
    cases e
    case byteString => exact packed
    case complex | doubleComplex | externalReference => exact refused _
    case string | date => exact absurd rfl textless
    all_goals exact absurd (by decide) other

theorem decode_yields_valid (never : f.NeverNull) :
    Attempt.Yields (fun d => d.valid = true) f.decode := by
  have elements : Attempt.Yields (fun d => d.valid = true) f.readElements := by
    cases count : f.count with
    | none =>
      obtain ⟨other, textless⟩ := never.resolve_left (not_not_intro count)
      rw [readElements_of_single count]
      exact (readElement_yields_valid other textless).bind fun (x, valid) sure =>
        .pure (by rw [if_pos sure]; rfl)
    | some n =>
      unfold readElements
      rw [count]
      cases f.kind with
      | scalar e => exact (Attempt.Yields.any _).bind fun _ _ => .pure rfl
      | blob => exact .fail _
      | sequence e => exact .fail _
  exact (Attempt.Yields.any _).bind fun _ _ => (Attempt.Yields.any _).bind fun _ _ =>
    elements.bind fun _ valid => .pure valid

theorem settles_of_never (never : f.NeverNull) (decoded : f.decode c = (.ok d, t)) :
    f.Settles c d := by
  refine .inr ⟨?_, decode_yields_valid never decoded⟩
  rintro (⟨single, raws, -⟩ | ⟨single, text, -⟩)
  · exact never.elim (absurd single) fun ⟨other, _⟩ => other raws
  · exact never.elim (absurd single) fun ⟨_, textless⟩ => textless text

theorem settles_of_raw (checked : f.check = .ok ()) (enough : f.bits ≤ c.available)
    (single : f.count = none) (raws : f.kind ∈ rawKinds)
    (decoded : f.decode c = (.ok d, t)) : f.Settles c d := by
  obtain ⟨raw, x, value, -, run⟩ := decode_eq_of_raw checked single raws enough
  rw [Settles, isNull_iff_of_raw single raws value]
  by_cases null : f.nullValue = some raw
  · rw [if_pos null] at run
    cases run.symm.trans decoded
    exact .inl ⟨null, rfl⟩
  · rw [if_neg null] at run
    cases run.symm.trans decoded
    exact .inr ⟨null, rfl⟩

theorem settles_of_text (checked : f.check = .ok ()) (enough : f.bits ≤ c.available)
    (single : f.count = none) (text : f.kind.isText)
    (decoded : f.decode c = (.ok d, t)) : f.Settles c d := by
  rw [decode_eq_of_text checked single text enough] at decoded
  rw [Settles, isNull_iff_of_text single text]
  cases shown : f.textOf (f.fieldBytes c) with
  | error e =>
    rw [shown] at decoded
    cases decoded
  | ok s =>
    rw [shown] at decoded
    cases decoded
    by_cases empty : s = ""
    · exact .inl ⟨by rw [empty], by rw [textDatum, if_pos empty]⟩
    · exact .inr ⟨by simpa using empty, by rw [textDatum, if_neg empty]⟩

theorem settles_of_decode (decoded : f.decode c = (.ok d, t)) : f.Settles c d := by
  obtain ⟨checked, enough⟩ := enough_of_decode decoded
  by_cases never : f.NeverNull
  · exact settles_of_never never decoded
  · obtain ⟨single, possible⟩ := not_or.mp never
    have single : f.count = none := not_not.mp single
    rw [extent_of_single checked single] at enough
    by_cases raws : f.kind ∈ rawKinds
    · exact settles_of_raw checked enough single raws decoded
    · have text : f.kind.isText := not_not.mp fun textless => possible ⟨raws, textless⟩
      exact settles_of_text checked enough single text decoded

/-! ## Null words that do not matter -/

theorem readRaw_lt {raw : UInt64} (run : f.readRaw c = (.ok raw, t)) : raw.toNat < 2 ^ f.bits := by
  have word : f.bits ≤ 64 ∧ f.bits ≤ c.available := by
    by_contra missing
    obtain ⟨e, failed⟩ : ∃ e, Cursor.readWord f.bits c = (.error e, c) := by
      by_cases small : f.bits ≤ 64
      · exact ⟨_, Cursor.readWord_of_not_le small (missing ⟨small, ·⟩)⟩
      · exact ⟨_, Cursor.readWord_of_lt (Nat.lt_of_not_le small)⟩
    cases (Attempt.bind_error (Attempt.mapError_error failed _) _).symm.trans run
  obtain ⟨small, enough⟩ := word
  obtain ⟨raw, run', value⟩ := readRaw_eq_number small enough
  cases run'.symm.trans run
  exact value ▸ f.number_lt c

theorem readElement_of_not_raw {k : Kind} (other : k ∉ rawKinds) (null : Option UInt64) :
    { f with nullValue := null }.readElement k = f.readElement k := by
  cases k with
  | blob => rfl
  | sequence e => rfl
  | scalar e =>
    cases e
    case boolean | byte | short | int | long | enum | float | double =>
      exact absurd (by decide) other
    all_goals rfl

/-- No word of the field is as large as that. -/
theorem readElement_of_wide {null : UInt64} (wide : 2 ^ f.bits ≤ null.toNat) (k : Kind) :
    { f with nullValue := some null }.readElement k =
      { f with nullValue := none }.readElement k := by
  by_cases raws : k ∈ rawKinds
  · rw [readElement_eq_of_raw raws, readElement_eq_of_raw raws]
    refine Attempt.bind_congr fun s raw u run => ?_
    have below : raw.toNat < 2 ^ f.bits := readRaw_lt run
    have unequal : null ≠ raw := fun same => absurd wide (same ▸ Nat.not_le.mpr below)
    have valid : (some null != some raw) = true := bne_iff_ne.mpr (mt Option.some.inj unequal)
    simp only [valid]
    rfl
  · exact (readElement_of_not_raw raws _).trans (readElement_of_not_raw raws none).symm

/-- A field looks at its null word in its elements only. -/
theorem decode_of_same_element {null null' : Option UInt64}
    (same : { f with nullValue := null }.readElement f.kind =
      { f with nullValue := null' }.readElement f.kind) :
    { f with nullValue := null }.decode = { f with nullValue := null' }.decode := by
  have elements :
      { f with nullValue := null }.readElements = { f with nullValue := null' }.readElements := by
    -- The updates of the format reduce only once it is taken apart.
    obtain ⟨kind, _, _, _, count, _, _, _, _, _, _, _⟩ := f
    cases count with
    | none =>
      simp only [readElements]
      rw [same]
    | some n =>
      simp only [readElements]
      cases kind with
      | scalar e => simp only [same]
      | blob => rfl
      | sequence e => rfl
  unfold decode
  rw [elements]
  rfl

theorem decode_of_wide {null : UInt64} (wide : 2 ^ f.bits ≤ null.toNat) :
    { f with nullValue := some null }.decode = { f with nullValue := none }.decode :=
  decode_of_same_element (readElement_of_wide wide f.kind)

theorem decode_of_unread (unread : f.kind ∉ rawKinds ∨ f.count ≠ none) (null : Option UInt64) :
    { f with nullValue := null }.decode = f.decode := by
  rcases unread with other | several
  · have same : { f with nullValue := null }.readElement f.kind =
        { f with nullValue := f.nullValue }.readElement f.kind := readElement_of_not_raw other null
    exact decode_of_same_element same
  · obtain ⟨n, count⟩ := Option.ne_none_iff_exists'.mp several
    cases checked : f.check with
    | ok => exact decode_of_null checked count null
    | error e =>
      funext c
      rw [decode_of_refused checked]
      exact decode_of_refused (f := { f with nullValue := null }) checked

/-! ## Whatever is decoded -/

theorem kind_of_decode (decoded : f.decode c = (.ok d, t)) :
    (f.count = none → d.kind = f.kind) ∧ (f.count ≠ none → f.kind.sequence? = some d.kind) := by
  have kind := (f.decode_yields decoded).1
  unfold resultKind at kind
  cases count : f.count with
  | none =>
    rw [count] at kind
    exact ⟨fun _ => kind, fun several => absurd rfl several⟩
  | some n =>
    obtain ⟨e, scalar⟩ := kind_of_sequence (enough_of_decode decoded).1 count
    rw [count, scalar] at kind
    rw [scalar, kind]
    exact ⟨nofun, fun _ => rfl⟩

/-- Whatever a field decodes to has the kind of the field, or that of sequences of it if elements
are counted, and its unit. It is invalid exactly if the field at the cursor is a null, and is then
the null of the field. A null word that has more bits than the field is as good as none; and no
null word at all changes what sequences, texts and byte strings decode to. -/
theorem validity_of_decode (f : FieldFormat) :
    (∀ (c t : Cursor) (d : Datum), f.decode c = (.ok d, t) →
      (f.count = none → d.kind = f.kind) ∧ (f.count ≠ none → f.kind.sequence? = some d.kind) ∧
      d.unit = f.unit ∧ (d.valid = false ↔ f.IsNull c) ∧ (d.valid = false → d = f.nullDatum)) ∧
    (∀ null : UInt64, 2 ^ f.bits ≤ null.toNat →
      { f with nullValue := some null }.decode = { f with nullValue := none }.decode) ∧
    (f.kind ∉ rawKinds ∨ f.count ≠ none →
      ∀ null, { f with nullValue := null }.decode = f.decode) := by
  refine ⟨fun c t d decoded => ?_, fun null => decode_of_wide, decode_of_unread⟩
  obtain ⟨single, several⟩ := kind_of_decode decoded
  refine ⟨single, several, (f.decode_yields decoded).2, ?_⟩
  rcases settles_of_decode decoded with ⟨null, rfl⟩ | ⟨present, valid⟩
  · exact ⟨⟨fun _ => null, fun _ => rfl⟩, fun _ => rfl⟩
  · simp [valid, present]

private def echo : FieldFormat :=
  { kind := .scalar .short, bits := 8, signed := true, bitOrder := .lsbFirst,
    nullValue := some 0x80, unit := some "m" }

private def pings : Cursor := ⟨#[0x01, 0x80], 0, by decide⟩

/-- The null word is the number of the bits, although they are read as an integer below zero. One
of nine bits is never met, and that of a sequence is not looked for. -/
theorem nulls_of_echo :
    (echo.reading pings = -128 ∧ echo.IsNull pings ∧ ∃ t,
      echo.decode pings = (.ok ⟨⟨.scalar .short, 0⟩, false, some "m"⟩, t)) ∧
    { echo with nullValue := some 0x180 }.decode = { echo with nullValue := none }.decode ∧
    { echo with count := some 2, nullValue := none }.decode =
      { echo with count := some 2 }.decode := by
  obtain ⟨settled, wide, -⟩ := validity_of_decode echo
  obtain ⟨-, -, unread⟩ := validity_of_decode { echo with count := some 2 }
  have decoded : echo.decode pings =
      (.ok ⟨⟨.scalar .short, 0⟩, false, some "m"⟩, pings.advance 8 (by decide)) := by rfl
  obtain ⟨-, -, -, invalid, -⟩ := settled _ _ _ decoded
  exact ⟨⟨by decide, invalid.mp rfl, _, decoded⟩, wide 0x180 (by decide), unread (by decide) none⟩

end PackedRecords.FieldFormat
