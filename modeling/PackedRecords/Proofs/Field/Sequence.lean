import PackedRecords.Proofs.Field.Decoding
import PackedRecords.Proofs.Succession

/-!
Sequence fields element by element. A sequence reads its elements without looking at whether
they are valid; a field of one element makes a null of those that are not. Both hold the same
payloads, since the only invalid element left without a null word is empty text, which is what
a null of text holds.

Proved here, for every format that is accepted:

* `check_single`: the format of one element is accepted too;
* `map_value_decode_single`: what it decodes to holds the payload of the element, at every cursor;
* `decode_of_sequence`, `decode_of_null`: a sequence is a repetition of payloads, and knows no
  null word;
* `pack_map_mk`: to pack values by their kind leaves none of them out;
* on top of them, a sequence against its elements decoded in turn.
-/

namespace PackedRecords.FieldFormat

variable {f : FieldFormat} {c : Cursor}

/-! ## Payloads -/

/-- The format of one element of a field, whatever its bits are. -/
def single (f : FieldFormat) : FieldFormat := { f with count := none, nullValue := none }

/-- Reads the payload of one element, valid or not. -/
def readPayload (f : FieldFormat) (k : Kind) : Attempt FieldFault Cursor k.Payload :=
  Prod.fst <$> f.readElement k

/-- Whether an element is null is no matter of its payload. -/
theorem readPayload_of_null (f : FieldFormat) (null : Option UInt64) (count : Option Nat)
    (k : Kind) : { f with nullValue := null, count := count }.readPayload k = f.readPayload k := by
  cases k with
  | blob => rfl
  | sequence e =>
    simp only [readPayload, readElement, map_bind, map_pure]
    rfl
  | scalar e =>
    cases e <;> simp only [readPayload, readElement, map_bind, map_pure] <;> rfl

/-- An element that is not valid holds what a null of its kind would. -/
def NullAtMost (k : Kind) (x : k.Payload × Bool) : Prop := x.2 = true ∨ x.1 = k.filler

/-- Without a null word, only empty text is not valid. -/
theorem readElement_ends (absent : f.nullValue = none) (k : Kind) :
    Attempt.Ends (NullAtMost k) (fun _ => True) (f.readElement k) := by
  have text : Attempt.Ends (NullAtMost (.scalar .string)) (fun _ => True) f.readText := by
    apply (Attempt.Ends.unknown _).bind
    intro bytes _
    apply (Attempt.Ends.unknown _).bind
    intro s _
    apply Attempt.Ends.pure
    by_cases empty : s = ""
    · exact .inr empty
    · exact .inl (by simp [empty])
  have packed : Attempt.Ends (NullAtMost .blob) (fun _ => True)
      (do pure (← f.readBytes, true)) :=
    (Attempt.Ends.unknown _).bind fun _ _ => Attempt.Ends.pure (.inl rfl)
  have raw (k : Kind) : Attempt.Ends (NullAtMost k) (fun _ => True) (do
      let word ← f.readRaw
      let x ← Attempt.ofExcept (f.interpret word k)
      pure (x, f.nullValue != some word)) := by
    apply (Attempt.Ends.unknown _).bind
    intro word _
    apply (Attempt.Ends.unknown _).bind
    intro x _
    apply Attempt.Ends.pure
    exact .inl (by simp [absent])
  cases k with
  | blob => exact packed
  | sequence e => exact raw _
  | scalar e =>
    cases e
    case byteString => exact packed
    case string | date => exact text
    all_goals exact raw _

theorem filler_of_invalid {k : Kind} {x : k.Payload} {valid : Bool} {t : Cursor}
    (absent : f.nullValue = none) (run : f.readElement k c = (.ok (x, valid), t)) :
    valid = true ∨ x = k.filler := by
  have ends := readElement_ends absent k c
  rw [run] at ends
  exact ends

/-! ## One element -/

theorem check_single (checked : f.check = .ok ()) : f.single.check = .ok () := by
  obtain ⟨nonzero, fits, sequence, finite, scaled, text, width⟩ := check_eq_ok_iff.mp checked
  refine check_eq_ok_iff.mpr ⟨nofun, ?_, fun counted => absurd rfl counted, finite, scaled, text,
    width⟩
  have several : 1 ≤ f.count.getD 1 := by
    cases count : f.count with
    | none => exact Nat.le_refl 1
    | some n =>
      rw [count] at nonzero
      exact Nat.pos_of_ne_zero fun zero => nonzero (congrArg some zero)
  calc f.bits * 1
      ≤ f.bits * f.count.getD 1 := Nat.mul_le_mul_left _ several
    _ < sizeLimit := fits

theorem readElement_of_short (checked : f.check = .ok ()) (short : ¬f.bits ≤ c.available) :
    f.readElement f.kind c = (.error (.read (.beyondEnd f.bits c.available)), c) := by
  have bytes : f.readBytes c = _ := Attempt.mapError_error (Cursor.readBytes_of_not_le short) _
  have width := (check_eq_ok_iff.mp checked).2.2.2.2.2.2
  rcases kind_of_checkWidth width with ⟨raw, -, small⟩ | (kind | kind) | kind | kind
  · obtain ⟨x, element⟩ := readElement_of_raw raw f
    have word : f.readRaw c = _ :=
      Attempt.bind_error (Attempt.mapError_error (Cursor.readWord_of_not_le small short) _) _
    rw [element, Attempt.bind_error word]
  all_goals
    rw [kind]
    exact Attempt.bind_error bytes _

/-- An element decoded as a field of its own holds its payload, valid or not. -/
theorem map_value_decode_single (checked : f.check = .ok ()) :
    Datum.value <$> f.single.decode = Value.mk f.kind <$> f.readPayload f.kind := by
  have checked' := check_single checked
  have width : f.single.extent = f.single.bits := extent_of_single checked' rfl
  have payload : f.single.readPayload f.kind = f.readPayload f.kind := readPayload_of_null f _ _ _
  rw [← payload]
  funext c
  by_cases enough : f.single.bits ≤ c.available
  · have decoded := decode_of_check checked' (width ▸ enough)
    rw [readElements_of_single rfl] at decoded
    obtain ⟨result, run, -⟩ := readElement_of_le checked' enough
    cases result with
    | error e =>
      have read : f.single.readPayload f.kind c = _ := Attempt.map_eq_error_iff.mpr run
      rw [Attempt.bind_error (Attempt.bind_error run _)] at decoded
      rw [Attempt.map_eq_error_iff.mpr decoded, Attempt.map_eq_error_iff.mpr read]
    | ok x =>
      obtain ⟨x, valid⟩ := x
      have read : f.single.readPayload f.kind c = _ := Attempt.map_eq_ok_iff.mpr ⟨_, run, rfl⟩
      rw [Attempt.bind_ok (Attempt.bind_ok run _)] at decoded
      rw [Attempt.map_eq_ok_iff.mpr ⟨_, decoded, rfl⟩, Attempt.map_eq_ok_iff.mpr ⟨_, read, rfl⟩]
      rcases filler_of_invalid rfl run with rfl | rfl
      · rfl
      · cases valid <;> rfl
  · have decoded := decode_of_short checked' (width ▸ enough)
    have read : f.single.readPayload f.kind c = _ :=
      Attempt.map_eq_error_iff.mpr (readElement_of_short checked' enough)
    rw [width] at decoded
    rw [Attempt.map_eq_error_iff.mpr decoded, Attempt.map_eq_error_iff.mpr read]

/-! ## Sequences -/

variable {n : Nat} {e : Element}

/-- The elements that a field can be of. -/
def fieldElements : List Element :=
  [.boolean, .byte, .short, .int, .long, .float, .double, .string, .date, .enum, .byteString]

/-- Packs values into a sequence of their kind. Values of other kinds would be left out. -/
def pack : Kind → List Value → Value
  | .scalar e, values =>
    if e ∈ fieldElements then ⟨.sequence e, values.filterMap (·.as? (.scalar e))⟩
    else ⟨.scalar e, e.filler⟩
  | k, _ => ⟨k, k.filler⟩

theorem mem_fieldElements (kind : f.kind = .scalar e) (checked : f.checkWidth = .ok ()) :
    e ∈ fieldElements := by
  unfold checkWidth at checked
  rw [kind] at checked
  cases e
  case complex | doubleComplex | externalReference => cases checked
  all_goals decide

/-- Nothing is left out of values that are all of the kind. -/
theorem pack_map_mk (mem : e ∈ fieldElements) (xs : List e.Carrier) :
    pack (.scalar e) (xs.map (Value.mk (.scalar e))) = ⟨.sequence e, xs⟩ := by
  simp [pack, mem, List.filterMap_map, Value.as?_self]

theorem readElements_of_payloads (count : f.count = some n) (kind : f.kind = .scalar e) :
    f.readElements = (fun xs => .ofValue ⟨.sequence e, xs⟩) <$>
      (f.readPayload (.scalar e)).times n := by
  rw [readElements_of_sequence count kind, readPayload, Attempt.times_map]
  simp [← bind_pure_comp]

/-- A sequence is a repetition of payloads. -/
theorem decode_of_sequence (checked : f.check = .ok ()) (count : f.count = some n)
    (kind : f.kind = .scalar e) (enough : n * f.bits ≤ c.available) :
    f.decode c = ((fun xs => (⟨⟨.sequence e, xs⟩, true, f.unit⟩ : Datum)) <$>
      (f.readPayload (.scalar e)).times n) c := by
  rw [decode_of_check checked (extent_of_sequence checked count ▸ enough),
    readElements_of_payloads count kind]
  simp [← bind_pure_comp, Datum.ofValue]

/-- A sequence does not look at the null word. -/
theorem decode_of_null (checked : f.check = .ok ()) (count : f.count = some n)
    (null : Option UInt64) : { f with nullValue := null }.decode = f.decode := by
  obtain ⟨e, kind⟩ := kind_of_sequence checked count
  have elements : { f with nullValue := null }.readElements = f.readElements := by
    rw [readElements_of_payloads count kind, ← readPayload_of_null f null f.count]
    exact readElements_of_payloads (f := { f with nullValue := null }) count kind
  unfold decode
  rw [elements]
  rfl

/-- A sequence field that is all there against its elements, each decoded in turn as a field of
its own without a null word. If they all succeed, the sequence is valid, has their payloads and
leaves the cursor where they do; packed as values of any kind, the payloads would come to the
same. The first of them to fail fails the sequence, at the same place. What the null word of the
sequence is does not matter. -/
theorem decode_of_singles (checked : f.check = .ok ()) (count : f.count = some n)
    (enough : n * f.bits ≤ c.available) :
    ∃ e, f.kind = .scalar e ∧ f.kind.sequence? = some (.sequence e) ∧
      (∀ (ds : List Datum) t,
        Attempt.inTurn (List.replicate n f.single.decode) c = (ds.map .ok, t) →
        ∃ xs, f.decode c = (.ok ⟨⟨.sequence e, xs⟩, true, f.unit⟩, t) ∧ xs.length = n ∧
          ds.map Datum.value = xs.map (Value.mk (.scalar e)) ∧
          pack f.kind (ds.map Datum.value) = ⟨.sequence e, xs⟩) ∧
      (∀ i < n, ∀ (ds : List Datum) t err u,
        Attempt.inTurn (List.replicate i f.single.decode) c = (ds.map .ok, t) →
        f.single.decode t = (.error err, u) → f.decode c = (.error err, u)) ∧
      ∀ null, { f with nullValue := null }.decode = f.decode := by
  obtain ⟨e, kind⟩ := kind_of_sequence checked count
  have singles : List.map Datum.value <$> Attempt.times n f.single.decode =
      List.map (Value.mk (.scalar e)) <$> Attempt.times n (f.readPayload (.scalar e)) := by
    rw [← Attempt.times_map, ← Attempt.times_map, map_value_decode_single checked, kind]
  refine ⟨e, kind, by rw [kind]; rfl, fun ds t run => ?_,
    fun i within ds t err u before failing => ?_, decode_of_null checked count⟩
  · have length : ds.length = n := by
      have answers := congrArg (fun r => r.1.length) run
      simpa using answers.symm
    have values : (List.map Datum.value <$> Attempt.times n f.single.decode) c =
        (.ok (ds.map Datum.value), t) :=
      Attempt.map_eq_ok_iff.mpr ⟨ds, Attempt.times_of_inTurn run, rfl⟩
    rw [singles] at values
    obtain ⟨xs, payloads, same⟩ := Attempt.map_eq_ok_iff.mp values
    have width := (check_eq_ok_iff.mp checked).2.2.2.2.2.2
    refine ⟨xs, ?_, ?_, same.symm, ?_⟩
    · rw [decode_of_sequence checked count kind enough]
      exact Attempt.map_eq_ok_iff.mpr ⟨xs, payloads, rfl⟩
    · have lengths := congrArg List.length same
      simpa [length] using lengths
    · rw [kind, ← same, pack_map_mk (mem_fieldElements kind width)]
  · have failed : (List.map Datum.value <$> Attempt.times n f.single.decode) c = (.error err, u) :=
      Attempt.map_eq_error_iff.mpr (Attempt.times_of_failing within before failing)
    rw [singles] at failed
    rw [decode_of_sequence checked count kind enough]
    exact Attempt.map_eq_error_iff.mpr (Attempt.map_eq_error_iff.mp failed)

private def labels : FieldFormat :=
  { kind := .scalar .string, bits := 16, count := some 2, zeroTerminated := some true }

private def letter : Cursor := ⟨#[0x05, 0x36, 0x60, 0x04, 0x10], 4, by decide⟩

/-- Two labels that start within a byte. The second is empty and would be a null by itself. -/
theorem decode_of_labels : ∃ behind : 32 ≤ letter.available,
    labels.decode letter =
      (.ok ⟨⟨.sequence .string, ["Sf", ""]⟩, true, none⟩, letter.advance 32 behind) := by
  obtain ⟨e, kind, -, succeeding, -⟩ :=
    decode_of_singles (f := labels) (c := letter) (n := 2) (by rfl) rfl (by decide)
  cases kind
  obtain ⟨xs, decoded, -, same, -⟩ := succeeding
    [.ofValue ⟨.scalar .string, "Sf"⟩, .null (.scalar .string)] (letter.advance 32 (by decide))
    (by rfl)
  have injective : Function.Injective (Value.mk (.scalar .string)) := fun _ _ eq => by
    cases eq
    rfl
  obtain rfl : xs = ["Sf", ""] := List.map_injective_iff.mpr injective same.symm
  exact ⟨by decide, decoded⟩

end PackedRecords.FieldFormat
