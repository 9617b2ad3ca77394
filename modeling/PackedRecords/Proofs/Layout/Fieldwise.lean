import PackedRecords.Proofs.Layout.Acceptance

/-!
Records field by field. Where a field starts depends on the fields before it and not
on what they hold, so a record is its fields decoded each for itself.

Proved here:

* `ofFields_eq_ok`: what an accepted layout keeps of its fields;
* `readFields_of_ok`, `readFields_of_error`: reading fields in turn, by induction on
  the fields, with the cursor at the sum of the spans passed as the invariant;
* on top of them, every outcome of reading a record of a layout.
-/

namespace PackedRecords

/-- The cursor `n` bits further on, if the buffer goes that far. -/
def Cursor.seek (c : Cursor) (n : Nat) : Cursor :=
  if h : n ≤ c.available then c.advance n h else c

namespace Cursor

variable {c : Cursor} {m n : Nat}

theorem seek_of_le (h : n ≤ c.available) : c.seek n = c.advance n h := dif_pos h

theorem available_seek (h : n ≤ c.available) : (c.seek n).available = c.available - n := by
  rw [seek_of_le h, available_advance]

theorem seek_seek (h : m + n ≤ c.available) : (c.seek m).seek n = c.seek (m + n) := by
  have first : m ≤ c.available := by omega
  have second : n ≤ (c.advance m first).available := by
    rw [available_advance]
    omega
  rw [seek_of_le first, seek_of_le second, seek_of_le h, advance_advance]

end Cursor

/-- The bits of a record that belong to the field, its gap included. -/
def Field.span (f : Field) : Nat := f.gap + f.format.extent

namespace Layout

variable {fields : List Field} {l : Layout} {c : Cursor}

/-! ## Accepted layouts -/

/-- The bits of all the fields, their gaps included. -/
def spans (fields : List Field) : Nat := (fields.map Field.span).sum

/-- The bits of a record before its field `k`: all earlier fields, and its own gap. -/
def offset (fields : List Field) (k : Nat) : Nat :=
  spans (fields.take k) + ((fields[k]?.map Field.gap).getD 0)

@[simp] theorem spans_cons (f : Field) (fields : List Field) :
    spans (f :: fields) = f.span + spans fields := by
  simp [spans]

@[simp] theorem offset_zero (f : Field) (fields : List Field) : offset (f :: fields) 0 = f.gap := by
  simp [offset, spans]

@[simp] theorem offset_succ (f : Field) (fields : List Field) (k : Nat) :
    offset (f :: fields) (k + 1) = f.span + offset fields k := by
  simp [offset, Nat.add_assoc]

/-- A field of a list ends within the spans of the list. -/
theorem offset_add_extent_le {k : Nat} {f : Field} (h : fields[k]? = some f) :
    offset fields k + f.format.extent ≤ spans fields := by
  induction fields generalizing k with
  | nil => cases h
  | cons g fields ih =>
    cases k with
    | zero =>
      cases h
      simp only [offset_zero, spans_cons, Field.span]
      omega
    | succ k =>
      have := ih (k := k) h
      simp only [offset_succ, spans_cons]
      omega

theorem spans_eq_size (checked : ∀ f ∈ fields, f.format.check = .ok ()) :
    spans fields = size fields := by
  rw [spans, size]
  congr 1
  apply List.map_congr_left
  intro f there
  rw [Field.span, FieldFormat.extent_of_check (checked f there), FieldFormat.size]

theorem ofFields_eq_ok (h : ofFields fields = .ok l) :
    l.fields = fields ∧ l.extent = spans fields ∧ ∀ f ∈ fields, f.format.check = .ok () := by
  obtain ⟨acceptable, rfl⟩ := ofFields_eq_ok_iff.mp h
  exact ⟨rfl, (spans_eq_size acceptable.checked).symm, acceptable.checked⟩

/-! ## One field -/

theorem read_of_ok {f : Field} {d : Datum} (checked : f.format.check = .ok ())
    (whole : f.span ≤ c.available) (decoded : (f.format.decode (c.seek f.gap)).1 = .ok d) :
    f.read c = (.ok (f.name, d), c.seek f.span) := by
  have gap : f.gap ≤ c.available := by
    rw [Field.span] at whole
    omega
  have left : f.format.extent ≤ (c.seek f.gap).available := by
    rw [Cursor.available_seek gap]
    rw [Field.span] at whole
    omega
  rw [Field.read, Attempt.bind_ok (Attempt.mapError_ok (Cursor.skip_of_le gap) _),
    ← Cursor.seek_of_le gap]
  rcases FieldFormat.decode_of_le checked left with ⟨d', run⟩ | ⟨e, t, run, -⟩
  · rw [run] at decoded
    cases decoded
    rw [Attempt.bind_ok run, ← Cursor.seek_of_le left, Cursor.seek_seek whole]
    rfl
  · rw [run] at decoded
    cases decoded

theorem read_of_error {f : Field} {e : FieldFault} {t : Cursor} (gap : f.gap ≤ c.available)
    (refused : f.format.decode (c.seek f.gap) = (.error e, t)) : f.read c = (.error e, t) := by
  rw [Field.read, Attempt.bind_ok (Attempt.mapError_ok (Cursor.skip_of_le gap) _),
    ← Cursor.seek_of_le gap, Attempt.bind_error refused]

/-! ## Fields in turn -/

/-- Field `k` of a record at the cursor, decoded without the other fields. -/
def lone (fields : List Field) (c : Cursor) (k : Nat) (f : Field) :
    Except FieldFault Datum × Cursor :=
  f.format.decode (c.seek (offset fields k))

theorem lone_zero (f : Field) (fields : List Field) (c : Cursor) :
    lone (f :: fields) c 0 f = f.format.decode (c.seek f.gap) := by
  rw [lone, offset_zero]

/-- Behind the first field, the others stand where they stand without it. -/
theorem lone_succ {f g : Field} {k : Nat} (there : fields[k]? = some g)
    (enough : spans (f :: fields) ≤ c.available) :
    lone (f :: fields) c (k + 1) g = lone fields (c.seek f.span) k g := by
  have within := offset_add_extent_le there
  rw [spans_cons] at enough
  rw [lone, lone, offset_succ, Cursor.seek_seek (by omega)]

theorem spans_le_seek {f : Field} (enough : spans (f :: fields) ≤ c.available) :
    f.span ≤ c.available ∧ spans fields ≤ (c.seek f.span).available := by
  rw [spans_cons] at enough
  have whole : f.span ≤ c.available := by omega
  refine ⟨whole, ?_⟩
  rw [Cursor.available_seek whole]
  omega

/-- If every field can be decoded where it starts, the record holds what they give. -/
theorem readFields_of_ok (checked : ∀ f ∈ fields, f.format.check = .ok ())
    (enough : spans fields ≤ c.available)
    (decoded : ∀ k f, fields[k]? = some f → ∃ d, (lone fields c k f).1 = .ok d) :
    ∃ record, readFields fields c = (.ok record, c.seek (spans fields)) ∧
      record.length = fields.length ∧
      ∀ k f, fields[k]? = some f →
        ∃ d, (lone fields c k f).1 = .ok d ∧ record[k]? = some (f.name, d) := by
  induction fields generalizing c with
  | nil => exact ⟨[], by rw [Cursor.seek_of_le enough]; rfl, rfl, fun k f there => nomatch there⟩
  | cons f fields ih =>
    obtain ⟨check, checks⟩ := List.forall_mem_cons.mp checked
    obtain ⟨whole, left⟩ := spans_le_seek enough
    obtain ⟨d, first⟩ := decoded 0 f rfl
    obtain ⟨record, rest, length, entries⟩ := ih checks left fun k g there => by
      rw [← lone_succ there enough]
      exact decoded (k + 1) g there
    refine ⟨(f.name, d) :: record, ?_, by simp [length], ?_⟩
    · rw [readFields, Attempt.bind_ok (read_of_ok check whole (lone_zero f fields c ▸ first)),
        Attempt.bind_ok rest, Cursor.seek_seek (spans_cons f fields ▸ enough), spans_cons]
      rfl
    · intro k g there
      cases k with
      | zero =>
        cases there
        exact ⟨d, first, rfl⟩
      | succ k =>
        have later : fields[k]? = some g := there
        rw [lone_succ later enough]
        exact entries k g later

/-- The first field that cannot be decoded where it starts ends the record. -/
theorem readFields_of_error {k : Nat} {f : Field} {e : FieldFault} {t : Cursor}
    (checked : ∀ f ∈ fields, f.format.check = .ok ()) (enough : spans fields ≤ c.available)
    (there : fields[k]? = some f)
    (before : ∀ j g, j < k → fields[j]? = some g → ∃ d, (lone fields c j g).1 = .ok d)
    (refused : lone fields c k f = (.error e, t)) :
    readFields fields c = (.error e, t) ∧ e.IsText := by
  induction fields generalizing c k with
  | nil => cases there
  | cons g fields ih =>
    obtain ⟨check, checks⟩ := List.forall_mem_cons.mp checked
    obtain ⟨whole, left⟩ := spans_le_seek enough
    cases k with
    | zero =>
      cases there
      have gap : f.gap ≤ c.available := by
        rw [Field.span] at whole
        omega
      have room : f.format.extent ≤ (c.seek f.gap).available := by
        rw [Cursor.available_seek gap]
        rw [Field.span] at whole
        omega
      rw [lone_zero] at refused
      refine ⟨?_, ?_⟩
      · rw [readFields, Attempt.bind_error (read_of_error gap refused)]
      · rcases FieldFormat.decode_of_le check room with ⟨d, run⟩ | ⟨e', t', run, text⟩
        · rw [run] at refused
          cases refused
        · rw [run] at refused
          cases refused
          exact text
    | succ k =>
      obtain ⟨d, first⟩ := before 0 g (Nat.succ_pos k) rfl
      have later : fields[k]? = some f := there
      rw [lone_succ later enough] at refused
      obtain ⟨rest, text⟩ := ih checks left later (fun j h below here => by
        rw [← lone_succ here enough]
        exact before (j + 1) h (Nat.succ_lt_succ below) here) refused
      refine ⟨?_, text⟩
      rw [readFields, Attempt.bind_ok (read_of_ok check whole (lone_zero g fields c ▸ first)),
        Attempt.bind_error rest]

/-- A record that was read has had every field decoded where it starts. -/
theorem decoded_of_readFields {record : Record} (checked : ∀ f ∈ fields, f.format.check = .ok ())
    (enough : spans fields ≤ c.available) (run : (readFields fields c).1 = .ok record) :
    ∀ k f, fields[k]? = some f → ∃ d, (lone fields c k f).1 = .ok d := by
  intro k
  induction k using Nat.strongRecOn with
  | ind k ih =>
    intro f there
    cases outcome : lone fields c k f with
    | mk result t =>
      cases result with
      | ok d => exact ⟨d, rfl⟩
      | error e =>
        obtain ⟨failed, -⟩ := readFields_of_error checked enough there
          (fun j g below => ih j below g) outcome
        rw [failed] at run
        cases run

/-- A record that was read holds what its fields give where they start. -/
theorem entries_of_readFields {record : Record}
    (checked : ∀ f ∈ fields, f.format.check = .ok ()) (enough : spans fields ≤ c.available)
    (read : (readFields fields c).1 = .ok record) :
    record.length = fields.length ∧
      ∀ k f, fields[k]? = some f →
        ∃ d, (lone fields c k f).1 = .ok d ∧ record[k]? = some (f.name, d) := by
  obtain ⟨found, run, entries⟩ :=
    readFields_of_ok checked enough (decoded_of_readFields checked enough read)
  rw [run] at read
  cases read
  exact entries

/-! ## Records -/

theorem readRecord_of_lt (short : c.available < l.extent) :
    l.readRecord c = (.error (.read (.truncated l.extent c.available)), c) := by
  rw [readRecord, Attempt.bind_ok (Attempt.state_apply c), if_pos short]
  rfl

theorem readRecord_of_le (enough : l.extent ≤ c.available) :
    l.readRecord c = readFields l.fields c := by
  rw [readRecord, Attempt.bind_ok (Attempt.state_apply c), if_neg (by omega)]

/-- A record of an accepted layout is read only if all its bits are there. Then each of its
fields is as good as decoded alone, at its offset: all of them make up the record, or the
first that is refused, which is for its text, ends it. -/
theorem readRecord_eq_lone_fields (accepted : ofFields fields = .ok l) (c : Cursor) :
    (c.available < l.extent →
      l.readRecord c = (.error (.read (.truncated l.extent c.available)), c)) ∧
    (l.extent ≤ c.available →
      (∀ (k : Nat) (f : Field), fields[k]? = some f →
        (c.seek (offset fields k)).data = c.data ∧
        (c.seek (offset fields k)).position = c.position + offset fields k) ∧
      ((∃ record, (l.readRecord c).1 = .ok record) ↔
        ∀ k f, fields[k]? = some f → ∃ d, (lone fields c k f).1 = .ok d) ∧
      (∀ record, (l.readRecord c).1 = .ok record →
        (l.readRecord c).2.data = c.data ∧
        (l.readRecord c).2.position = c.position + l.extent ∧
        record.length = fields.length ∧
        ∀ k f, fields[k]? = some f →
          ∃ d, (lone fields c k f).1 = .ok d ∧ record[k]? = some (f.name, d)) ∧
      (∀ k f e t, fields[k]? = some f →
        (∀ j g, j < k → fields[j]? = some g → ∃ d, (lone fields c j g).1 = .ok d) →
        lone fields c k f = (.error e, t) →
        l.readRecord c = (.error e, t) ∧ (e = .notText ∨ ∃ byte, e = .notAscii byte))) ∧
    (∀ bytes, l.decode bytes = (l.readRecord (.ofBytes bytes)).1) := by
  obtain ⟨kept, size, checked⟩ := ofFields_eq_ok accepted
  refine ⟨readRecord_of_lt, fun enough => ?_, fun bytes => rfl⟩
  rw [readRecord_of_le enough, kept, size]
  rw [size] at enough
  have each : ∀ record, (readFields fields c).1 = .ok record →
      ∀ k f, fields[k]? = some f → ∃ d, (lone fields c k f).1 = .ok d := fun _ =>
    decoded_of_readFields checked enough
  refine ⟨fun k f there => ?start, ⟨fun ⟨record, run⟩ => each record run, fun decoded => ?whole⟩,
    fun record run => ?entries, fun k f e t there before refused =>
      readFields_of_error checked enough there before refused⟩
  case start =>
    have within := offset_add_extent_le there
    rw [Cursor.seek_of_le (by omega)]
    exact ⟨rfl, rfl⟩
  case whole =>
    obtain ⟨record, run, -⟩ := readFields_of_ok checked enough decoded
    exact ⟨record, by rw [run]⟩
  case entries =>
    obtain ⟨found, run', length, entries⟩ := readFields_of_ok checked enough (each record run)
    rw [run'] at run
    cases run
    rw [run', Cursor.seek_of_le enough]
    exact ⟨rfl, rfl, length, entries⟩

/-- A flag and a character, each behind a gap, so that neither begins on a byte boundary. -/
def flagAndTag : List Field :=
  [⟨"flag", 3, { kind := .scalar .byte, bits := 5 }⟩,
    ⟨"tag", 4, { kind := .scalar .string, bits := 8, encoding := some .ascii }⟩]

def tagged : Layout := ⟨flagAndTag, 20⟩

/-- A flag and a tag across byte boundaries: one buffer is read, in one the tag is refused and
the cursor stays behind it, and one is too short. -/
theorem readRecord_tagged :
    ofFields flagAndTag = .ok tagged ∧
    (tagged.readRecord (.ofBytes [0x15, 0x04, 0x1F])).2.position = 20 ∧
    tagged.readRecord (.ofBytes [0x15, 0x0C, 0x1F]) =
      (.error (.notAscii 0xC1), (Cursor.ofBytes [0x15, 0x0C, 0x1F]).seek 20) ∧
    tagged.readRecord (.ofBytes [0x15, 0x04]) =
      (.error (.read (.truncated 20 16)), .ofBytes [0x15, 0x04]) := by
  have accepted : ofFields flagAndTag = .ok tagged := by decide
  refine ⟨accepted, ?_, ?_, ?_⟩
  · have read := (readRecord_eq_lone_fields accepted (.ofBytes [0x15, 0x04, 0x1F])).2.1 (by decide)
    exact (read.2.2.1 _ rfl).2.1
  · have read := (readRecord_eq_lone_fields accepted (.ofBytes [0x15, 0x0C, 0x1F])).2.1 (by decide)
    refine (read.2.2.2 1 _ _ _ rfl (fun j g below there => ?_) rfl).1
    obtain rfl : j = 0 := by omega
    cases there
    exact ⟨_, rfl⟩
  · exact (readRecord_eq_lone_fields accepted (.ofBytes [0x15, 0x04])).1 (by decide)

end Layout

end PackedRecords
