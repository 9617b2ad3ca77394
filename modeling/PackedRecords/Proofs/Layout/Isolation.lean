import PackedRecords.Proofs.Layout.Fieldwise

/-!
Which bits a record depends on. Two buffers may differ before it, behind it and in its
gaps; where its fields lie in them, byte by byte, makes no difference either.

Proved here:

* `DecidedBy.bind`, `DecidedBy.times`: steps that look only at the bits they take make up
  steps that do, the second by induction on the count;
* `FieldFormat.decode_decided`: decoding a field is such a step, for every format;
* `Layout.readFields_of_same`: fields in turn, by induction on them, with equal distances
  from both cursors as the invariant;
* on top of them, any two readings of records of one layout.
-/

namespace PackedRecords

open Bits

/-! ## Steps decided by the bits they take -/

namespace Cursor

/-- The next `n` bits are there for both cursors, and are the same. -/
structure SameAhead (n : Nat) (c c' : Cursor) : Prop where
  enough : n ≤ c.available
  enough' : n ≤ c'.available
  bits : ∀ j, j < n → bitAt c.data (c.position + j) = bitAt c'.data (c'.position + j)

variable {c c' : Cursor} {m n : Nat}

theorem data_seek (h : n ≤ c.available) : (c.seek n).data = c.data := by
  rw [seek_of_le h, data_advance]

theorem position_seek (h : n ≤ c.available) : (c.seek n).position = c.position + n := by
  rw [seek_of_le h, position_advance]

namespace SameAhead

theorem slice_eq (same : SameAhead n c c') :
    slice c.data c.position n = slice c'.data c'.position n :=
  List.map_congr_left fun j inside => same.bits j (List.mem_range.mp inside)

theorem take (same : SameAhead (m + n) c c') : SameAhead m c c' where
  enough := Nat.le_trans (Nat.le_add_right m n) same.enough
  enough' := Nat.le_trans (Nat.le_add_right m n) same.enough'
  bits j inside := same.bits j (Nat.lt_of_lt_of_le inside (Nat.le_add_right m n))

theorem drop (same : SameAhead (m + n) c c') : SameAhead n (c.seek m) (c'.seek m) := by
  have first := same.take
  have whole := same.enough
  have whole' := same.enough'
  constructor
  case enough =>
    rw [available_seek first.enough]
    omega
  case enough' =>
    rw [available_seek first.enough']
    omega
  case bits =>
    intro j inside
    rw [data_seek first.enough, data_seek first.enough', position_seek first.enough,
      position_seek first.enough', Nat.add_assoc, Nat.add_assoc]
    exact same.bits (m + j) (Nat.add_lt_add_left inside m)

end SameAhead

variable {ε δ α β : Type}

/-- What the step gives and how far it goes is decided by the next `n` bits, which it takes
all if it succeeds. -/
def DecidedBy (n : Nat) (x : Attempt ε Cursor α) : Prop :=
  ∀ ⦃c c'⦄, SameAhead n c c' → ∃ result m, m ≤ n ∧ x c = (result, c.seek m) ∧
    x c' = (result, c'.seek m) ∧ ∀ a, result = .ok a → m = n

namespace DecidedBy

variable {x : Attempt ε Cursor α} {f : α → Attempt ε Cursor β}

/-- A step that succeeds whenever there are bits enough, with what they alone decide. -/
theorem of_ok (h : ∀ ⦃c c'⦄, SameAhead n c c' →
    ∃ a, x c = (.ok a, c.seek n) ∧ x c' = (.ok a, c'.seek n)) : DecidedBy n x := by
  intro c c' same
  obtain ⟨a, run, run'⟩ := h same
  exact ⟨.ok a, n, Nat.le_refl n, run, run', fun _ _ => rfl⟩

theorem pure (a : α) : DecidedBy 0 (Pure.pure a : Attempt ε Cursor α) :=
  of_ok fun _ _ _ => ⟨a, rfl, rfl⟩

theorem ofExcept (result : Except ε α) :
    DecidedBy 0 (Attempt.ofExcept result : Attempt ε Cursor α) := by
  cases result with
  | ok a => exact pure a
  | error e => exact fun _ _ _ => ⟨.error e, 0, Nat.le_refl 0, rfl, rfl, nofun⟩

theorem mapError (h : DecidedBy n x) (g : ε → δ) : DecidedBy n (x.mapError g) := by
  intro c c' same
  obtain ⟨result, m, within, run, run', whole⟩ := h same
  cases result with
  | ok a =>
    exact ⟨.ok a, m, within, Attempt.mapError_ok run g, Attempt.mapError_ok run' g,
      fun _ _ => whole a rfl⟩
  | error e =>
    exact ⟨.error (g e), m, within, Attempt.mapError_error run g, Attempt.mapError_error run' g,
      nofun⟩

theorem bind (first : DecidedBy m x) (rest : ∀ a, DecidedBy n (f a)) :
    DecidedBy (m + n) (x >>= f) := by
  intro c c' same
  obtain ⟨result, k, within, run, run', whole⟩ := first same.take
  cases result with
  | error e =>
    exact ⟨.error e, k, by omega, Attempt.bind_error run f, Attempt.bind_error run' f, nofun⟩
  | ok a =>
    obtain rfl := whole a rfl
    obtain ⟨result, l, within, next, next', whole⟩ := rest a same.drop
    have enough := same.enough
    have enough' := same.enough'
    refine ⟨result, k + l, by omega, ?_, ?_, fun b eq => by rw [whole b eq]⟩
    · rw [Attempt.bind_ok run, next, seek_seek (by omega)]
    · rw [Attempt.bind_ok run', next', seek_seek (by omega)]

/-- Going on with a value takes no more bits. -/
theorem map (h : DecidedBy n x) (g : α → β) :
    DecidedBy n (do let a ← x; Pure.pure (g a)) :=
  h.bind fun a => pure (g a)

theorem times (h : DecidedBy n x) (k : Nat) : DecidedBy (k * n) (x.times k) := by
  induction k with
  | zero =>
    rw [Nat.zero_mul]
    exact pure []
  | succ k ih =>
    rw [Nat.succ_mul, Nat.add_comm]
    exact h.bind fun a => ih.map (a :: ·)

end DecidedBy

theorem readWord_decided (small : n ≤ 64) : DecidedBy n (readWord n) :=
  .of_ok fun c c' same => by
    obtain ⟨word, run, number⟩ := readWord_of_le small same.enough
    obtain ⟨word', run', number'⟩ := readWord_of_le small same.enough'
    rw [same.slice_eq, ← number', UInt64.toNat_inj] at number
    refine ⟨word, ?_, ?_⟩
    · rw [run, seek_of_le]
    · rw [run', seek_of_le, number]

theorem readBytes_decided (n : Nat) : DecidedBy n (readBytes n) :=
  .of_ok fun c c' same => by
    obtain ⟨bytes, run, length, bits⟩ := readBytes_of_le same.enough
    obtain ⟨bytes', run', length', bits'⟩ := readBytes_of_le same.enough'
    have eq : bytes = bytes' := eq_of_bitAt_eq (length.trans length'.symm) fun j => by
      rw [bits, bits']
      by_cases inside : j < n
      · rw [same.bits j inside]
      · simp [inside]
    refine ⟨bytes, ?_, ?_⟩
    · rw [run, seek_of_le]
    · rw [run', seek_of_le, eq]

end Cursor

/-! ## Fields -/

namespace FieldFormat

variable {f : FieldFormat}

theorem readBytes_decided (f : FieldFormat) : Cursor.DecidedBy f.bits f.readBytes :=
  (Cursor.readBytes_decided f.bits).mapError _

theorem readText_decided (f : FieldFormat) : Cursor.DecidedBy f.bits f.readText :=
  f.readBytes_decided.bind fun bytes => (Cursor.DecidedBy.ofExcept (f.textOf bytes)).map _

theorem readElement_decided (checked : f.check = .ok ()) :
    Cursor.DecidedBy f.bits (f.readElement f.kind) := by
  have width := (check_eq_ok_iff.mp checked).2.2.2.2.2.2
  rcases kind_of_checkWidth width with ⟨raw, -, small⟩ | (text | text) | bytes | bytes
  · obtain ⟨x, element⟩ := readElement_of_raw raw f
    rw [element]
    exact (((Cursor.readWord_decided small).mapError _).map _).map _
  · rw [text]
    exact f.readText_decided
  · rw [text]
    exact f.readText_decided
  · rw [bytes]
    exact f.readBytes_decided.map _
  · rw [bytes]
    exact f.readBytes_decided.map _

theorem readElements_decided (checked : f.check = .ok ()) :
    Cursor.DecidedBy f.extent f.readElements := by
  have element := readElement_decided checked
  cases count : f.count with
  | none =>
    rw [readElements_of_single count, extent_of_single checked count]
    exact element.map _
  | some n =>
    obtain ⟨e, kind⟩ := kind_of_sequence checked count
    rw [kind] at element
    rw [readElements_of_sequence count kind, extent_of_sequence checked count]
    exact (element.times n).map _

theorem decode_decided (checked : f.check = .ok ()) : Cursor.DecidedBy f.extent f.decode := by
  intro c c' same
  rw [decode_of_check checked same.enough, decode_of_check checked same.enough']
  exact ((readElements_decided checked).map _) same

end FieldFormat

/-! ## Records -/

namespace Layout

variable {fields : List Field} {l : Layout} {c c' : Cursor} {k : Nat} {f : Field}

/-- The bits of field `k` are the same in records at the two cursors. -/
def SameField (fields : List Field) (k : Nat) (c c' : Cursor) : Prop :=
  ∀ f, fields[k]? = some f → ∀ j, j < f.format.extent →
    bitAt c.data (c.position + offset fields k + j) =
      bitAt c'.data (c'.position + offset fields k + j)

/-- A field decoded for itself gives the same at both cursors, and goes as far. -/
theorem lone_of_same (checked : f.format.check = .ok ()) (there : fields[k]? = some f)
    (enough : spans fields ≤ c.available) (enough' : spans fields ≤ c'.available)
    (same : SameField fields k c c') :
    ∃ result m, m ≤ f.format.extent ∧
      lone fields c k f = (result, (c.seek (offset fields k)).seek m) ∧
      lone fields c' k f = (result, (c'.seek (offset fields k)).seek m) ∧
      ∀ d, result = .ok d → m = f.format.extent := by
  have within := offset_add_extent_le there
  refine FieldFormat.decode_decided checked ⟨?_, ?_, ?_⟩
  · rw [Cursor.available_seek (by omega)]
    omega
  · rw [Cursor.available_seek (by omega)]
    omega
  · intro j inside
    rw [Cursor.data_seek (by omega), Cursor.data_seek (by omega), Cursor.position_seek (by omega),
      Cursor.position_seek (by omega)]
    exact same f there j inside

theorem SameField.tail (same : SameField (f :: fields) (k + 1) c c')
    (whole : f.span ≤ c.available) (whole' : f.span ≤ c'.available) :
    SameField fields k (c.seek f.span) (c'.seek f.span) := by
  intro g there j inside
  have bits := same g there j inside
  rw [offset_succ] at bits
  rw [Cursor.data_seek whole, Cursor.data_seek whole', Cursor.position_seek whole,
    Cursor.position_seek whole', Nat.add_assoc c.position, Nat.add_assoc c'.position]
  exact bits

theorem readFields_of_same (checked : ∀ f ∈ fields, f.format.check = .ok ())
    (enough : spans fields ≤ c.available) (enough' : spans fields ≤ c'.available)
    (same : ∀ k, SameField fields k c c') :
    ∃ result m, m ≤ spans fields ∧ readFields fields c = (result, c.seek m) ∧
      readFields fields c' = (result, c'.seek m) := by
  induction fields generalizing c c' with
  | nil => exact ⟨.ok [], 0, Nat.zero_le _, rfl, rfl⟩
  | cons f fields ih =>
    obtain ⟨check, checks⟩ := List.forall_mem_cons.mp checked
    obtain ⟨whole, left⟩ := spans_le_seek enough
    obtain ⟨whole', left'⟩ := spans_le_seek enough'
    obtain ⟨result, m, within, first, first', -⟩ :=
      lone_of_same check (k := 0) rfl enough enough' (same 0)
    rw [lone_zero, offset_zero] at first first'
    have size : f.span = f.gap + f.format.extent := rfl
    cases result with
    | error e =>
      refine ⟨.error e, f.gap + m, by rw [spans_cons]; omega, ?_, ?_⟩
      · rw [readFields, Attempt.bind_error (read_of_error (by omega) first),
          Cursor.seek_seek (by omega)]
      · rw [readFields, Attempt.bind_error (read_of_error (by omega) first'),
          Cursor.seek_seek (by omega)]
    | ok d =>
      have here := read_of_ok check whole (congrArg Prod.fst first)
      have here' := read_of_ok check whole' (congrArg Prod.fst first')
      obtain ⟨result, m, within, rest, rest'⟩ :=
        ih checks left left' fun k => (same (k + 1)).tail whole whole'
      rw [spans_cons] at enough enough'
      rw [Cursor.seek_seek (by omega)] at rest rest'
      refine ⟨result.map ((f.name, d) :: ·), f.span + m, by rw [spans_cons]; omega, ?_, ?_⟩
      · rw [readFields, Attempt.bind_ok here]
        cases result with
        | ok entries => exact Attempt.bind_ok rest _
        | error e => exact Attempt.bind_error rest _
      · rw [readFields, Attempt.bind_ok here']
        cases result with
        | ok entries => exact Attempt.bind_ok rest' _
        | error e => exact Attempt.bind_error rest' _

/-- Records of one layout whose fields have the same bits are read to the same end, whatever
lies around the fields and wherever the records start. A field comes out the same in any two
records in which its own bits are the same. -/
theorem readRecord_of_same (accepted : ofFields fields = .ok l) (enough : l.extent ≤ c.available)
    (enough' : l.extent ≤ c'.available) :
    ((∀ k, SameField fields k c c') →
      (l.readRecord c).1 = (l.readRecord c').1 ∧
      ∃ n, (l.readRecord c).2.position = c.position + n ∧
        (l.readRecord c').2.position = c'.position + n) ∧
    (∀ record record', (l.readRecord c).1 = .ok record → (l.readRecord c').1 = .ok record' →
      ∀ k f, fields[k]? = some f → SameField fields k c c' →
        ∃ d, record[k]? = some (f.name, d) ∧ record'[k]? = some (f.name, d)) := by
  obtain ⟨kept, size, checked⟩ := ofFields_eq_ok accepted
  rw [readRecord_of_le enough, readRecord_of_le enough', kept]
  rw [size] at enough enough'
  constructor
  · intro same
    obtain ⟨result, n, within, run, run'⟩ := readFields_of_same checked enough enough' same
    rw [run, run']
    exact ⟨rfl, n, Cursor.position_seek (by omega), Cursor.position_seek (by omega)⟩
  · intro record record' read read' k f there same
    obtain ⟨d, alone, entry⟩ := (entries_of_readFields checked enough read).2 k f there
    obtain ⟨d', alone', entry'⟩ := (entries_of_readFields checked enough' read').2 k f there
    obtain ⟨result, _, -, decoded, decoded', -⟩ :=
      lone_of_same (checked f (List.mem_of_getElem? there)) there enough enough' same
    rw [decoded] at alone
    rw [decoded', alone] at alone'
    cases alone'
    exact ⟨d, entry, entry'⟩

/-- A record on a byte boundary with clear gaps, and the same five bits into another buffer
with set ones; and one in which only the tag is the same. -/
theorem readRecord_framed :
    (tagged.readRecord (.ofBytes [0x15, 0x04, 0x1F])).1 =
      (tagged.readRecord ((Cursor.ofBytes [0xFF, 0xAF, 0xA0, 0x80]).seek 5)).1 ∧
    ∃ record record' d,
      (tagged.readRecord (.ofBytes [0x15, 0x04, 0x1F])).1 = .ok record ∧
      (tagged.readRecord (.ofBytes [0x1F, 0x04, 0x1F])).1 = .ok record' ∧
      record[1]? = some ("tag", d) ∧ record'[1]? = some ("tag", d) := by
  have accepted : ofFields flagAndTag = .ok tagged := by decide
  constructor
  · refine ((readRecord_of_same accepted (by decide) (by decide)).1 ?_).1
    rintro (_ | _ | k) f there
    · cases there
      decide
    · cases there
      decide
    · cases there
  · have same :
        SameField flagAndTag 1 (.ofBytes [0x15, 0x04, 0x1F]) (.ofBytes [0x1F, 0x04, 0x1F]) := by
      intro f there
      cases there
      decide
    obtain ⟨d, entry, entry'⟩ :=
      (readRecord_of_same accepted (by decide) (by decide)).2 _ _ rfl rfl 1 _ rfl same
    exact ⟨_, _, d, rfl, rfl, entry, entry'⟩

end Layout

end PackedRecords
