import PackedRecords.Proofs.Layout.Fieldwise
import PackedRecords.Proofs.Succession

/-!
Records of one layout, read one after the other until the bits run out. A record of a
layout with fields takes bits, so there are only so many of them.

Proved here:

* `FieldFormat.bits_pos`, `Layout.extent_pos`: formats that make sense take bits, and so
  does a layout with fields;
* `Takes.bind`, `Layout.readFields_takes`: steps that take their bits or stop among them
  make up steps that do, for fields in turn by induction on them;
* `readings_of_lt`, `readings_of_legible`, `count_readings_le`: how many records there are,
  by induction on the requests, with the bits that are left as the measure;
* on top of them, every run of requests for records at one cursor.
-/

namespace PackedRecords

/-! ## Sizes -/

namespace FieldFormat

variable {f : FieldFormat}

theorem bits_pos (checked : f.checkWidth = .ok ()) : 0 < f.bits := by
  rcases kind_of_checkWidth checked with ⟨-, positive, -⟩ | text | bytes
  · exact positive
  · unfold checkWidth at checked
    rcases text with kind | kind
    all_goals
      rw [kind] at checked
      exact (width_of_checkWholeBytes checked).1
  · unfold checkWidth at checked
    rcases bytes with kind | kind
    all_goals
      rw [kind] at checked
      exact (width_of_checkAtMost checked).1

theorem extent_pos (checked : f.check = .ok ()) : 0 < f.extent := by
  obtain ⟨elements, -, -, -, -, -, width⟩ := check_eq_ok_iff.mp checked
  rw [extent_of_check checked]
  refine Nat.mul_pos (bits_pos width) ?_
  cases count : f.count with
  | none => exact Nat.one_pos
  | some n =>
    rw [count] at elements
    exact Nat.pos_of_ne_zero fun zero => elements (congrArg some zero)

end FieldFormat

/-! ## Steps that take their bits -/

namespace Cursor

variable {α β : Type} {m n : Nat}

/-- If `n` bits are left the step takes them, or stops among them at text that is refused. -/
def Takes (n : Nat) (x : Attempt FieldFault Cursor α) : Prop :=
  ∀ c : Cursor, n ≤ c.available →
    (∃ a, x c = (.ok a, c.seek n)) ∨ ∃ e m, m ≤ n ∧ e.IsText ∧ x c = (.error e, c.seek m)

theorem Takes.pure (a : α) : Takes 0 (Pure.pure a : Attempt FieldFault Cursor α) :=
  fun _ _ => .inl ⟨a, rfl⟩

theorem Takes.bind {x : Attempt FieldFault Cursor α} {f : α → Attempt FieldFault Cursor β}
    (first : Takes m x) (rest : ∀ a, Takes n (f a)) : Takes (m + n) (x >>= f) := by
  intro c enough
  have here : m ≤ c.available := by omega
  have there : n ≤ (c.seek m).available := by
    rw [available_seek here]
    omega
  rcases first c here with ⟨a, run⟩ | ⟨e, k, within, text, run⟩
  · rw [Attempt.bind_ok run]
    rcases rest a (c.seek m) there with ⟨b, next⟩ | ⟨e, k, within, text, next⟩
    · exact .inl ⟨b, by rw [next, seek_seek enough]⟩
    · exact .inr ⟨e, m + k, by omega, text, by rw [next, seek_seek (by omega)]⟩
  · exact .inr ⟨e, k, by omega, text, Attempt.bind_error run f⟩

theorem skip_takes (n : Nat) : Takes n ((skip n).mapError .read) := fun c enough =>
  .inl ⟨(), by rw [Attempt.mapError_ok (skip_of_le enough), seek_of_le enough]⟩

end Cursor

open Cursor (Takes)

theorem FieldFormat.decode_takes {f : FieldFormat} (checked : f.check = .ok ()) :
    Takes f.extent f.decode := by
  intro c enough
  rcases decode_of_enough checked enough with
    ⟨d, run, -⟩ | ⟨i, e, behind, below, -, garbled, run⟩
  · exact .inl ⟨d, by rw [run, Cursor.seek_of_le enough]⟩
  · refine .inr ⟨e, (i + 1) * f.bits, ?_, garbled.isText, by rw [run, Cursor.seek_of_le behind]⟩
    rw [extent_of_check checked, Nat.mul_comm]
    exact Nat.mul_le_mul_left f.bits below

namespace Layout

variable {fields : List Field} {l : Layout} {c : Cursor}

theorem readFields_takes (checked : ∀ f ∈ fields, f.format.check = .ok ()) :
    Takes (spans fields) (readFields fields) := by
  induction fields with
  | nil => exact Takes.pure []
  | cons f fields ih =>
    obtain ⟨check, checks⟩ := List.forall_mem_cons.mp checked
    have field : Takes f.span f.read :=
      (Cursor.skip_takes f.gap).bind fun _ =>
        (FieldFormat.decode_takes check).bind fun d => Takes.pure (f.name, d)
    rw [spans_cons]
    exact field.bind fun entry => (ih checks).bind fun rest => Takes.pure (entry :: rest)

theorem readRecord_takes (accepted : ofFields fields = .ok l) : Takes l.extent l.readRecord := by
  obtain ⟨rfl, size, checked⟩ := ofFields_eq_ok accepted
  intro c enough
  rw [readRecord_of_le enough]
  rw [size] at enough ⊢
  exact readFields_takes checked c enough

theorem extent_pos (accepted : ofFields fields = .ok l) (nonempty : fields ≠ []) :
    0 < l.extent := by
  obtain ⟨-, size, checked⟩ := ofFields_eq_ok accepted
  cases fields with
  | nil => exact absurd rfl nonempty
  | cons f fields =>
    have first := FieldFormat.extent_pos (checked f List.mem_cons_self)
    rw [size, spans_cons, Field.span]
    omega

/-! ## Records in turn -/

/-- The answers to `n` requests for a record, and where they leave the cursor. -/
def readings (l : Layout) (n : Nat) (c : Cursor) : List (Except FieldFault Record) × Cursor :=
  Attempt.inTurn (List.replicate n l.readRecord) c

theorem readings_succ {answer : Except FieldFault Record} {t : Cursor}
    (run : l.readRecord c = (answer, t)) (n : Nat) :
    l.readings (n + 1) c = (answer :: (l.readings n t).1, (l.readings n t).2) := by
  simp only [readings, List.replicate_succ, Attempt.inTurn, run]

/-- Once the bits have run out, every request is refused alike. -/
theorem readings_of_lt (short : c.available < l.extent) (n : Nat) :
    l.readings n c =
      (List.replicate n (.error (.read (.truncated l.extent c.available))), c) := by
  induction n with
  | zero => rfl
  | succ n ih => rw [readings_succ (readRecord_of_lt short), ih, List.replicate_succ]

/-- A record takes one of the records that the bits are enough for. -/
theorem available_div_seek {extent : Nat} (positive : 0 < extent) (enough : extent ≤ c.available) :
    c.available / extent = (c.seek extent).available / extent + 1 ∧
      c.available % extent = (c.seek extent).available % extent := by
  rw [Cursor.available_seek enough]
  exact ⟨Nat.div_eq_sub_div positive enough, Nat.mod_eq_sub_mod enough⟩

theorem readings_of_legible (takes : Takes l.extent l.readRecord) (positive : 0 < l.extent)
    {n : Nat} (legible : ∀ e, .error e ∈ (l.readings n c).1 → ¬e.IsText) :
    ∃ records : List Record, records.length = min n (c.available / l.extent) ∧
      l.readings n c =
        (records.map .ok ++ List.replicate (n - c.available / l.extent)
            (.error (.read (.truncated l.extent (c.available % l.extent)))),
          c.seek (records.length * l.extent)) := by
  induction n generalizing c with
  | zero => exact ⟨[], by simp, by rw [List.length_nil, Nat.zero_mul, Nat.zero_sub]; rfl⟩
  | succ n ih =>
    by_cases enough : l.extent ≤ c.available
    · rcases takes c enough with ⟨record, run⟩ | ⟨e, m, -, text, run⟩
      · rw [readings_succ run] at legible ⊢
        obtain ⟨one, rest⟩ := available_div_seek positive enough
        obtain ⟨records, length, later⟩ :=
          ih fun e there => legible e (List.mem_cons_of_mem _ there)
        have within : records.length * l.extent + l.extent ≤ c.available := by
          rw [← Nat.succ_mul]
          exact Nat.mul_le_of_le_div _ _ _ (by omega)
        refine ⟨record :: records, by rw [List.length_cons, length]; omega, ?_⟩
        rw [later, one, rest, Cursor.seek_seek (by omega), Nat.add_sub_add_right,
          List.length_cons, Nat.succ_mul, Nat.add_comm l.extent]
        rfl
      · rw [readings_succ run] at legible
        exact absurd text (legible e List.mem_cons_self)
    · have short : c.available < l.extent := Nat.lt_of_not_le enough
      refine ⟨[], by simp [Nat.div_eq_of_lt short], ?_⟩
      rw [readings_of_lt short, Nat.div_eq_of_lt short, Nat.mod_eq_of_lt short, List.length_nil,
        Nat.zero_mul]
      rfl

/-- Each record that is read takes its bits, and what is refused gives none back. -/
theorem count_readings_le (takes : Takes l.extent l.readRecord) (positive : 0 < l.extent)
    (n : Nat) : (l.readings n c).1.countP Except.isOk ≤ c.available / l.extent := by
  induction n generalizing c with
  | zero => exact Nat.zero_le _
  | succ n ih =>
    by_cases enough : l.extent ≤ c.available
    · rcases takes c enough with ⟨record, run⟩ | ⟨e, m, within, -, run⟩
      · rw [readings_succ run, List.countP_cons_of_pos rfl, (available_div_seek positive enough).1]
        exact Nat.succ_le_succ ih
      · have left : (c.seek m).available = c.available - m := Cursor.available_seek (by omega)
        rw [readings_succ run, List.countP_cons_of_neg Bool.false_ne_true]
        calc (l.readings n (c.seek m)).1.countP Except.isOk
            ≤ (c.seek m).available / l.extent := ih
          _ ≤ c.available / l.extent := Nat.div_le_div_right (by omega)
    · rw [readings_of_lt (Nat.lt_of_not_le enough)]
      simp [List.countP_replicate, Except.isOk, Except.toBool]

/-- A record of a layout with fields takes bits, so however often records are asked for, the bits
that are left say how many there can be. There are as many unless text is refused. Then each
further request is refused for what is left, and the cursor stays behind the last record. -/
theorem readings_outcome (accepted : ofFields fields = .ok l) (nonempty : fields ≠ [])
    (c : Cursor) :
    1 ≤ l.extent ∧
    (∀ n, (∀ e, .error e ∈ (l.readings n c).1 → ¬e.IsText) →
      ∃ records : List Record, records.length = min n (c.available / l.extent) ∧
        (l.readings n c).1 =
          records.map .ok ++ List.replicate (n - c.available / l.extent)
            (.error (.read (.truncated l.extent (c.available % l.extent)))) ∧
        (l.readings n c).2.data = c.data ∧
        (l.readings n c).2.position = c.position + records.length * l.extent) ∧
    (∀ n, (l.readings n c).1.countP Except.isOk ≤ c.available / l.extent) := by
  have takes := readRecord_takes accepted
  have positive := extent_pos accepted nonempty
  refine ⟨positive, fun n legible => ?_, fun n => count_readings_le takes positive n⟩
  obtain ⟨records, length, run⟩ := readings_of_legible takes positive legible
  have within : records.length * l.extent ≤ c.available :=
    Nat.mul_le_of_le_div _ _ _ (by omega)
  refine ⟨records, length, by rw [run], ?_⟩
  rw [run, Cursor.seek_of_le within]
  exact ⟨rfl, rfl⟩

private def legible : Cursor := .ofBytes [0x15, 0x04, 0x11, 0x50, 0x42, 0xFF]

private def garbled : Cursor := .ofBytes [0x15, 0x0C, 0x11, 0x50, 0x42, 0xFF]

/-- Two records and eight bits, asked for four times; and the same with a first tag that is
refused. -/
theorem readings_of_tagged :
    ofFields flagAndTag = .ok tagged ∧ flagAndTag ≠ [] ∧
    (∀ e, .error e ∈ (tagged.readings 4 legible).1 → ¬e.IsText) ∧
    (∃ records : List Record, records.length = 2 ∧
      (tagged.readings 4 legible).1 =
        records.map .ok ++ List.replicate 2 (.error (.read (.truncated 20 8))) ∧
      (tagged.readings 4 legible).2.position = 40) ∧
    (tagged.readings 4 garbled).1.head? = some (.error (.notAscii 0xC1)) ∧
    (tagged.readings 4 garbled).1.countP Except.isOk ≤ 2 := by
  have accepted : ofFields flagAndTag = .ok tagged := by decide
  have nonempty : flagAndTag ≠ [] := by simp [flagAndTag]
  have answers : ∃ first second, (tagged.readings 4 legible).1 =
      [.ok first, .ok second, .error (.read (.truncated 20 8)),
        .error (.read (.truncated 20 8))] := ⟨_, _, rfl⟩
  have clean : ∀ e, .error e ∈ (tagged.readings 4 legible).1 → ¬e.IsText := by
    obtain ⟨first, second, answers⟩ := answers
    simp [answers, FieldFault.IsText]
  refine ⟨accepted, nonempty, clean, ?_, rfl, (readings_outcome accepted nonempty garbled).2.2 4⟩
  obtain ⟨records, length, run, -, place⟩ :=
    (readings_outcome accepted nonempty legible).2.1 4 clean
  have two : records.length = 2 := length
  rw [two] at place
  exact ⟨records, two, run, place⟩

end Layout

end PackedRecords
