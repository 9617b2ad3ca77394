import PackedRecords.Proofs.Batch.History
import PackedRecords.Proofs.Catalog.Steady
import PackedRecords.Writer

/-!
Writers as they are used: operations in any order, each of which may fail. A session
keeps the history of what succeeded beside the writer, and does not look at the batch
for it.

Proved here:

* `mapM_append`: rows appended to a new writer, by induction on them;
* `Operation.perform_outcome`: an operation that succeeds adds its changes to what the
  batch records, and one that fails leaves the batch alone;
* `Session.Sound.run`: every run keeps batch and history in step, by induction on the
  operations;
* `Session.started_of_run`: no run sets an attribute without a row.
-/

namespace PackedRecords

open Batch (History)

namespace Writer

variable {w : Writer} {h : History}

/-! ## Starting rows and setting attributes -/

/-- The batch is not full. -/
def HasRoom (w : Writer) : Prop :=
  ∀ limit, w.options.rowLimit = some limit → w.batch.rowCount < limit

theorem startRow_of_room (room : w.HasRoom) :
    startRow w = (.ok w.batch.rowCount, { w with batch := w.batch.addRow }) := by
  rw [startRow, Attempt.bind_ok (Attempt.state_apply w)]
  cases limited : w.options.rowLimit with
  | none => rfl
  | some limit =>
    simp only [if_neg (Nat.not_le.mpr (room limit limited))]
    rfl

theorem startRow_of_full {limit : Nat} (limited : w.options.rowLimit = some limit)
    (full : limit ≤ w.batch.rowCount) : startRow w = (.error (.full limit), w) := by
  rw [startRow, Attempt.bind_ok (Attempt.state_apply w), limited]
  simp only [if_pos full]
  rfl

theorem hasRoom_or_full (w : Writer) :
    w.HasRoom ∨ ∃ limit, w.options.rowLimit = some limit ∧ limit ≤ w.batch.rowCount := by
  by_cases full : ∃ limit, w.options.rowLimit = some limit ∧ limit ≤ w.batch.rowCount
  · exact .inr full
  · exact .inl fun limit limited => Nat.not_le.mp fun above => full ⟨limit, limited, above⟩

theorem put_of_started (started : w.batch.rowCount ≠ 0) (attr : String) (d : Datum) :
    put attr d w = onBatch (Batch.put attr d) w := by
  have nonempty : w.batch.isEmpty = false := by
    simpa [Batch.isEmpty, Batch.rowCount] using started
  rw [put, Attempt.bind_ok (Attempt.state_apply w)]
  simp [nonempty]

theorem put_of_empty (empty : w.batch.rowCount = 0) (auto : w.options.autoStart = true)
    (attr : String) (d : Datum) :
    put attr d w = (startRow >>= fun _ => onBatch (Batch.put attr d)) w := by
  have none : w.batch.isEmpty = true := by
    simpa [Batch.isEmpty, Batch.rowCount] using empty
  rw [put, Attempt.bind_ok (Attempt.state_apply w)]
  simp only [none, auto, Bool.and_self, if_true]

theorem put_of_autoStart (empty : w.batch.rowCount = 0) (auto : w.options.autoStart = true)
    (room : w.HasRoom) (attr : String) (d : Datum) :
    put attr d w = onBatch (Batch.put attr d) { w with batch := w.batch.addRow } := by
  rw [put_of_empty empty auto, Attempt.bind_ok (startRow_of_room room)]

theorem put_of_full {limit : Nat} (empty : w.batch.rowCount = 0)
    (auto : w.options.autoStart = true) (limited : w.options.rowLimit = some limit)
    (full : limit ≤ w.batch.rowCount) (attr : String) (d : Datum) :
    put attr d w = (.error (.full limit), w) := by
  rw [put_of_empty empty auto, Attempt.bind_error (startRow_of_full limited full)]

theorem put_of_manual (empty : w.batch.rowCount = 0) (manual : w.options.autoStart = false)
    (attr : String) (d : Datum) : put attr d w = (.error .noRow, w) := by
  rw [put, Attempt.bind_ok (Attempt.state_apply w)]
  simp only [manual, Bool.and_false, Bool.false_eq_true, if_false]
  show onBatch (Batch.put attr d) w = _
  rw [onBatch, Batch.put_of_empty empty]

/-! ## Steps against the history -/

/-- The row that a value starts if it comes before any. -/
def opening (h : History) : History := if h.rowCount = 0 then [.start] else []

theorem rowCount_opening (h : History) : (opening h ++ h).rowCount = max 1 h.rowCount := by
  rw [opening]
  split
  · show h.rowCount + 1 = _
    omega
  · show h.rowCount = _
    omega

/-- A value has a row to go to, or can start one. -/
def IsOpen (w : Writer) : Prop :=
  w.batch.rowCount ≠ 0 ∨ w.options.autoStart = true ∧ w.HasRoom

theorem put_of_isOpen (records : w.batch.Records h) (isOpen : w.IsOpen) (attr : String)
    (d : Datum) :
    ∃ b, put attr d w = (.ok (), { w with batch := b }) ∧
      b.Records (.set attr d :: opening h ++ h) := by
  by_cases empty : w.batch.rowCount = 0
  · obtain ⟨auto, room⟩ := isOpen.resolve_left (not_not_intro empty)
    have started : w.batch.addRow.rowCount ≠ 0 := Batch.rowCount_addRow _ ▸ Nat.succ_ne_zero _
    obtain ⟨b, set, recorded⟩ := records.addRow.put started attr d
    refine ⟨b, ?_, ?_⟩
    · rw [put_of_autoStart empty auto room, onBatch, set]
    · rw [opening, if_pos (records.rowCount ▸ empty)]
      exact recorded
  · obtain ⟨b, set, recorded⟩ := records.put empty attr d
    refine ⟨b, ?_, ?_⟩
    · rw [put_of_started empty, onBatch, set]
    · rw [opening, if_neg (records.rowCount ▸ empty)]
      exact recorded

theorem put_outcome (records : w.batch.Records h) (attr : String) (d : Datum) :
    (∃ b, put attr d w = (.ok (), { w with batch := b }) ∧
      b.Records (.set attr d :: opening h ++ h)) ∨
    ∃ e, put attr d w = (.error e, w) := by
  by_cases empty : w.batch.rowCount = 0
  · cases auto : w.options.autoStart with
    | false => exact .inr ⟨_, put_of_manual empty auto attr d⟩
    | true =>
      rcases hasRoom_or_full w with room | ⟨limit, limited, full⟩
      · exact .inl (put_of_isOpen records (.inr ⟨auto, room⟩) attr d)
      · exact .inr ⟨_, put_of_full empty auto limited full attr d⟩
  · exact .inl (put_of_isOpen records (.inl empty) attr d)

theorem startRow_outcome (records : w.batch.Records h) :
    (∃ b, startRow w = (.ok h.rowCount, { w with batch := b }) ∧ b.Records (.start :: h)) ∨
    ∃ e, startRow w = (.error e, w) := by
  rcases hasRoom_or_full w with room | ⟨limit, limited, full⟩
  · refine .inl ⟨w.batch.addRow, ?_, records.addRow⟩
    rw [startRow_of_room room, records.rowCount]
  · exact .inr ⟨_, startRow_of_full limited full⟩

theorem append_of_room (records : w.batch.Records h) (room : w.HasRoom)
    (values : List (String × Datum)) :
    ∃ b, append values w = (.ok h.rowCount, { w with batch := b }) ∧
      b.Records (History.settings values ++ .start :: h) := by
  have started : w.batch.addRow.rowCount ≠ 0 := Batch.rowCount_addRow _ ▸ Nat.succ_ne_zero _
  obtain ⟨last, set, recorded⟩ := records.addRow.putAll started values
  refine ⟨last, ?_, recorded⟩
  have all : onBatch (Batch.putAll values) { w with batch := w.batch.addRow } =
      (.ok (), { w with batch := last }) := by
    rw [onBatch, set]
  rw [append, Attempt.bind_ok (startRow_of_room room), Attempt.bind_ok all, records.rowCount]
  rfl

theorem append_of_full {limit : Nat} (limited : w.options.rowLimit = some limit)
    (full : limit ≤ w.batch.rowCount) (values : List (String × Datum)) :
    append values w = (.error (.full limit), w) := by
  rw [append, Attempt.bind_error (startRow_of_full limited full)]

theorem append_outcome (records : w.batch.Records h) (values : List (String × Datum)) :
    (∃ b, append values w = (.ok h.rowCount, { w with batch := b }) ∧
      b.Records (History.settings values ++ .start :: h)) ∨
    ∃ e, append values w = (.error e, w) := by
  rcases hasRoom_or_full w with room | ⟨limit, limited, full⟩
  · exact .inl (append_of_room records room values)
  · exact .inr ⟨.full limit, append_of_full limited full values⟩

/-- A writer without a limit takes any number of rows, and numbers them from 0 on. -/
theorem mapM_append (unlimited : w.options.rowLimit = none) (fresh : w.batch.Records [])
    (rows : List (List (String × Datum))) :
    ∃ b, rows.mapM append w = (.ok (List.range rows.length), { w with batch := b }) ∧
      b.Records (History.ofRows rows) := by
  induction rows using List.reverseRecOn with
  | nil => exact ⟨w.batch, rfl, fresh⟩
  | append_singleton rows values ih =>
    obtain ⟨b, run, records⟩ := ih
    have room : HasRoom { w with batch := b } := by
      intro limit limited
      rw [unlimited] at limited
      cases limited
    obtain ⟨last, appended, recorded⟩ := append_of_room records room values
    refine ⟨last, ?_, History.ofRows_concat rows values ▸ recorded⟩
    rw [List.mapM_append, Attempt.bind_ok run, List.mapM_cons, List.mapM_nil, bind_assoc,
      Attempt.bind_ok appended, History.rowCount_ofRows, List.length_append, List.length_singleton,
      List.range_succ]
    rfl

/-! ## Literals -/

section

variable {C : Type} [Catalog C] {c c' : C} {enumeration literal : String}

theorem putLiteral_of_known {code : Int32}
    (asked : Catalog.codeOf enumeration literal c = (.ok code, c')) (w : Writer) (attr : String) :
    putLiteral attr enumeration literal (w, c) =
      ((put attr (.ofValue ⟨.scalar .enum, code⟩) w).1,
        (put attr (.ofValue ⟨.scalar .enum, code⟩) w).2, c') := by
  have answered := Attempt.mapError_ok asked BatchFault.catalog
  rw [putLiteral, Attempt.bind_ok (Attempt.onSecond_eq answered w)]
  rfl

theorem putLiteral_of_unknown {e : CatalogFault}
    (asked : Catalog.codeOf enumeration literal c = (.error e, c')) (w : Writer) (attr : String) :
    putLiteral attr enumeration literal (w, c) = (.error (.catalog e), w, c') := by
  have failed := Attempt.mapError_error asked BatchFault.catalog
  rw [putLiteral, Attempt.bind_error (Attempt.onSecond_eq failed w)]

end

/-! ## Operations -/

/-- What a writer can be asked before its batch is submitted. -/
inductive Operation where
  | startRow
  | put (attr : String) (d : Datum)
  | putLiteral (attr enumeration literal : String)
  | append (values : List (String × Datum))

namespace Operation

variable {C : Type} [Catalog C]

def perform : Operation → Attempt BatchFault (Writer × C) Unit
  | .startRow => do
    let _ ← Attempt.onFirst Writer.startRow
  | .put attr d => Attempt.onFirst (Writer.put attr d)
  | .putLiteral attr enumeration literal => Writer.putLiteral attr enumeration literal
  | .append values => do
    let _ ← Attempt.onFirst (Writer.append values)

/-- What an operation changes if it succeeds, latest first. A literal stands for the code
that the catalog gives for it. -/
def changes (c : C) (h : History) : Operation → History
  | .startRow => [.start]
  | .put attr d => .set attr d :: opening h
  | .putLiteral attr enumeration literal =>
    match (Catalog.codeOf enumeration literal c).1 with
    | .ok code => .set attr (.ofValue ⟨.scalar .enum, code⟩) :: opening h
    | .error _ => []
  | .append values => History.settings values ++ [.start]

/-- An operation succeeds and changes the batch as it says, or it leaves the writer alone. -/
theorem perform_outcome (records : w.batch.Records h) (op : Operation) (c : C) :
    (∃ b c', op.perform (w, c) = (.ok (), { w with batch := b }, c') ∧
      b.Records (op.changes c h ++ h)) ∨
    ∃ e c', op.perform (w, c) = (.error e, w, c') := by
  cases op with
  | startRow =>
    rcases startRow_outcome records with ⟨b, run, recorded⟩ | ⟨e, run⟩
    · refine .inl ⟨b, c, ?_, recorded⟩
      rw [perform, Attempt.bind_ok (Attempt.onFirst_eq run c)]
      rfl
    · refine .inr ⟨e, c, ?_⟩
      rw [perform, Attempt.bind_error (Attempt.onFirst_eq run c)]
  | put attr d =>
    rcases put_outcome records attr d with ⟨b, run, recorded⟩ | ⟨e, run⟩
    · exact .inl ⟨b, c, Attempt.onFirst_eq run c, recorded⟩
    · exact .inr ⟨e, c, Attempt.onFirst_eq run c⟩
  | putLiteral attr enumeration literal =>
    cases asked : Catalog.codeOf enumeration literal c with
    | mk answer c' =>
      cases answer with
      | error e => exact .inr ⟨.catalog e, c', putLiteral_of_unknown asked w attr⟩
      | ok code =>
        rw [perform, putLiteral_of_known asked, changes, asked]
        rcases put_outcome records attr (.ofValue ⟨.scalar .enum, code⟩) with
          ⟨b, run, recorded⟩ | ⟨e, run⟩
        · rw [run]
          exact .inl ⟨b, c', rfl, recorded⟩
        · rw [run]
          exact .inr ⟨e, c', rfl⟩
  | append values =>
    rcases append_outcome records values with ⟨b, run, recorded⟩ | ⟨e, run⟩
    · refine .inl ⟨b, c, ?_, by simpa [changes] using recorded⟩
      rw [perform, Attempt.bind_ok (Attempt.onFirst_eq run c)]
      rfl
    · refine .inr ⟨e, c, ?_⟩
      rw [perform, Attempt.bind_error (Attempt.onFirst_eq run c)]

/-- An operation that changes anything leaves a row behind. -/
theorem changes_started (op : Operation) (c : C) (h : History) :
    op.changes c h = [] ∨ (op.changes c h ++ h).rowCount ≠ 0 := by
  have opened : (opening h ++ h).rowCount ≠ 0 := by
    rw [rowCount_opening]
    omega
  cases op with
  | startRow => exact .inr (Nat.succ_ne_zero _)
  | put attr d => exact .inr opened
  | putLiteral attr enumeration literal =>
    rw [changes]
    split
    · exact .inr opened
    · exact .inl rfl
  | append values =>
    rw [changes, List.append_assoc, History.rowCount_settings]
    exact .inr (Nat.succ_ne_zero _)

/-- Only codes are asked for. -/
theorem perform_keeps {known : C → Prop}
    (codes : ∀ enumeration literal, Attempt.Keeps known (Catalog.codeOf enumeration literal))
    (op : Operation) : Attempt.Keeps (fun s : Writer × C => known s.2) op.perform := by
  cases op with
  | startRow => exact (Attempt.Keeps.onFirst _).bind fun _ => .pure ()
  | put attr d => exact .onFirst _
  | putLiteral attr enumeration literal =>
    exact (((codes enumeration literal).mapError _).onSecond).bind fun code => .onFirst _
  | append values => exact (Attempt.Keeps.onFirst _).bind fun _ => .pure ()

end Operation

/-! ## Runs -/

/-- A writer in use, with the catalog it asks and the history of what succeeded. -/
structure Session (C : Type) where
  writer : Writer
  catalog : C
  history : History

namespace Session

variable {C : Type}

def ofWriter (entity : String) (options : WriteOptions) (c : C) : Session C :=
  ⟨.ofEntity entity options, c, []⟩

/-- What holds of a session of a new writer, whatever has been done in it. -/
structure Sound (entity : String) (options : WriteOptions) (known : C → Prop)
    (s : Session C) : Prop where
  entity : s.writer.entity = entity
  options : s.writer.options = options
  records : s.writer.batch.Records s.history
  known : known s.catalog

variable {entity : String} {options : WriteOptions} {known : C → Prop} {s : Session C}

theorem ofWriter_sound (entity : String) (options : WriteOptions) {c : C} (holds : known c) :
    Sound entity options known (ofWriter entity options c) :=
  ⟨rfl, rfl, Batch.records_empty, holds⟩

variable [Catalog C]

def step (s : Session C) (op : Operation) : Session C :=
  match op.perform (s.writer, s.catalog) with
  | (.ok _, w, c) => ⟨w, c, op.changes s.catalog s.history ++ s.history⟩
  | (.error _, w, c) => ⟨w, c, s.history⟩

def run (s : Session C) (ops : List Operation) : Session C := ops.foldl step s

theorem Sound.step (sound : Sound entity options known s)
    (codes : ∀ enumeration literal, Attempt.Keeps known (Catalog.codeOf enumeration literal))
    (op : Operation) : Sound entity options known (s.step op) := by
  have after := op.perform_keeps codes (s := (s.writer, s.catalog)) sound.known
  rcases op.perform_outcome sound.records s.catalog with ⟨b, c', run, recorded⟩ | ⟨e, c', run⟩
  · rw [run] at after
    rw [Session.step, run]
    exact ⟨sound.entity, sound.options, recorded, after⟩
  · rw [run] at after
    rw [Session.step, run]
    exact ⟨sound.entity, sound.options, sound.records, after⟩

theorem Sound.run (sound : Sound entity options known s)
    (codes : ∀ enumeration literal, Attempt.Keeps known (Catalog.codeOf enumeration literal))
    (ops : List Operation) : Sound entity options known (s.run ops) := by
  induction ops generalizing s with
  | nil => exact sound
  | cons op ops ih => exact ih (sound.step codes op)

/-- Nothing is set before there is a row. -/
theorem started_of_run (ops : List Operation)
    (started : s.history.attributes ≠ [] → s.history.rowCount ≠ 0) :
    (s.run ops).history.attributes ≠ [] → (s.run ops).history.rowCount ≠ 0 := by
  induction ops generalizing s with
  | nil => exact started
  | cons op ops ih =>
    apply ih (s := s.step op)
    rw [Session.step]
    split
    · rcases op.changes_started s.catalog s.history with none | rows
      · simpa [none] using started
      · exact fun _ => rows
    · exact started

end Session

end Writer

end PackedRecords
