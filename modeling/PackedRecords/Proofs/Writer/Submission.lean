import PackedRecords.Proofs.Writer.Commit
import PackedRecords.Proofs.Writer.Run

/-!
What reaches the store, against the history of the writer. Rows, columns and their cells
are what the last successful operations on them made them, whatever failed in between.

Proved here:

* `shows_of_holds`: a column of the transposed cells shows what the history has;
* `column_of_prepared`: which attributes a request has a column for;
* on top of them, the request of a commit at the end of any run.
-/

namespace PackedRecords.Writer

open Batch (History)

variable {C S : Type} {known : C → Prop} {answers : Catalog.Answers} {entity attr : String}
  {options : WriteOptions} {column : Column} {h : History} {w : Writer} {i : Nat} {d : Datum}

/-- The column has a row for each row of the history: the last value set there, if it is
valid, and the filler otherwise. -/
structure Shows (h : History) (attr : String) (column : Column) : Prop where
  kind : column.values.kind = column.kind
  validity_size : column.validity.size = h.rowCount
  values_size : column.values.size = h.rowCount
  valid : ∀ i d, h.cell i attr = some d → d.valid = true → d.kind = column.kind ∧
    column.validity[i]? = some true ∧ column.values.toList[i]? = some d.value
  invalid : ∀ i, i < h.rowCount → (∀ d, h.cell i attr = some d → d.valid = false) →
    column.validity[i]? = some false ∧
      column.values.toList[i]? = some ⟨column.kind, column.kind.filler⟩
  unit : column.unit = (List.range h.rowCount).findSome? fun i => (h.cell i attr).unit?

theorem cells_of_records (records : w.batch.Records h) (attr : String) :
    w.batch.cells attr = (List.range h.rowCount).map (h.cell · attr) := by
  rw [Batch.cells_eq, records.rowCount]
  exact List.map_congr_left fun i _ => records.cell i attr

theorem cell_of_records (records : w.batch.Records h) (inside : i < h.rowCount) (attr : String) :
    (w.batch.cells attr)[i]? = some (h.cell i attr) := by
  rw [cells_of_records records, List.getElem?_map, List.getElem?_range inside]
  rfl

theorem lt_of_cell (there : h.cell i attr = some d) : i < h.rowCount := by
  apply Nat.not_le.mp
  intro outside
  rw [History.cell_of_le outside] at there
  cases there

theorem cell_of_first {p : Datum → Prop} (records : w.batch.Records h)
    (first : FirstValid p (w.batch.cells attr) i d) : h.cell i attr = some d := by
  have inside : i < h.rowCount := by
    have := (List.getElem?_eq_some_iff.mp first.here).1
    simpa [cells_of_records records] using this
  exact Option.some.inj ((cell_of_records records inside attr).symm.trans first.here)

theorem shows_of_holds (records : w.batch.Records h) (holds : column.Holds (w.batch.cells attr)) :
    Shows h attr column := by
  have rows : (w.batch.cells attr).length = h.rowCount := by simp [cells_of_records records]
  constructor
  case kind => exact holds.series
  case validity_size => exact holds.size_eq.trans rows
  case values_size => exact holds.values_size_eq.trans rows
  case valid =>
    intro i d there valid
    have here := cell_of_records records (lt_of_cell there) attr
    rw [there] at here
    have shown : Cell.valid? (some d) = some d := Cell.valid?_eq_some_iff.mpr ⟨rfl, valid⟩
    refine ⟨holds.fits _ (List.mem_of_getElem? here) d shown, ?_, ?_⟩
    · rw [holds.validity_eq here, shown]
      rfl
    · rw [holds.value_eq here, Cell.shown, shown]
  case invalid =>
    intro i inside invalid
    have here := cell_of_records records inside attr
    have null : (h.cell i attr).valid? = none := by
      apply Option.eq_none_iff_forall_ne_some.mpr
      intro d valid
      obtain ⟨there, valid⟩ := Cell.valid?_eq_some_iff.mp valid
      rw [invalid d there] at valid
      cases valid
    rw [holds.validity_eq here, holds.value_eq here, Cell.shown, null]
    exact ⟨rfl, rfl⟩
  case unit =>
    rw [holds.unit, cells_of_records records, List.findSome?_map]
    rfl

/-! ## Requests -/

/-- A prepared request has a column for an attribute exactly if it is not the identity and a
valid value was last set for it in some row. -/
theorem column_of_prepared {request : Submission} (records : w.batch.Records h)
    (prepared : Prepared answers w request)
    (accepted : Accepted answers w w.batch.attributes) :
    (∃ column, request.columns.get? attr = some column) ↔
      answers.identity w.entity attr ≠ .ok true ∧
        ∃ i d, h.cell i attr = some d ∧ d.valid = true := by
  constructor
  · rintro ⟨column, found⟩
    obtain ⟨-, taken⟩ := (prepared.columns attr column).mp found
    obtain ⟨i, d, first⟩ := taken.valid
    exact ⟨by simp [taken.identity], i, d, cell_of_first records first, first.valid⟩
  · rintro ⟨other, i, d, there, valid⟩
    have here := cell_of_records records (lt_of_cell there) attr
    rw [there] at here
    have mem : attr ∈ w.batch.attributes := by
      rw [records.attributes]
      exact History.mem_attributes_of_cell there
    rcases passed_or_taken_or_refused answers w.entity attr (w.batch.cells attr) with
      (invalid | ⟨-, identity⟩) | ⟨column, taken⟩ | ⟨e, refused⟩
    · have null := invalid _ (List.mem_of_getElem? here)
      rw [Cell.valid?_eq_some_iff.mpr ⟨rfl, valid⟩] at null
      cases null
    · exact absurd identity other
    · exact ⟨column, (prepared.columns attr column).mpr ⟨mem, taken⟩⟩
    · exact absurd refused (accepted attr mem e)

/-- After any run, a commit submits at most one request, and that shows the history of the
run: all its rows, and for each attribute with a valid value, the identity apart, a column
of the declared kind. -/
theorem submission_of_run [Catalog C] [Store S] (steady : Catalog.Steady C known answers)
    (entity : String) (options : WriteOptions) (ops : List Operation) {c : C} (start : known c)
    (s : S) (session : Session C) (reached : session = (Session.ofWriter entity options c).run ops) :
    session.writer.commit (session.catalog, s) =
      ((session.writer.commitLogged session.catalog s).1,
        (session.writer.commitLogged session.catalog s).2.1.state,
        (session.writer.commitLogged session.catalog s).2.2.state) ∧
    ((session.writer.commitLogged session.catalog s).2.2.log = [] ∨
      ∃ request, (session.writer.commitLogged session.catalog s).2.2.log = [request] ∧
        request.entity = entity ∧
        request.rowCount = session.history.rowCount ∧
        ∀ attr,
          ((∃ column, request.columns.get? attr = some column) ↔
            answers.identity entity attr ≠ .ok true ∧
              ∃ i d, session.history.cell i attr = some d ∧ d.valid = true) ∧
          ∀ column, request.columns.get? attr = some column →
            answers.kind entity attr = .ok column.kind ∧
              Shows session.history attr column) := by
  have sound : session.Sound entity options known := by
    rw [reached]
    exact (Session.ofWriter_sound entity options start).run steady.codeOf ops
  refine ⟨commit_eq_commitLogged _ _ s, ?_⟩
  by_cases idle : session.writer.batch.rowCount = 0 ∨ session.writer.batch.attributes = []
  · rw [commitLogged_of_idle idle]
    exact .inl rfl
  obtain ⟨rows, data⟩ := not_or.mp idle
  rcases accepted_or_refused answers session.writer session.writer.batch.attributes with
    accepted | ⟨before, attr, after, e, order, accepted, refused⟩
  · obtain ⟨request, c', prepared, -, run⟩ :=
      commitLogged_of_accepted steady rows data accepted sound.known s
    rw [run]
    refine .inr ⟨request, rfl, prepared.entity.trans sound.entity,
      prepared.rowCount.trans sound.records.rowCount, ?_⟩
    intro attr
    constructor
    · rw [← sound.entity]
      exact column_of_prepared sound.records prepared accepted
    · intro column found
      obtain ⟨-, taken⟩ := (prepared.columns attr column).mp found
      exact ⟨sound.entity ▸ taken.kind, shows_of_holds sound.records taken.holds⟩
  · obtain ⟨c', run, -⟩ :=
      commitLogged_of_refused steady rows order accepted refused sound.known s
    rw [run]
    exact .inl rfl

private def gauges : Dictionary :=
  Dictionary.empty.addEntity
    (((Entity.ofName "gauge").declare ⟨"id", .scalar .long, true⟩).declare
      ⟨"depth", .scalar .int, false⟩)

private def soundings : Session (CachedCatalog Dictionary) :=
  (Session.ofWriter "gauge" { rowLimit := some 2 } (.ofSource gauges)).run
    [.put "depth" (.ofValue ⟨.scalar .int, 3⟩),
      .put "depth" (.ofValue ⟨.scalar .int, 5⟩),
      .putLiteral "depth" "state" "dry",
      .append [("id", .ofValue ⟨.scalar .long, 1⟩), ("depth", .null (.scalar .short))],
      .startRow]

/-- A value set twice, a literal that nothing declares, a null of another kind and a row too
many: the last valid depth is submitted, and a filler. -/
theorem submission_of_soundings :
    ∃ request column,
      (soundings.writer.commitLogged soundings.catalog MemoryStore.empty).2.2.log = [request] ∧
      request.rowCount = 2 ∧
      request.columns.get? "id" = none ∧
      request.columns.get? "depth" = some column ∧
      column.values.toList[0]? = some ⟨.scalar .int, 5⟩ ∧
      column.validity[1]? = some false := by
  obtain ⟨-, unasked | ⟨request, asked, -, rows, columns⟩⟩ :=
    submission_of_run (CachedCatalog.faithful_steady gauges) "gauge" _ _
      (CachedCatalog.ofSource_faithful gauges) MemoryStore.empty soundings rfl
  · have once : (soundings.writer.commitLogged soundings.catalog
        MemoryStore.empty).2.2.log.length = 1 := rfl
    rw [unasked] at once
    cases once
  · obtain ⟨column, found⟩ := (columns "depth").1.mpr ⟨nofun, 0, _, rfl, rfl⟩
    have shows := ((columns "depth").2 column found).2
    have identity : request.columns.get? "id" = none :=
      Option.eq_none_iff_forall_ne_some.mpr fun other there =>
        ((columns "id").1.mp ⟨other, there⟩).1 rfl
    refine ⟨request, column, asked, rows, identity, found, (shows.valid 0 _ rfl rfl).2.2,
      (shows.invalid 1 (by decide) fun d there => ?_).1⟩
    cases there
    rfl

end PackedRecords.Writer
