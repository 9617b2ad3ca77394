import PackedRecords.Proofs.Column.Cells

/-!
Building a column, from any cells and for any kind. A column grows a row at a time, and
four things grow with it; each cell decides over its row alone, and over the unit.

Proved here:

* `ofCells_eq_ok_iff`, `ofCells_eq_error_iff`: the column of the cells, or the first cell
  that there can be none for;
* `ofCells_row`: what a column shows in each row;
* `push_of_ofCells`: of the two looks at the kind of a datum the second finds nothing;
* `ofCells_firstKind`, `ofCells_of_other`: which kinds a column of the cells can have;
* on top of them, everything that can come of cells and a kind.
-/

namespace PackedRecords.Column

variable {attr : String} {c : Column} {k k' : Kind} {cell : Cell} {cells before : List Cell}
  {i : Nat} {d : Datum}

/-- Whatever the cells validly hold is of one kind. -/
def OneKind (cells : List Cell) : Prop :=
  ∀ cell ∈ cells, ∀ cell' ∈ cells, ∀ d d',
    cell.valid? = some d → cell'.valid? = some d' → d.kind = d'.kind

/-! ## Outcomes -/

theorem ofCells_eq_error_iff {e : BatchFault} :
    ofCells attr k cells = .error e ↔
      ∃ i d, FirstValid (·.kind ≠ k) cells i d ∧ e = .mixedKinds attr k d.kind i := by
  constructor
  · intro failed
    rcases exists_misfit_or_fits k cells with ⟨i, d, misfit⟩ | fits
    · cases (ofCells_of_misfit attr misfit).symm.trans failed
      exact ⟨i, d, misfit, rfl⟩
    · obtain ⟨c, built, -⟩ := ofCells_of_fits attr fits
      cases built.symm.trans failed
  · rintro ⟨i, d, misfit, rfl⟩
    exact ofCells_of_misfit attr misfit

theorem ofCells_eq_ok_iff :
    ofCells attr k cells = .ok c ↔
      (∀ cell ∈ cells, cell.Fits k) ∧ c.kind = k ∧ c.Holds cells := by
  constructor
  · intro built
    rcases exists_misfit_or_fits k cells with ⟨i, d, misfit⟩ | fits
    · cases (ofCells_of_misfit attr misfit).symm.trans built
    · obtain ⟨c', built', kind, holds⟩ := ofCells_of_fits attr fits
      cases built'.symm.trans built
      exact ⟨fits, kind, holds⟩
  · rintro ⟨fits, kind, holds⟩
    obtain ⟨c', built, kind', holds'⟩ := ofCells_of_fits attr fits
    rw [built, holds'.unique holds (kind'.trans kind.symm)]

theorem fits_of_ofCells (built : ofCells attr k cells = .ok c) : ∀ cell ∈ cells, cell.Fits k :=
  (ofCells_eq_ok_iff.mp built).1

/-! ## Rows -/

/-- The column shows the cell in row `i`: the value of a valid datum, and for any other cell the
filler. -/
structure ShowsRow (c : Column) (i : Nat) (cell : Cell) : Prop where
  valid : ∀ d, cell.valid? = some d →
    c.validity[i]? = some true ∧ c.values.toList[i]? = some d.value
  null : cell.valid? = none →
    c.validity[i]? = some false ∧ c.values.toList[i]? = some ⟨c.kind, c.kind.filler⟩

theorem ofCells_row (built : ofCells attr k cells = .ok c) (there : cells[i]? = some cell) :
    c.ShowsRow i cell := by
  obtain ⟨-, -, holds⟩ := ofCells_eq_ok_iff.mp built
  have flag := holds.validity_eq there
  have value := holds.value_eq there
  constructor
  · intro d valid
    rw [valid] at flag
    rw [Cell.shown, valid] at value
    exact ⟨flag, value⟩
  · intro null
    rw [null] at flag
    rw [Cell.shown, null] at value
    exact ⟨flag, value⟩

/-- A datum of the kind of a column is of the kind of its series, which takes it. -/
theorem push_of_ofCells (built : ofCells attr k before = .ok c) (kind : d.kind = k) :
    ∃ values, c.values.push d.value = .ok values := by
  obtain ⟨-, rfl, holds⟩ := ofCells_eq_ok_iff.mp built
  cases push : c.values.push d.value with
  | ok values => exact ⟨values, rfl⟩
  | error v => exact absurd (kind.trans holds.series.symm) (Series.push_eq_error_iff.mp push).1

/-! ## Kinds -/

/-- The first kind is that of some valid datum. -/
theorem exists_of_firstKind (leading : firstKind cells = some k) :
    ∃ d, some d ∈ cells ∧ Cell.valid? (some d) = some d ∧ d.kind = k := by
  rcases FirstValid.exists_or_null cells with ⟨i, d, first⟩ | null
  · rw [firstKind_of_first first] at leading
    cases leading
    exact ⟨d, first.mem, first.valid?_eq, rfl⟩
  · rw [firstKind_eq_none_iff.mpr null] at leading
    cases leading

theorem ofCells_firstKind (attr : String) (leading : firstKind cells = some k) :
    (∃ c, ofCells attr k cells = .ok c) ↔ OneKind cells := by
  constructor
  · rintro ⟨c, built⟩ cell mem cell' mem' d d' valid valid'
    have fits := fits_of_ofCells built
    exact (fits cell mem d valid).trans (fits cell' mem' d' valid').symm
  · intro one
    obtain ⟨d, mem, valid, rfl⟩ := exists_of_firstKind leading
    obtain ⟨c, built, -⟩ := ofCells_of_fits attr fun cell there e found =>
      one cell there (some d) mem e d found valid
    exact ⟨c, built⟩

theorem ofCells_of_other (attr : String) (leading : firstKind cells = some k) (other : k' ≠ k) :
    ∃ e, ofCells attr k' cells = .error e := by
  cases built : ofCells attr k' cells with
  | error e => exact ⟨e, rfl⟩
  | ok c =>
    obtain ⟨d, mem, valid, kind⟩ := exists_of_firstKind leading
    exact absurd ((fits_of_ofCells built _ mem d valid).symm.trans kind) other

/-- Cells make a column of a kind unless one of them validly holds something of another kind; the
first to do so is reported. The column has a row for each cell, and of those that are valid the
first unit. The series takes every datum that it is handed. Unless there is nothing valid, the
first kind is the only one that the column can have, and does have if there is no other. -/
theorem ofCells_construction (attr : String) (k : Kind) (cells : List Cell) :
    (∀ e, ofCells attr k cells = .error e ↔
      ∃ i d, FirstValid (·.kind ≠ k) cells i d ∧ e = .mixedKinds attr k d.kind i) ∧
    ((∃ c, ofCells attr k cells = .ok c) ↔ ∀ cell ∈ cells, cell.Fits k) ∧
    (∀ c, ofCells attr k cells = .ok c →
      c.kind = k ∧ c.values.kind = k ∧
      c.validity.size = cells.length ∧ c.values.size = cells.length ∧
      (∀ (i : Nat) (cell : Cell), cells[i]? = some cell → c.ShowsRow i cell) ∧
      c.unit = cells.findSome? Cell.unit?) ∧
    (∀ before d after c, cells = before ++ some d :: after → ofCells attr k before = .ok c →
      d.kind = k → ∃ values, c.values.push d.value = .ok values) ∧
    (firstKind cells = none ↔ ∀ cell ∈ cells, cell.valid? = none) ∧
    (∀ leading, firstKind cells = some leading →
      ((∃ c, ofCells attr leading cells = .ok c) ↔ OneKind cells) ∧
      ∀ other, other ≠ leading → ∃ e, ofCells attr other cells = .error e) := by
  refine ⟨fun e => ofCells_eq_error_iff, ⟨?_, fun fits => ?_⟩, fun c built => ?column,
    fun before d after c _ built kind => push_of_ofCells built kind, firstKind_eq_none_iff,
    fun leading found => ⟨ofCells_firstKind attr found, fun other different =>
      ofCells_of_other attr found different⟩⟩
  · rintro ⟨c, built⟩
    exact fits_of_ofCells built
  · obtain ⟨c, built, -⟩ := ofCells_of_fits attr fits
    exact ⟨c, built⟩
  case column =>
    obtain ⟨-, kind, holds⟩ := ofCells_eq_ok_iff.mp built
    exact ⟨kind, holds.series.trans kind, holds.size_eq, holds.values_size_eq,
      fun i cell there => ofCells_row built there, holds.unit⟩

private def volts : List Cell :=
  [none, some (.null (.scalar .short)), some (.ofValue ⟨.scalar .int, 7⟩),
    some ((Datum.ofValue ⟨.scalar .int, 9⟩).inUnit "V")]

/-- A row that is missing, a null of another kind, and two integers, only the second of them with
a unit; and the same with a truth value behind them. -/
theorem ofCells_of_volts :
    firstKind volts = some (.scalar .int) ∧
    (∃ c, ofCells "u" (.scalar .int) volts = .ok c ∧ c.unit = some "V" ∧
      c.validity[1]? = some false ∧ c.values.toList[1]? = some ⟨.scalar .int, 0⟩ ∧
      c.validity[2]? = some true ∧ c.values.toList[2]? = some ⟨.scalar .int, 7⟩) ∧
    (∃ e, ofCells "u" (.scalar .short) volts = .error e) ∧
    (∃ values, (empty (.scalar .int)).addNull.values.push ⟨.scalar .int, 7⟩ = .ok values) ∧
    ofCells "u" (.scalar .int) (volts ++ [some (.ofValue ⟨.scalar .boolean, true⟩)]) =
      .error (.mixedKinds "u" (.scalar .int) (.scalar .boolean) 4) := by
  have leading : firstKind volts = some (.scalar .int) := by rfl
  have fits : ∀ cell ∈ volts, cell.Fits (.scalar .int) := by
    simp [volts, Cell.Fits, Cell.valid?, Datum.null, Datum.ofValue, Datum.inUnit, Datum.kind]
  obtain ⟨-, makes, column, -, -, kinds⟩ := ofCells_construction "u" (.scalar .int) volts
  obtain ⟨c, built⟩ := makes.mpr fits
  obtain ⟨kind, -, -, -, rows, unit⟩ := column c built
  have null := (rows 1 _ rfl).null rfl
  rw [kind] at null
  refine ⟨leading, ⟨c, built, unit, null.1, null.2, (rows 2 _ rfl).valid _ rfl⟩,
    (kinds _ leading).2 _ (by decide), ?_, ?_⟩
  · have pushes := (ofCells_construction "u" (.scalar .int)
      [none, some (.ofValue ⟨.scalar .int, 7⟩)]).2.2.2.1
    exact pushes [none] _ [] _ rfl rfl rfl
  · refine ((ofCells_construction "u" _ _).1 _).mpr ⟨4, _, ⟨rfl, rfl, by decide, ?_⟩, rfl⟩
    intro j cell e below there valid
    have mem : cell ∈ volts := by
      rw [List.getElem?_append_left below] at there
      exact List.mem_of_getElem? there
    exact absurd (fits cell mem e valid)

end PackedRecords.Column
