import PackedRecords.Proofs.Layout.Entries
import PackedRecords.Proofs.Writer.Submission

/-!
Decoded records on their way to a store. If the catalog declares the fields of a layout as
what they decode to, nothing between a record and the store can fail or change it.

Proved here:

* `cell_of_records`: the cells of a batch of records are their entries;
* `showsField_of_shows`: the column of a field has the kind, the unit and the data of the
  field;
* on top of them, the commit of any number of records of one layout.
-/

namespace PackedRecords

open Batch (History)

/-- The catalog declares an attribute that is not the identity, whatever else it declares. -/
structure Catalog.Declares (C : Type) [Catalog C] (known : C → Prop) (entity attr : String)
    (kind : Kind) : Prop where
  isIdentity : Attempt.Gives known (Catalog.isIdentity (C := C) entity attr) (.ok false)
  kindOf : Attempt.Gives known (Catalog.kindOf (C := C) entity attr) (.ok kind)

namespace Layout

variable {fields : List Field} {records : List Record} {f : Field} {attr : String} {i : Nat}
  {d : Datum}

/-! ## Records as rows -/

/-- The answers that a catalog must have for the fields of a layout. -/
def declarations (fields : List Field) : Catalog.Answers where
  kind entity attr :=
    match fields.find? (·.name = attr) with
    | some f => .ok f.format.resultKind
    | none => .error (.unknownAttribute entity attr)
  identity _ _ := .ok false

theorem kind_declarations (distinct : (fields.map Field.name).Nodup) (there : f ∈ fields)
    (entity : String) :
    (declarations fields).kind entity f.name = .ok f.format.resultKind := by
  cases found : fields.find? (·.name = f.name) with
  | none =>
    have other := List.find?_eq_none.mp found f there
    simp at other
  | some g =>
    have same : g.name = f.name := by simpa using List.find?_some found
    obtain rfl := eq_of_name_eq distinct (List.mem_of_find?_eq_some found) there same
    simp only [declarations, found]

theorem cell_of_records (fits : ∀ record ∈ records, Fits fields record)
    (distinct : (fields.map Field.name).Nodup) :
    History.cell i attr (History.ofRows records) = some d ↔
      ∃ record, records[i]? = some record ∧ (attr, d) ∈ record := by
  rw [History.cell_ofRows, Option.bind_eq_some_iff]
  apply exists_congr
  intro record
  apply and_congr_right
  intro there
  exact (fits record (List.mem_of_getElem? there)).lookup_reverse_iff distinct

/-- The column has the field of every record, with the filler where that is not valid. -/
structure ShowsField (records : List Record) (f : Field) (column : Column) : Prop where
  kind : column.kind = f.format.resultKind
  values_kind : column.values.kind = column.kind
  unit : column.unit = f.format.unit
  validity_size : column.validity.size = records.length
  values_size : column.values.size = records.length
  entry : ∀ (i : Nat) (record : Record), records[i]? = some record →
    ∃ d : Datum, (f.name, d) ∈ record ∧ column.validity[i]? = some d.valid ∧
      column.values.toList[i]? =
        some (if d.valid then d.value else ⟨column.kind, column.kind.filler⟩)

end Layout

namespace Writer

open Layout (Fits ShowsField declarations)

variable {C S : Type} {known : C → Prop} {fields : List Field} {records : List Record}
  {entity : String} {w : Writer} {f : Field}

/-! ## Batches of records -/

/-- The batch has the records of a layout as its rows. -/
structure Gathers (fields : List Field) (records : List Record) (w : Writer) : Prop where
  distinct : (fields.map Field.name).Nodup
  fits : ∀ record ∈ records, Fits fields record
  recorded : w.batch.Records (History.ofRows records)

namespace Gathers

theorem exists_field (gathers : w.Gathers fields records) {attr : String}
    (mem : attr ∈ w.batch.attributes) : ∃ f ∈ fields, f.name = attr := by
  rw [gathers.recorded.attributes] at mem
  obtain ⟨record, row, named⟩ := (History.mem_attributes_ofRows records).mp mem
  exact (gathers.fits record row).mem_names.mp named

/-- Valid cells of a field have its kind and its unit. -/
theorem of_valid (gathers : w.Gathers fields records) (there : f ∈ fields) :
    ∀ cell ∈ w.batch.cells f.name, ∀ d, cell.valid? = some d →
      d.kind = f.format.resultKind ∧ d.unit = f.format.unit := by
  rw [cells_of_records gathers.recorded]
  intro cell mem d held
  obtain ⟨i, -, rfl⟩ := List.mem_map.mp mem
  obtain ⟨record, row, entry⟩ :=
    (Layout.cell_of_records gathers.fits gathers.distinct).mp (Cell.valid?_eq_some_iff.mp held).1
  exact (gathers.fits record (List.mem_of_getElem? row)).entries f there d entry

theorem accepted (gathers : w.Gathers fields records) :
    Accepted (declarations fields) w w.batch.attributes := by
  intro attr mem e
  obtain ⟨f, there, rfl⟩ := gathers.exists_field mem
  exact not_refused_of_fits rfl (Layout.kind_declarations gathers.distinct there w.entity)
    fun cell mem d held => (gathers.of_valid there cell mem d held).1

theorem answering [Catalog C] (gathers : w.Gathers fields records)
    (declared : ∀ f ∈ fields, Catalog.Declares C known w.entity f.name f.format.resultKind) :
    ∀ attr ∈ w.batch.attributes,
      Catalog.Answering C known (declarations fields) w.entity attr := by
  intro attr mem
  obtain ⟨f, there, rfl⟩ := gathers.exists_field mem
  constructor
  · rw [Layout.kind_declarations gathers.distinct there]
    exact (declared f there).kindOf
  · exact (declared f there).isIdentity

theorem showsField (gathers : w.Gathers fields records) (there : f ∈ fields) {column : Column}
    (taken : Taken (declarations fields) w.entity f.name (w.batch.cells f.name) column) :
    ShowsField records f column := by
  have shows := shows_of_holds gathers.recorded taken.holds
  have count := History.rowCount_ofRows records
  constructor
  case kind =>
    have kind := Layout.kind_declarations gathers.distinct there w.entity
    exact Except.ok.inj (taken.kind.symm.trans kind)
  case values_kind => exact shows.kind
  case validity_size => exact shows.validity_size.trans count
  case values_size => exact shows.values_size.trans count
  case unit =>
    obtain ⟨i, d, first⟩ := taken.valid
    exact taken.holds.unit_eq first fun cell mem d held =>
      (gathers.of_valid there cell mem d held).2
  case entry =>
    intro i record row
    obtain ⟨d, mem⟩ := (gathers.fits record (List.mem_of_getElem? row)).exists_entry there
    have here := (Layout.cell_of_records gathers.fits gathers.distinct).mpr ⟨record, row, mem⟩
    refine ⟨d, mem, ?_⟩
    cases valid : d.valid with
    | true => exact (shows.valid i d here valid).2
    | false =>
      refine shows.invalid i (lt_of_cell here) fun e also => ?_
      rw [here] at also
      cases also
      exact valid

/-- There is a column for each field that is valid in some record, and for nothing else. -/
theorem column_iff (gathers : w.Gathers fields records) {request : Submission}
    (prepared : Prepared (declarations fields) w request) (attr : String) :
    (∃ column, request.columns.get? attr = some column) ↔
      ∃ f ∈ fields, f.name = attr ∧
        ∃ record ∈ records, ∃ d, (f.name, d) ∈ record ∧ d.valid = true := by
  rw [column_of_prepared gathers.recorded prepared gathers.accepted]
  constructor
  · rintro ⟨-, i, d, here, valid⟩
    obtain ⟨record, row, mem⟩ := (Layout.cell_of_records gathers.fits gathers.distinct).mp here
    have row := List.mem_of_getElem? row
    obtain ⟨f, there, rfl⟩ :=
      (gathers.fits record row).mem_names.mp (List.mem_map.mpr ⟨_, mem, rfl⟩)
    exact ⟨f, there, rfl, record, row, d, mem, valid⟩
  · rintro ⟨f, -, rfl, record, row, d, mem, valid⟩
    obtain ⟨i, row⟩ := List.mem_iff_getElem?.mp row
    exact ⟨nofun, i, d, (Layout.cell_of_records gathers.fits gathers.distinct).mpr
      ⟨record, row, mem⟩, valid⟩

end Gathers

/-! ## Commits of records -/

/-- An outcome is the reply of the store, or says that the reply has another length. -/
theorem cause_of_outcome {request : Submission} {reply : Except StoreFault (List Nat)}
    {e : BatchFault} (failed : outcome request reply = .error e) :
    (∃ cause, e = .store cause) ∨ ∃ expected actual, e = .identifierCount expected actual := by
  cases reply with
  | error cause =>
    cases failed
    exact .inl ⟨cause, rfl⟩
  | ok ids =>
    rw [outcome] at failed
    split at failed
    · cases failed
    · cases failed
      exact .inr ⟨_, _, rfl⟩

/-- Any number of records of one layout, appended to a new writer, reach the store in one
request, if the catalog declares the fields as what they decode to. The request has a column
for each field that is valid in some record, and the column shows the field of every record.
Only the store, or the length of its reply, can make the commit fail. -/
theorem commit_of_records [Catalog C] [Store S] {l : Layout}
    (accepted : Layout.ofFields fields = .ok l) (nonempty : fields ≠ [])
    (declared : ∀ f ∈ fields, Catalog.Declares C known entity f.name f.format.resultKind)
    (present : records ≠ []) (read : ∀ record ∈ records, ∃ c, (l.readRecord c).1 = .ok record)
    {c : C} (start : known c) (s : S) :
    (fields.map Field.name).Nodup ∧
    (∀ record ∈ records, record.map Prod.fst = fields.map Field.name) ∧
    ∃ w, records.mapM append (ofEntity entity {}) = (.ok (List.range records.length), w) ∧
      w.commit (c, s) = ((w.commitLogged c s).1, (w.commitLogged c s).2.1.state,
        (w.commitLogged c s).2.2.state) ∧
      (∀ e, (w.commitLogged c s).1 = .error e →
        (∃ cause, e = .store cause) ∨ ∃ expected actual, e = .identifierCount expected actual) ∧
      ∃ request, (w.commitLogged c s).2.2 = ⟨(Store.insert request s).2, [request]⟩ ∧
        (w.commitLogged c s).1 = outcome request (Store.insert request s).1 ∧
        request.entity = entity ∧ request.rowCount = records.length ∧
        (∀ attr, (∃ column, request.columns.get? attr = some column) ↔
          ∃ f ∈ fields, f.name = attr ∧
            ∃ record ∈ records, ∃ d, (f.name, d) ∈ record ∧ d.valid = true) ∧
        ∀ f ∈ fields, ∀ column, request.columns.get? f.name = some column →
          ShowsField records f column := by
  have distinct := Layout.names_nodup accepted
  obtain ⟨b, run, recorded⟩ :=
    mapM_append (w := ofEntity entity {}) rfl Batch.records_empty records
  let w : Writer := { ofEntity entity {} with batch := b }
  have gathers : w.Gathers fields records := by
    refine ⟨distinct, fun record row => ?_, recorded⟩
    obtain ⟨c, read⟩ := read record row
    exact Layout.fits_of_readRecord accepted read
  have rows : w.batch.rowCount ≠ 0 := by
    rw [recorded.rowCount, History.rowCount_ofRows]
    exact fun none => present (List.length_eq_zero_iff.mp none)
  have data : w.batch.attributes ≠ [] := by
    obtain ⟨f, there⟩ := List.exists_mem_of_ne_nil fields nonempty
    obtain ⟨record, row⟩ := List.exists_mem_of_ne_nil records present
    rw [recorded.attributes]
    exact List.ne_nil_of_mem ((History.mem_attributes_ofRows records).mpr
      ⟨record, row, (gathers.fits record row).mem_names.mpr ⟨f, there, rfl⟩⟩)
  obtain ⟨request, c', prepared, -, committed⟩ :=
    commitLogged_of_answering (gathers.answering declared) rows data gathers.accepted start s
  refine ⟨distinct, fun record row => (gathers.fits record row).names, w, run,
    commit_eq_commitLogged w c s, ?_⟩
  rw [committed]
  refine ⟨fun e => cause_of_outcome, request, rfl, rfl, prepared.entity, ?_,
    gathers.column_iff prepared, fun f there column found => ?_⟩
  · rw [prepared.rowCount, recorded.rowCount, History.rowCount_ofRows]
  · exact gathers.showsField there ((prepared.columns f.name column).mp found).2

private def gaugeFields : List Field :=
  [⟨"level", 4, { kind := .scalar .int, bits := 12, nullValue := some 0xFFF, unit := some "m" }⟩,
    ⟨"flags", 0, { kind := .scalar .byte, bits := 4, count := some 2 }⟩]

private def gaugeCatalog : Dictionary :=
  Dictionary.empty.addEntity
    ((((Entity.ofName "gauge").declare ⟨"id", .scalar .long, true⟩).declare
      ⟨"level", .scalar .int, false⟩).declare ⟨"flags", .sequence .byte, false⟩)

private def gaugeRecords : List Record :=
  [[("level", ⟨⟨.scalar .int, (42 : Int32)⟩, true, some "m"⟩),
      ("flags", ⟨⟨.sequence .byte, [(1 : UInt8), 2]⟩, true, none⟩)],
    [("level", ⟨⟨.scalar .int, (0 : Int32)⟩, false, some "m"⟩),
      ("flags", ⟨⟨.sequence .byte, [(0 : UInt8), 15]⟩, true, none⟩)]]

/-- Two records, the second with a null in its first field, on their way to a store. -/
theorem commit_of_gauge_records :
    ∃ w request level,
      gaugeRecords.mapM append (ofEntity "gauge" {}) = (.ok [0, 1], w) ∧
      (w.commitLogged (CachedCatalog.ofSource gaugeCatalog) MemoryStore.empty).2.2.log =
        [request] ∧
      request.rowCount = 2 ∧
      request.columns.get? "level" = some level ∧
      level.unit = some "m" ∧
      level.values.toList[0]? = some ⟨.scalar .int, (42 : Int32)⟩ ∧
      level.validity[1]? = some false ∧
      ∃ flags, request.columns.get? "flags" = some flags ∧ flags.kind = .sequence .byte := by
  have accepted : Layout.ofFields gaugeFields = .ok ⟨gaugeFields, 24⟩ := by decide
  have steady := CachedCatalog.faithful_steady gaugeCatalog
  have declared : ∀ f ∈ gaugeFields, Catalog.Declares (CachedCatalog Dictionary)
      (CachedCatalog.Faithful gaugeCatalog) "gauge" f.name f.format.resultKind := by
    intro f there
    rcases List.mem_cons.mp there with rfl | there
    · exact ⟨steady.isIdentity "gauge" "level", steady.kindOf "gauge" "level"⟩
    · obtain rfl := List.mem_singleton.mp there
      exact ⟨steady.isIdentity "gauge" "flags", steady.kindOf "gauge" "flags"⟩
  have read : ∀ record ∈ gaugeRecords,
      ∃ c, ((Layout.mk gaugeFields 24).readRecord c).1 = .ok record := by
    intro record row
    rcases List.mem_cons.mp row with rfl | row
    · exact ⟨.ofBytes [0x00, 0x2A, 0x12], rfl⟩
    · obtain rfl := List.mem_singleton.mp row
      exact ⟨.ofBytes [0x0F, 0xFF, 0x0F], rfl⟩
  obtain ⟨-, -, w, appended, -, -, request, asked, -, -, rows, columns, shows⟩ :=
    commit_of_records accepted (by decide) declared (by decide) read
      (CachedCatalog.ofSource_faithful gaugeCatalog) MemoryStore.empty
  obtain ⟨level, found⟩ := (columns "level").mpr
    ⟨gaugeFields[0], List.mem_cons_self, rfl, gaugeRecords[0], List.mem_cons_self, _,
      List.mem_cons_self, rfl⟩
  obtain ⟨flags, found'⟩ := (columns "flags").mpr
    ⟨gaugeFields[1], List.mem_of_getElem? (i := 1) rfl, rfl, gaugeRecords[0],
      List.mem_cons_self, _, List.mem_of_getElem? (i := 1) rfl, rfl⟩
  have first := shows gaugeFields[0] List.mem_cons_self level found
  have second := shows gaugeFields[1] (List.mem_of_getElem? (i := 1) rfl) flags found'
  obtain ⟨d, mem, -, value⟩ := first.entry 0 _ rfl
  obtain ⟨e, mem', validity, -⟩ := first.entry 1 _ rfl
  obtain rfl : d = ⟨⟨.scalar .int, (42 : Int32)⟩, true, some "m"⟩ := by
    simpa [gaugeFields] using mem
  obtain rfl : e = ⟨⟨.scalar .int, (0 : Int32)⟩, false, some "m"⟩ := by
    simpa [gaugeFields] using mem'
  exact ⟨w, request, level, appended, congrArg Logged.log asked, rows, found, first.unit, value,
    validity, flags, found', second.kind⟩

end Writer

end PackedRecords
