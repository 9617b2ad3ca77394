import PackedRecords.Proofs.Writer.Submission

/-!
Writers that hold the same valid values. How the values got there, what they replaced and
what stands in the cells that hold none make no difference to a commit.

Proved here:

* `FirstValid.of_same`, `Column.Holds.of_same`: what is said of cells by their valid values
  carries over to other cells with the same;
* `Refused.of_same`, `Taken.of_same`: so do the verdicts on an attribute;
* `Prepared.unique`: so does the whole request;
* on top of them, commits at the ends of any two runs.
-/

namespace PackedRecords

/-! ## Lists of cells -/

/-- The lists have the same valid values in the same rows. -/
def SameValid (cells cells' : List Cell) : Prop :=
  cells.map Cell.valid? = cells'.map Cell.valid?

variable {cells cells' : List Cell} {cell : Cell} {i : Nat} {d : Datum}

namespace SameValid

theorem symm (same : SameValid cells cells') : SameValid cells' cells := Eq.symm same

theorem getElem? (same : SameValid cells cells') (there : cells'[i]? = some cell) :
    ∃ other, cells[i]? = some other ∧ other.valid? = cell.valid? := by
  have row := congrArg (fun l : List (Option Datum) => l[i]?) same
  simp only [List.getElem?_map, there, Option.map_some, Option.map_eq_some_iff] at row
  exact row

theorem mem (same : SameValid cells cells') (there : cell ∈ cells') :
    ∃ other ∈ cells, other.valid? = cell.valid? := by
  obtain ⟨i, here⟩ := List.mem_iff_getElem?.mp there
  obtain ⟨other, found, eq⟩ := same.getElem? here
  exact ⟨other, List.mem_of_getElem? found, eq⟩

/-- Whatever is computed from the valid values alone is the same. -/
theorem map_eq {α : Type} (same : SameValid cells cells') (f : Option Datum → α) :
    cells.map (fun cell => f cell.valid?) = cells'.map (fun cell => f cell.valid?) := by
  simpa [List.map_map, Function.comp_def] using congrArg (List.map f) same

end SameValid

theorem FirstValid.of_same {p : Datum → Prop} (same : SameValid cells cells')
    (h : FirstValid p cells i d) : FirstValid p cells' i d where
  here := by
    obtain ⟨other, there, valid⟩ := same.symm.getElem? h.here
    rw [h.valid?_eq] at valid
    rw [there, (Cell.valid?_eq_some_iff.mp valid).1]
  valid := h.valid
  holds := h.holds
  before := by
    intro j cell e below there valid
    obtain ⟨other, here, eq⟩ := same.getElem? there
    exact h.before j other e below here (eq.trans valid)

theorem Column.Holds.of_same {c : Column} (same : SameValid cells cells') (h : c.Holds cells) :
    c.Holds cells' where
  series := h.series
  fits := by
    intro cell mem d valid
    obtain ⟨other, there, eq⟩ := same.mem mem
    exact h.fits other there d (eq.trans valid)
  validity := h.validity.trans (same.map_eq Option.isSome)
  values := by
    rw [h.values, funext (Cell.shown_eq c.kind)]
    exact same.map_eq fun valid => (valid.map Datum.value).getD ⟨c.kind, c.kind.filler⟩
  unit := by
    have units := congrArg (List.findSome? id) (same.map_eq (·.bind (·.unit)))
    simp only [List.findSome?_map, Function.comp_def, id] at units
    exact h.unit.trans units

namespace Writer

/-! ## Verdicts -/

variable {answers : Catalog.Answers} {entity attr : String} {c : Column} {e : BatchFault}

theorem Refused.of_same (same : SameValid cells cells') (h : Refused answers entity attr cells e) :
    Refused answers entity attr cells' e := by
  cases h with
  | identity first identity => exact .identity (first.of_same same) identity
  | kind first identity kind => exact .kind (first.of_same same) identity kind
  | mismatch first identity kind other =>
    exact .mismatch (first.of_same same) identity kind other
  | mixed first identity kind eq misfit =>
    exact .mixed (first.of_same same) identity kind eq (misfit.of_same same)

theorem Taken.of_same (same : SameValid cells cells') (h : Taken answers entity attr cells c) :
    Taken answers entity attr cells' c where
  valid := by
    obtain ⟨i, d, first⟩ := h.valid
    exact ⟨i, d, first.of_same same⟩
  identity := h.identity
  kind := h.kind
  holds := h.holds.of_same same

theorem Refused.exists_first (h : Refused answers entity attr cells e) :
    ∃ i d, FirstValid (fun _ => True) cells i d := by
  cases h with
  | identity first => exact ⟨_, _, first⟩
  | kind first => exact ⟨_, _, first⟩
  | mismatch first => exact ⟨_, _, first⟩
  | mixed first => exact ⟨_, _, first⟩

/-! ## Requests -/

/-- The writers are for one entity, and their rows have the same valid values. -/
structure Alike (w w' : Writer) : Prop where
  entity : w.entity = w'.entity
  rowCount : w.batch.rowCount = w'.batch.rowCount
  valid : ∀ attr, SameValid (w.batch.cells attr) (w'.batch.cells attr)

variable {w w' : Writer} {h h' : Batch.History} {request request' : Submission}

theorem Alike.symm (alike : Alike w w') : Alike w' w where
  entity := alike.entity.symm
  rowCount := alike.rowCount.symm
  valid attr := (alike.valid attr).symm

/-- An attribute with a value in some row is an attribute of the batch. -/
theorem mem_attributes_of_first (records : w.batch.Records h)
    (first : FirstValid (fun _ => True) (w.batch.cells attr) i d) :
    attr ∈ w.batch.attributes := by
  rw [records.attributes]
  exact Batch.History.mem_attributes_of_cell (cell_of_first records first)

theorem Accepted.of_alike (records : w.batch.Records h) (alike : Alike w w')
    (accepted : Accepted answers w w.batch.attributes) :
    Accepted answers w' w'.batch.attributes := by
  intro attr _ e refused
  have there : Refused answers w.entity attr (w.batch.cells attr) e := by
    rw [alike.entity]
    exact refused.of_same (alike.valid attr).symm
  obtain ⟨i, d, first⟩ := there.exists_first
  exact accepted attr (mem_attributes_of_first records first) e there

theorem Taken.of_alike (records' : w'.batch.Records h') (alike : Alike w w')
    (taken : Taken answers w.entity attr (w.batch.cells attr) c) :
    attr ∈ w'.batch.attributes ∧ Taken answers w'.entity attr (w'.batch.cells attr) c := by
  have there : Taken answers w'.entity attr (w'.batch.cells attr) c := by
    rw [← alike.entity]
    exact taken.of_same (alike.valid attr)
  obtain ⟨i, d, first⟩ := there.valid
  exact ⟨mem_attributes_of_first records' first, there⟩

/-- Alike writers have one request between them. -/
theorem Prepared.unique (records : w.batch.Records h) (records' : w'.batch.Records h')
    (alike : Alike w w') (prepared : Prepared answers w request)
    (prepared' : Prepared answers w' request') : request = request' := by
  have columns : request.columns = request'.columns := by
    apply NameMap.ext_get?
    intro attr
    apply Option.ext
    intro c
    rw [prepared.columns, prepared'.columns]
    exact ⟨fun ⟨_, taken⟩ => taken.of_alike records' alike,
      fun ⟨_, taken⟩ => taken.of_alike records alike.symm⟩
  have entity := prepared.entity.trans (alike.entity.trans prepared'.entity.symm)
  have rowCount := prepared.rowCount.trans (alike.rowCount.trans prepared'.rowCount.symm)
  cases request
  cases request'
  simp_all

/-! ## Commits -/

theorem alike_of_records (records : w.batch.Records h) (records' : w'.batch.Records h')
    (entity : w.entity = w'.entity) (rows : h.rowCount = h'.rowCount)
    (same : ∀ i attr, i < h.rowCount → (h.cell i attr).valid? = (h'.cell i attr).valid?) :
    Alike w w' where
  entity := entity
  rowCount := by rw [records.rowCount, records'.rowCount, rows]
  valid attr := by
    rw [SameValid, cells_of_records records, cells_of_records records', ← rows, List.map_map,
      List.map_map]
    exact List.map_congr_left fun i inside => same i attr (List.mem_range.mp inside)

/-- Two runs for one entity that end with the same rows and the same valid values, each of
which has set something, are the same to a store: either it is asked the same once in both,
or in neither because both commits fail before that. -/
theorem commit_of_same_values {C S : Type} [Catalog C] [Store S] {known : C → Prop}
    (steady : Catalog.Steady C known answers) (entity : String)
    (options options' : WriteOptions) (ops ops' : List Operation) {c c' : C} (start : known c)
    (start' : known c') (s s' : S) (session session' : Session C)
    (reached : session = (Session.ofWriter entity options c).run ops)
    (reached' : session' = (Session.ofWriter entity options' c').run ops')
    (rows : session.history.rowCount = session'.history.rowCount)
    (data : session.history.attributes ≠ []) (data' : session'.history.attributes ≠ [])
    (same : ∀ i attr, i < session.history.rowCount →
      (session.history.cell i attr).valid? = (session'.history.cell i attr).valid?) :
    (session.writer.commit (session.catalog, s) =
        ((session.writer.commitLogged session.catalog s).1,
          (session.writer.commitLogged session.catalog s).2.1.state,
          (session.writer.commitLogged session.catalog s).2.2.state) ∧
      session'.writer.commit (session'.catalog, s') =
        ((session'.writer.commitLogged session'.catalog s').1,
          (session'.writer.commitLogged session'.catalog s').2.1.state,
          (session'.writer.commitLogged session'.catalog s').2.2.state)) ∧
    ((∃ request, (session.writer.commitLogged session.catalog s).2.2.log = [request] ∧
        (session'.writer.commitLogged session'.catalog s').2.2.log = [request]) ∨
      (∃ e e', (session.writer.commitLogged session.catalog s).1 = .error e ∧
        (session'.writer.commitLogged session'.catalog s').1 = .error e' ∧
        (session.writer.commitLogged session.catalog s).2.2 = .ofState s ∧
        (session'.writer.commitLogged session'.catalog s').2.2 = .ofState s')) := by
  have sound : session.Sound entity options known := by
    rw [reached]
    exact (Session.ofWriter_sound entity options start).run steady.codeOf ops
  have sound' : session'.Sound entity options' known := by
    rw [reached']
    exact (Session.ofWriter_sound entity options' start').run steady.codeOf ops'
  have alike : Alike session.writer session'.writer :=
    alike_of_records sound.records sound'.records (sound.entity.trans sound'.entity.symm) rows same
  have rowCount : session.history.rowCount ≠ 0 := by
    rw [reached] at data ⊢
    exact Session.started_of_run ops (fun none => absurd rfl none) data
  have busy : session.writer.batch.rowCount ≠ 0 := by
    rw [sound.records.rowCount]
    exact rowCount
  have busy' : session'.writer.batch.rowCount ≠ 0 := by
    rw [← alike.rowCount]
    exact busy
  rw [← sound.records.attributes] at data
  rw [← sound'.records.attributes] at data'
  refine ⟨⟨commit_eq_commitLogged _ _ s, commit_eq_commitLogged _ _ s'⟩, ?_⟩
  rcases accepted_or_refused answers session.writer session.writer.batch.attributes with
    accepted | ⟨before, attr, after, e, order, earlier, refused⟩
  · have accepted' := accepted.of_alike sound.records alike
    obtain ⟨request, _, prepared, -, run⟩ :=
      commitLogged_of_accepted steady busy data accepted sound.known s
    obtain ⟨request', _, prepared', -, run'⟩ :=
      commitLogged_of_accepted steady busy' data' accepted' sound'.known s'
    obtain rfl := prepared.unique sound.records sound'.records alike prepared'
    rw [run, run']
    exact .inl ⟨request, rfl, rfl⟩
  · rcases accepted_or_refused answers session'.writer session'.writer.batch.attributes with
      accepted' | ⟨before', attr', after', e', order', earlier', refused'⟩
    · have accepted := accepted'.of_alike sound'.records alike.symm
      exact absurd refused (accepted attr (by simp [order]) e)
    · obtain ⟨_, run, -⟩ :=
        commitLogged_of_refused steady busy order earlier refused sound.known s
      obtain ⟨_, run', -⟩ :=
        commitLogged_of_refused steady busy' order' earlier' refused' sound'.known s'
      rw [run, run']
      exact .inr ⟨e, e', rfl, rfl, rfl, rfl⟩

private def wells : Dictionary :=
  Dictionary.empty.addEntity
    (((Entity.ofName "well").declare ⟨"id", .scalar .long, true⟩).declare
      ⟨"level", .scalar .int, false⟩)

private def direct : Session (CachedCatalog Dictionary) :=
  (Session.ofWriter "well" {} (.ofSource wells)).run
    [.put "level" ((Datum.ofValue ⟨.scalar .int, 5⟩).inUnit "cm"), .startRow]

private def roundabout : Session (CachedCatalog Dictionary) :=
  (Session.ofWriter "well" { autoStart := false } (.ofSource wells)).run
    [.put "level" (.ofValue ⟨.scalar .int, 1⟩),
      .append [("note", (Datum.null (.scalar .date)).inUnit "h"),
        ("level", .ofValue ⟨.scalar .short, 3⟩)],
      .put "level" ((Datum.ofValue ⟨.scalar .int, 5⟩).inUnit "cm"),
      .append [("level", .null (.scalar .string))]]

/-- One level set at once, or after a failure, a null note and a level of another kind: the
request is the same. -/
theorem commit_of_wells :
    ∃ request,
      (direct.writer.commitLogged direct.catalog MemoryStore.empty).2.2.log = [request] ∧
      (roundabout.writer.commitLogged roundabout.catalog MemoryStore.empty).2.2.log =
        [request] := by
  have same : ∀ i attr, i < direct.history.rowCount →
      (direct.history.cell i attr).valid? = (roundabout.history.cell i attr).valid? := by
    intro i attr inside
    have rows : i = 0 ∨ i = 1 := by
      have two : direct.history.rowCount = 2 := rfl
      omega
    have set : direct.history =
        [.start, .set "level" ((Datum.ofValue ⟨.scalar .int, 5⟩).inUnit "cm"), .start] := rfl
    have set' : roundabout.history =
        [.set "level" (.null (.scalar .string)), .start,
          .set "level" ((Datum.ofValue ⟨.scalar .int, 5⟩).inUnit "cm"),
          .set "level" (.ofValue ⟨.scalar .short, 3⟩),
          .set "note" ((Datum.null (.scalar .date)).inUnit "h"), .start] := rfl
    rw [set, set']
    by_cases level : "level" = attr
    · rcases rows with rfl | rfl <;> subst level <;> rfl
    · by_cases note : "note" = attr
      · rcases rows with rfl | rfl <;> subst note <;> rfl
      · simp [Batch.History.cell, level, note]
  rcases (commit_of_same_values (CachedCatalog.faithful_steady wells) "well" _ _ _ _
      (CachedCatalog.ofSource_faithful wells) (CachedCatalog.ofSource_faithful wells)
      MemoryStore.empty MemoryStore.empty direct roundabout rfl rfl rfl (by decide) (by decide)
      same).2 with submitted | ⟨_, _, -, -, unasked, -⟩
  · exact submitted
  · have once : (direct.writer.commitLogged direct.catalog
        MemoryStore.empty).2.2.log.length = 1 := rfl
    rw [unasked] at once
    cases once

end Writer

end PackedRecords
