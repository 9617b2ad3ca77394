import PackedRecords.Proofs.Store.Numbering
import PackedRecords.Proofs.Writer.Commit

/-!
Writers that submit to stores in memory. The store checks what it is given without knowing
where it comes from. Here it comes from a writer, and then only its kinds can be wrong with
a column.

Proved here:

* `prepare_ends`: what any catalog can make of a batch, by induction on the attributes;
* `Draft.shaped`: its columns are in order, however the cells are filled;
* `commitLogged_of_busy`, `commitLogged_cases`: a commit fails before the store is asked, or it
  passes on what the store replies to a draft;
* on top of them, every outcome of a commit to such a store.
-/

namespace PackedRecords.Writer

open MemoryStore (Objects)
open Text (bytes)

variable {C S : Type} {w : Writer} {request : Submission}

/-! ## Drafts -/

/-- What any catalog can make of the batch: columns of some of its attributes. -/
structure Draft (w : Writer) (request : Submission) : Prop where
  entity : request.entity = w.entity
  rowCount : request.rowCount = w.batch.rowCount
  columns : ∀ attr column, request.columns.get? attr = some column →
    attr ∈ w.batch.attributes ∧ column.Holds (w.batch.cells attr)

/-- What can keep a batch from the store. -/
inductive Unready : BatchFault → Prop where
  | catalog (cause : CatalogFault) : Unready (.catalog cause)
  | kindMismatch (attr : String) (declared supplied : Kind) :
    Unready (.kindMismatch attr declared supplied)
  | mixedKinds (attr : String) (expected found : Kind) (row : Nat) :
    Unready (.mixedKinds attr expected found row)

theorem Draft.shaped (draft : Draft w request) {attr : String} {column : Column}
    (there : request.columns.get? attr = some column) : column.Shaped request.rowCount := by
  obtain ⟨-, holds⟩ := draft.columns attr column there
  have rows : (w.batch.cells attr).length = request.rowCount := by
    rw [Batch.cells, List.length_map, Array.length_toList, draft.rowCount]
    rfl
  exact ⟨holds.series, holds.size_eq.trans rows, holds.values_size_eq.trans rows⟩

section

variable [Catalog C]

theorem columnOf_ends (entity attr : String) (cells : List Cell) :
    Attempt.Ends (fun column => ∀ c, column = some c → c.Holds cells) Unready
      (columnOf (C := C) entity attr cells) := by
  unfold columnOf
  cases Column.firstKind cells with
  | none => exact .pure (by rintro _ ⟨⟩)
  | some supplied =>
    apply (Attempt.Ends.mapError _ Unready.catalog).bind
    intro identity _
    split
    · exact .pure (by rintro _ ⟨⟩)
    · apply (Attempt.Ends.mapError _ Unready.catalog).bind
      intro declared _
      split
      · rcases Column.ofCells_outcome attr declared cells with ⟨c, built, holds⟩ | ⟨i, d, misfit⟩
        · rw [built]
          apply Attempt.Ends.pure
          rintro _ ⟨⟩
          exact holds
        · rw [misfit]
          exact .fail (.mixedKinds _ _ _ _)
      · exact .fail (.kindMismatch _ _ _)

theorem columnsOf_ends (entity : String) (pairs : List (String × List Cell)) :
    Attempt.Ends
      (fun columns => ∀ attr c, columns.get? attr = some c →
        ∃ cells, (attr, cells) ∈ pairs ∧ c.Holds cells)
      Unready (columnsOf (C := C) entity pairs) := by
  induction pairs with
  | nil =>
    apply Attempt.Ends.pure
    rintro attr c ⟨⟩
  | cons pair pairs ih =>
    obtain ⟨name, cells⟩ := pair
    apply (columnOf_ends entity name cells).bind
    intro column here
    apply ih.bind
    intro columns rest
    apply Attempt.Ends.pure
    have later : ∀ attr c, columns.get? attr = some c →
        ∃ other, (attr, other) ∈ (name, cells) :: pairs ∧ c.Holds other := by
      intro attr c there
      obtain ⟨other, mem, holds⟩ := rest attr c there
      exact ⟨other, List.mem_cons_of_mem _ mem, holds⟩
    -- The first column is inserted last, in place of any other of its name.
    cases column with
    | none => exact later
    | some column =>
      intro attr c there
      rw [NameMap.get?_insert] at there
      split at there
      · cases there
        rename_i same
        rw [same]
        exact ⟨cells, List.mem_cons_self, here _ rfl⟩
      · exact later attr c there

theorem prepare_ends (w : Writer) :
    Attempt.Ends (fun outcome => ∀ request, outcome = some request → Draft w request) Unready
      (w.prepare (C := C)) := by
  unfold prepare
  split
  · exact .pure (by rintro _ ⟨⟩)
  · apply (columnsOf_ends w.entity w.batch.transpose).bind
    intro columns each
    apply Attempt.Ends.pure
    rintro _ ⟨⟩
    refine ⟨rfl, rfl, ?_⟩
    intro attr column there
    obtain ⟨cells, mem, holds⟩ := each attr column there
    obtain ⟨_, known, same⟩ := List.mem_map.mp mem
    cases same
    exact ⟨known, holds⟩

variable [Store S]

theorem prepare_yields_some {w : Writer} (rows : w.batch.rowCount ≠ 0)
    (data : w.batch.attributes ≠ []) :
    Attempt.Yields (fun outcome => outcome ≠ none) (w.prepare (C := C)) := by
  rw [prepare_of_busy rows data]
  exact (Attempt.Yields.any _).bind fun columns _ => .pure nofun

/-- A commit with anything to submit fails before the store is asked, or passes the reply on. -/
theorem commitLogged_of_busy {w : Writer} (rows : w.batch.rowCount ≠ 0)
    (data : w.batch.attributes ≠ []) (c : C) (s : S) :
    (∃ e asked, Unready e ∧ w.commitLogged c s = (.error e, asked, .ofState s)) ∨
    ∃ request asked, Draft w request ∧
      w.commitLogged c s = (outcome request (Store.insert request s).1, asked,
        ⟨(Store.insert request s).2, [request]⟩) := by
  have ends := prepare_ends (C := Logged Question C) w (.ofState c)
  cases run : w.prepare (C := Logged Question C) (.ofState c) with
  | mk result asked =>
    rw [run] at ends
    cases result with
    | error e =>
      refine .inl ⟨e, asked, ends, ?_⟩
      rw [commitLogged, commit, Attempt.bind_error (Attempt.onFirst_eq run _)]
    | ok drafted =>
      cases drafted with
      | none => exact absurd rfl (prepare_yields_some rows data run)
      | some request =>
        exact .inr ⟨request, asked, ends request rfl, commitLogged_of_request run s⟩

/-- A commit that does not reach the store has nothing to submit, or cannot. Any other passes
the reply on. -/
theorem commitLogged_cases (w : Writer) (c : C) (s : S) :
    ((w.commitLogged c s).2.2 = .ofState s ∧
      ∀ e, (w.commitLogged c s).1 = .error e → Unready e) ∨
    ∃ request, Draft w request ∧
      (w.commitLogged c s).1 = outcome request (Store.insert request s).1 ∧
      (w.commitLogged c s).2.2 = ⟨(Store.insert request s).2, [request]⟩ := by
  by_cases idle : w.batch.rowCount = 0 ∨ w.batch.attributes = []
  · rw [commitLogged_of_idle idle]
    exact .inl ⟨rfl, by rintro _ ⟨⟩⟩
  obtain ⟨rows, data⟩ := not_or.mp idle
  rcases commitLogged_of_busy rows data c s with
    ⟨e, asked, unready, run⟩ | ⟨request, asked, draft, run⟩
  · rw [run]
    refine .inl ⟨rfl, ?_⟩
    rintro _ ⟨⟩
    exact unready
  · rw [run]
    exact .inr ⟨request, draft, rfl, rfl⟩

end

/-! ## Commits to a store in memory -/

/-- Of the faults that the store looks for, a draft can only have that of the kinds. -/
theorem Draft.objects_iff (draft : Draft w request) (kinds : List Kind) (e : StoreFault) :
    Objects kinds request e ↔ ∃ attr column, request.columns.get? attr = some column ∧
      column.kind ∈ kinds ∧ e = .unsupportedKind attr column.kind ∧
      ∀ other column', bytes other < bytes attr → request.columns.get? other = some column' →
        column'.kind ∉ kinds := by
  constructor
  · rintro ⟨attr, column, there, faulty, earlier⟩
    have shaped := draft.shaped there
    cases faulty with
    | kind unsupported =>
      refine ⟨attr, column, there, unsupported, rfl, ?_⟩
      exact fun other column' less there' => (earlier other column' less there').supported
    | series supported other => exact absurd shaped.series other
    | size supported same sizes =>
      rcases sizes with validity | values
      · exact absurd shaped.validity_size validity
      · exact absurd shaped.values_size values
  · rintro ⟨attr, column, there, unsupported, rfl, earlier⟩
    refine ⟨attr, column, there, .kind unsupported, ?_⟩
    intro other column' less there'
    exact ⟨earlier other column' less there', draft.shaped there'⟩

/-- A commit of any writer to any store in memory, with any catalog. It never ends with a
column that is out of order, nor with too few identifiers. If the store is asked, it fails
exactly if some column is of an unsupported kind; then it names the first of these, by the
bytes of the names, and the store stays as it is. Else each row gets the next identifier, and
the store keeps the request. -/
theorem commit_to_memory [Catalog C] (w : Writer) (c : C) (s : MemoryStore)
    {result : Except BatchFault (List Nat)} {asked : Logged Question C}
    {stored : Logged Submission MemoryStore}
    (committed : w.commitLogged c s = (result, asked, stored)) :
    w.commit (c, s) = (result, asked.state, stored.state) ∧
    (∀ reason, result ≠ .error (.store (.rejected reason))) ∧
    (∀ expected actual, result ≠ .error (.identifierCount expected actual)) ∧
    (stored = .ofState s ∨ ∃ request, stored.log = [request]) ∧
    ∀ request, stored.log = [request] →
      Draft w request ∧
      (∀ attr column, request.columns.get? attr = some column →
        column.Shaped w.batch.rowCount) ∧
      ((∃ e, result = .error e) ↔
        ∃ attr column, request.columns.get? attr = some column ∧ column.kind ∈ s.unsupported) ∧
      (∀ e, result = .error e → stored.state = s ∧
        ∃ attr column, request.columns.get? attr = some column ∧
          column.kind ∈ s.unsupported ∧ e = .store (.unsupportedKind attr column.kind) ∧
          ∀ other column', bytes other < bytes attr →
            request.columns.get? other = some column' → column'.kind ∉ s.unsupported) ∧
      (∀ ids, result = .ok ids →
        ids = List.range' (s.nextId w.entity) w.batch.rowCount ∧
        stored.state = { s with
          nextIds := s.nextIds.insert w.entity (s.nextId w.entity + w.batch.rowCount)
          accepted := s.accepted ++ [request] }) := by
  have plain := commit_eq_commitLogged w c s
  have cases := commitLogged_cases w c s
  rw [committed] at plain cases
  refine ⟨plain, ?_⟩
  rcases cases with ⟨rfl, unready⟩ | ⟨request, draft, rfl, rfl⟩
  · refine ⟨?_, ?_, .inl rfl, by rintro _ ⟨⟩⟩
    · intro reason failed
      cases unready _ failed
    · intro expected actual failed
      cases unready _ failed
  have shaped : ∀ attr column, request.columns.get? attr = some column →
      column.Shaped w.batch.rowCount :=
    fun attr column there => draft.rowCount ▸ draft.shaped there
  rcases MemoryStore.acceptable_or_objects s request with acceptable | ⟨e, objects⟩
  · have reply : Store.insert request s = _ := MemoryStore.insert_of_acceptable acceptable
    have enough : outcome request (Store.insert request s).1 =
        .ok (List.range' (s.nextId request.entity) request.rowCount) := by
      rw [reply, outcome, if_pos List.length_range']
    rw [enough, reply]
    refine ⟨by rintro _ ⟨⟩, by rintro _ _ ⟨⟩, .inr ⟨request, rfl⟩, ?_⟩
    rintro _ ⟨⟩
    refine ⟨draft, shaped, ⟨?_, ?_⟩, by rintro _ ⟨⟩, ?_⟩
    · rintro ⟨e, ⟨⟩⟩
    · rintro ⟨attr, column, there, unsupported⟩
      exact absurd unsupported (acceptable attr column there).supported
    · rintro _ ⟨⟩
      rw [draft.entity, draft.rowCount]
      exact ⟨rfl, rfl⟩
  · have reply : Store.insert request s = _ := MemoryStore.insert_of_objects objects
    obtain ⟨attr, column, there, unsupported, rfl, earlier⟩ :=
      (draft.objects_iff s.unsupported e).mp objects
    rw [reply, outcome]
    refine ⟨by rintro _ ⟨⟩, by rintro _ _ ⟨⟩, .inr ⟨request, rfl⟩, ?_⟩
    rintro _ ⟨⟩
    refine ⟨draft, shaped, ?_, ?_, by rintro _ ⟨⟩⟩
    · exact ⟨fun _ => ⟨attr, column, there, unsupported⟩, fun _ => ⟨_, rfl⟩⟩
    · rintro _ ⟨⟩
      exact ⟨rfl, attr, column, there, unsupported, rfl, earlier⟩

private def cameras : Dictionary :=
  Dictionary.empty.addEntity
    (((Entity.ofName "camera").declare ⟨"shot", .blob, false⟩).declare
      ⟨"lens", .scalar .string, false⟩)

private def lens : Datum := .ofValue ⟨.scalar .string, "wide"⟩

private def shot : Datum := .ofValue ⟨.blob, [1, 2]⟩

/-- The photograph is set before the lens. -/
private def filmed : Writer where
  entity := "camera"
  batch := ⟨#[(NameMap.empty.insert "shot" shot).insert "lens" lens], ["shot", "lens"]⟩

private def sheet : Submission where
  entity := "camera"
  rowCount := 1
  columns :=
    (NameMap.empty.insert "lens"
      ⟨.scalar .string, none, #[true], ⟨.scalar .string, #["wide"]⟩⟩).insert "shot"
      ⟨.blob, none, #[true], ⟨.blob, #[[1, 2]]⟩⟩

/-- A store with three rows for cameras. -/
private def archive (kinds : List Kind) : MemoryStore :=
  ⟨kinds, NameMap.empty.insert "camera" 4, [⟨"camera", 3, .empty⟩]⟩

private def filed (kinds : List Kind) :
    Except BatchFault (List Nat) × Logged Question (CachedCatalog Dictionary) ×
      Logged Submission MemoryStore :=
  filmed.commitLogged (.ofSource cameras) (archive kinds)

/-- A store without blobs and strings names the lens, though the photograph was set before it.
A store with both has numbers for the row. -/
theorem commit_of_cameras :
    (filed [.blob, .scalar .string]).1 =
      .error (.store (.unsupportedKind "lens" (.scalar .string))) ∧
    (filed [.blob, .scalar .string]).2.2.state = archive [.blob, .scalar .string] ∧
    (filed []).1 = .ok [4] := by
  have named (kinds : List Kind) : filmed.commitLogged (.ofSource cameras) (archive kinds) =
      ((filed kinds).1, (filed kinds).2.1, (filed kinds).2.2) := rfl
  obtain ⟨-, -, -, -, replied⟩ := commit_to_memory _ _ _ (named [.blob, .scalar .string])
  obtain ⟨-, -, fails, refused, -⟩ := replied sheet rfl
  obtain ⟨e, failed⟩ := fails.mpr ⟨"shot", _, rfl, List.mem_cons_self⟩
  obtain ⟨same, attr, column, there, -, rfl, earlier⟩ := refused e failed
  obtain ⟨-, -, -, -, replied⟩ := commit_to_memory _ _ _ (named [])
  obtain ⟨-, -, fails, -, taken⟩ := replied sheet rfl
  refine ⟨?_, same, ?_⟩
  · rw [failed]
    rw [sheet, NameMap.get?_insert, NameMap.get?_insert, NameMap.get?_empty] at there
    split at there
    · rename_i later
      rw [later] at earlier
      exact absurd (by decide) (earlier "lens" _ (by decide) rfl)
    · split at there
      · rename_i first
        cases there
        rw [first]
      · cases there
  · cases answer : (filed []).1 with
    | error e =>
      obtain ⟨attr, column, -, unsupported⟩ := fails.mp ⟨e, answer⟩
      cases unsupported
    | ok ids =>
      rw [(taken ids answer).1]
      rfl

end PackedRecords.Writer
