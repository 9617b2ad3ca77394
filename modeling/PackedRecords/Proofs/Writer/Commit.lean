import PackedRecords.Proofs.Writer.Columns
import PackedRecords.Store.Memory

/-!
What a commit asks, submits and reports.

Proved here:

* `commit_simulates`: a commit does not look into the states of catalog and store, so
  writing down the questions changes nothing else;
* `commitLogged_of_idle`, `commitLogged_of_refused`, `commitLogged_of_answering`: the
  three ways a commit can go;
* on top of them, every outcome of a commit.
-/

namespace PackedRecords.Writer

variable {C S : Type} {known : C → Prop} {answers : Catalog.Answers} {e : BatchFault}

/-! ## A commit and its questions -/

section

variable {C' S' : Type} [Catalog C] [Catalog C'] [Store S] [Store S'] {R : C → C' → Prop}
  {R' : S → S' → Prop}

theorem columnsOf_simulates
    (kinds : ∀ entity attr,
      Attempt.Simulates R (Catalog.kindOf entity attr) (Catalog.kindOf entity attr))
    (identities : ∀ entity attr,
      Attempt.Simulates R (Catalog.isIdentity entity attr) (Catalog.isIdentity entity attr))
    (entity : String) (pairs : List (String × List Cell)) :
    Attempt.Simulates R (columnsOf entity pairs) (columnsOf entity pairs) := by
  have one : ∀ attr cells,
      Attempt.Simulates R (columnOf entity attr cells) (columnOf entity attr cells) := by
    intro attr cells
    unfold columnOf
    cases Column.firstKind cells with
    | none => exact .pure none
    | some supplied =>
      apply ((identities entity attr).mapError _).bind
      intro identity
      split
      · exact .pure none
      · apply ((kinds entity attr).mapError _).bind
        intro declared
        split
        · exact (Attempt.Simulates.ofExcept _).bind fun column => .pure (some column)
        · exact .fail _
  induction pairs with
  | nil => exact .pure NameMap.empty
  | cons pair pairs ih =>
    exact (one pair.1 pair.2).bind fun column => ih.bind fun columns => .pure _

/-- Catalogs and stores whose answers agree are the same to a commit. -/
theorem commit_simulates
    (kinds : ∀ entity attr,
      Attempt.Simulates R (Catalog.kindOf entity attr) (Catalog.kindOf entity attr))
    (identities : ∀ entity attr,
      Attempt.Simulates R (Catalog.isIdentity entity attr) (Catalog.isIdentity entity attr))
    (inserts : ∀ request,
      Attempt.Simulates R' (Store.insert request) (Store.insert request))
    (w : Writer) : Attempt.Simulates (Attempt.Both R R') w.commit w.commit := by
  have prepared : Attempt.Simulates R w.prepare w.prepare := by
    unfold prepare
    split
    · exact .pure none
    · exact (columnsOf_simulates kinds identities _ _).bind fun columns => .pure _
  unfold commit
  apply prepared.onFirst.bind
  intro outcome
  cases outcome with
  | none => exact .pure []
  | some request =>
    apply ((inserts request).mapError _).onSecond.bind
    intro ids
    split
    · exact .pure ids
    · exact .fail _

end

section

variable [Catalog C] [Store S]

/-- A commit that writes down what it asks of catalog and store. -/
def commitLogged (w : Writer) (c : C) (s : S) :
    Except BatchFault (List Nat) × Logged Question C × Logged Submission S :=
  w.commit (.ofState c, .ofState s)

theorem commit_forgets (w : Writer) :
    Attempt.Simulates (Attempt.Both Logged.Forgets Logged.Forgets)
      (w.commit : Attempt _ (Logged Question C × Logged Submission S) _) w.commit :=
  commit_simulates (fun _ _ => Logged.ask_simulates _ _) (fun _ _ => Logged.ask_simulates _ _)
    Logged.insert_simulates w

theorem commit_eq_commitLogged (w : Writer) (c : C) (s : S) :
    w.commit (c, s) = ((w.commitLogged c s).1, (w.commitLogged c s).2.1.state,
      (w.commitLogged c s).2.2.state) :=
  Logged.eq_of_simulates (commit_forgets w) c s

/-! ## What is submitted -/

theorem prepare_of_idle {w : Writer} (idle : w.batch.rowCount = 0 ∨ w.batch.attributes = []) :
    (w.prepare : Attempt BatchFault C (Option Submission)) = pure none := by
  have skip : (w.batch.isEmpty || !w.batch.hasData) = true := by
    simpa [Batch.isEmpty, Batch.hasData, Batch.rowCount] using idle
  rw [prepare, if_pos skip]

theorem prepare_of_busy {w : Writer} (rows : w.batch.rowCount ≠ 0)
    (data : w.batch.attributes ≠ []) :
    (w.prepare : Attempt BatchFault C (Option Submission)) =
      columnsOf w.entity (w.batch.attributes.map fun attr => (attr, w.batch.cells attr)) >>=
        fun columns => pure (some ⟨w.entity, w.batch.rowCount, columns⟩) := by
  have go : ¬(w.batch.isEmpty || !w.batch.hasData) = true := by
    simpa [Batch.isEmpty, Batch.hasData, Batch.rowCount] using And.intro rows data
  rw [prepare, if_neg go]
  rfl

theorem commitLogged_of_idle {w : Writer} (idle : w.batch.rowCount = 0 ∨ w.batch.attributes = [])
    (c : C) (s : S) : w.commitLogged c s = (.ok [], .ofState c, .ofState s) := by
  rw [commitLogged, commit, prepare_of_idle idle]
  rfl

/-- The request has all columns to be submitted, and no others. -/
structure Prepared (answers : Catalog.Answers) (w : Writer) (request : Submission) : Prop where
  entity : request.entity = w.entity
  rowCount : request.rowCount = w.batch.rowCount
  columns : ∀ attr c, request.columns.get? attr = some c ↔
    attr ∈ w.batch.attributes ∧ Taken answers w.entity attr (w.batch.cells attr) c

/-- What a commit asks the catalog about attributes, in turn. -/
def inquiry (answers : Catalog.Answers) (w : Writer) (attrs : List String) : List Question :=
  attrs.flatMap fun attr => questions answers w.entity attr (w.batch.cells attr)

/-- None of the attributes is refused. -/
def Accepted (answers : Catalog.Answers) (w : Writer) (attrs : List String) : Prop :=
  ∀ name ∈ attrs, ∀ e, ¬Refused answers w.entity name (w.batch.cells name) e

theorem commitLogged_of_refused (steady : Catalog.Steady C known answers) {w : Writer}
    {before after : List String} {attr : String} (rows : w.batch.rowCount ≠ 0)
    (order : w.batch.attributes = before ++ attr :: after)
    (accepted : Accepted answers w before)
    (refused : Refused answers w.entity attr (w.batch.cells attr) e) {c : C} (start : known c)
    (s : S) :
    ∃ c', w.commitLogged c s =
      (.error e, ⟨c', inquiry answers w (before ++ [attr])⟩, .ofState s) ∧ known c' := by
  have data : w.batch.attributes ≠ [] := by simp [order]
  have prepared : Logged.Asks known (w.prepare (C := Logged Question C))
      (inquiry answers w (before ++ [attr])) (.error e) := by
    rw [prepare_of_busy rows data, order]
    exact (columnsOf_of_refused steady accepted refused).bind_error _
  obtain ⟨c', run, holds⟩ := prepared (l := .ofState c) start
  refine ⟨c', ?_, holds⟩
  rw [commitLogged, commit, Attempt.bind_error (Attempt.onFirst_eq run _)]
  rfl

theorem prepare_of_accepted {w : Writer}
    (answering : ∀ attr ∈ w.batch.attributes, Catalog.Answering C known answers w.entity attr)
    (rows : w.batch.rowCount ≠ 0) (data : w.batch.attributes ≠ [])
    (accepted : Accepted answers w w.batch.attributes) :
    ∃ request, Prepared answers w request ∧
      Logged.Asks known (w.prepare (C := Logged Question C))
        (inquiry answers w w.batch.attributes) (.ok (some request)) := by
  obtain ⟨columns, run, each⟩ := columnsOf_of_accepted answering accepted
  let request : Submission := ⟨w.entity, w.batch.rowCount, columns⟩
  refine ⟨request, ⟨rfl, rfl, each⟩, ?_⟩
  rw [prepare_of_busy rows data]
  exact run.bind (.ofExcept (.ok (some request))) (List.append_nil _)

/-- What a commit makes of the reply to its request. -/
def outcome (request : Submission) : Except StoreFault (List Nat) → Except BatchFault (List Nat)
  | .error e => .error (.store e)
  | .ok ids =>
    if ids.length = request.rowCount then .ok ids
    else .error (.identifierCount request.rowCount ids.length)

theorem commitLogged_of_request {w : Writer} {c : C} {asked : Logged Question C}
    {request : Submission} (run : w.prepare (.ofState c) = (.ok (some request), asked)) (s : S) :
    w.commitLogged c s = (outcome request (Store.insert request s).1, asked,
      ⟨(Store.insert request s).2, [request]⟩) := by
  rw [commitLogged, commit, Attempt.bind_ok (Attempt.onFirst_eq run _)]
  have stored : Store.insert request (Logged.ofState s : Logged Submission S) =
      ((Store.insert request s).1, ⟨(Store.insert request s).2, [request]⟩) := rfl
  cases reply : Store.insert request s with
  | mk result s' =>
    rw [reply] at stored
    cases result with
    | error e =>
      have failed := Attempt.mapError_error stored BatchFault.store
      exact Attempt.bind_error (Attempt.onSecond_eq failed _) _
    | ok ids =>
      have answered := Attempt.mapError_ok stored BatchFault.store
      refine (Attempt.bind_ok (Attempt.onSecond_eq answered _) _).trans ?_
      rw [outcome]
      split
      · rfl
      · rfl

theorem commitLogged_of_answering {w : Writer}
    (answering : ∀ attr ∈ w.batch.attributes, Catalog.Answering C known answers w.entity attr)
    (rows : w.batch.rowCount ≠ 0) (data : w.batch.attributes ≠ [])
    (accepted : Accepted answers w w.batch.attributes) {c : C} (start : known c) (s : S) :
    ∃ request c', Prepared answers w request ∧ known c' ∧
      w.commitLogged c s = (outcome request (Store.insert request s).1,
        ⟨c', inquiry answers w w.batch.attributes⟩, ⟨(Store.insert request s).2, [request]⟩) := by
  obtain ⟨request, prepared, asks⟩ := prepare_of_accepted answering rows data accepted
  obtain ⟨c', run, holds⟩ := asks (l := .ofState c) start
  exact ⟨request, c', prepared, holds, commitLogged_of_request run s⟩

theorem commitLogged_of_accepted (steady : Catalog.Steady C known answers) {w : Writer}
    (rows : w.batch.rowCount ≠ 0) (data : w.batch.attributes ≠ [])
    (accepted : Accepted answers w w.batch.attributes) {c : C} (start : known c) (s : S) :
    ∃ request c', Prepared answers w request ∧ known c' ∧
      w.commitLogged c s = (outcome request (Store.insert request s).1,
        ⟨c', inquiry answers w w.batch.attributes⟩, ⟨(Store.insert request s).2, [request]⟩) :=
  commitLogged_of_answering (fun attr _ => steady.answering w.entity attr) rows data accepted
    start s

/-! ## Every commit -/

/-- Either no attribute is refused, or there is a first one that is. -/
theorem accepted_or_refused (answers : Catalog.Answers) (w : Writer) (attrs : List String) :
    Accepted answers w attrs ∨
      ∃ before attr after e, attrs = before ++ attr :: after ∧ Accepted answers w before ∧
        Refused answers w.entity attr (w.batch.cells attr) e := by
  induction attrs with
  | nil => exact .inl fun _ mem => nomatch mem
  | cons name attrs ih =>
    by_cases here : ∃ e, Refused answers w.entity name (w.batch.cells name) e
    · obtain ⟨e, refused⟩ := here
      exact .inr ⟨[], name, attrs, e, rfl, List.forall_mem_nil _, refused⟩
    · have accepted := not_exists.mp here
      rcases ih with rest | ⟨before, attr, after, e, rfl, earlier, refused⟩
      · exact .inl (List.forall_mem_cons.mpr ⟨accepted, rest⟩)
      · exact .inr ⟨name :: before, attr, after, e, rfl,
          List.forall_mem_cons.mpr ⟨accepted, earlier⟩, refused⟩

/-- A commit without rows or attributes asks nothing and gives nothing. Any other ends with
the fault of the first attribute that is refused, before the store is asked, or asks the
store once, for all columns that are taken, and passes the reply on. -/
theorem commit_outcome (steady : Catalog.Steady C known answers) (w : Writer) {c : C}
    (start : known c) (s : S) :
    w.commit (c, s) = ((w.commitLogged c s).1, (w.commitLogged c s).2.1.state,
      (w.commitLogged c s).2.2.state) ∧
    (w.commitLogged c s = (.ok [], .ofState c, .ofState s) ↔
      w.batch.rowCount = 0 ∨ w.batch.attributes = []) ∧
    (w.batch.rowCount ≠ 0 → ∀ before attr after e, w.batch.attributes = before ++ attr :: after →
      Accepted answers w before → Refused answers w.entity attr (w.batch.cells attr) e →
      (w.commitLogged c s).1 = .error e ∧
      (w.commitLogged c s).2.1.log = inquiry answers w (before ++ [attr]) ∧
      (w.commitLogged c s).2.2 = .ofState s) ∧
    (w.batch.rowCount ≠ 0 → w.batch.attributes ≠ [] → Accepted answers w w.batch.attributes →
      ∃ request, Prepared answers w request ∧
        (w.commitLogged c s).1 = outcome request (Store.insert request s).1 ∧
        (w.commitLogged c s).2.1.log = inquiry answers w w.batch.attributes ∧
        (w.commitLogged c s).2.2 = ⟨(Store.insert request s).2, [request]⟩) := by
  refine ⟨commit_eq_commitLogged w c s, ⟨?idle, fun idle => commitLogged_of_idle idle c s⟩,
    ?refused, ?accepted⟩
  case idle =>
    intro idle
    -- Otherwise the commit ends with a fault, or its request is in the log of the store.
    apply Classical.byContradiction
    intro busy
    obtain ⟨rows, data⟩ := not_or.mp busy
    rcases accepted_or_refused answers w w.batch.attributes with
      accepted | ⟨before, attr, after, e, order, accepted, refused⟩
    · obtain ⟨request, c', -, -, run⟩ := commitLogged_of_accepted steady rows data accepted start s
      rw [run] at idle
      cases congrArg (fun t => t.2.2.log) idle
    · obtain ⟨c', run, -⟩ := commitLogged_of_refused steady rows order accepted refused start s
      rw [run] at idle
      cases congrArg Prod.fst idle
  case refused =>
    intro rows before attr after e order accepted refused
    obtain ⟨c', run, -⟩ := commitLogged_of_refused steady rows order accepted refused start s
    rw [run]
    exact ⟨rfl, rfl, rfl⟩
  case accepted =>
    intro rows data accepted
    obtain ⟨request, c', prepared, -, run⟩ :=
      commitLogged_of_accepted steady rows data accepted start s
    rw [run]
    exact ⟨request, prepared, rfl, rfl, rfl⟩

private def tides : Dictionary :=
  Dictionary.empty.addEntity
    (((Entity.ofName "tide").declare ⟨"id", .scalar .long, true⟩).declare
      ⟨"level", .scalar .int, false⟩)

private def readings (second : Datum) : Writer where
  entity := "tide"
  batch := {
    rows := #[NameMap.empty.insert "level" (.ofValue ⟨.scalar .int, 3⟩),
      NameMap.empty.insert "level" second]
    attributes := ["level"] }

private def tried (second : Datum) :
    Except BatchFault (List Nat) × Logged Question (CachedCatalog Dictionary) ×
      Logged Submission MemoryStore :=
  (readings second).commitLogged (.ofSource tides) .empty

/-- A second reading of another kind is reported and stays out of the store. One of the same
kind goes there, with the first. -/
theorem commit_readings :
    (tried (.ofValue ⟨.scalar .short, 4⟩)).1 =
      .error (.mixedKinds "level" (.scalar .int) (.scalar .short) 1) ∧
    (tried (.ofValue ⟨.scalar .short, 4⟩)).2.2.log = [] ∧
    ∃ request, request.rowCount = 2 ∧
      (tried (.ofValue ⟨.scalar .int, 4⟩)).2.2.log = [request] := by
  have steady := CachedCatalog.faithful_steady tides
  have start := CachedCatalog.ofSource_faithful tides
  have first : ∀ d, FirstValid (fun _ => True)
      [some (.ofValue ⟨.scalar .int, 3⟩), some d] 0 (.ofValue ⟨.scalar .int, 3⟩) := fun d =>
    ⟨rfl, rfl, trivial, fun _ _ _ below => absurd below (Nat.not_lt_zero _)⟩
  have misfit : FirstValid (·.kind ≠ .scalar .int)
      [some (.ofValue ⟨.scalar .int, 3⟩), some (.ofValue ⟨.scalar .short, 4⟩)] 1
      (.ofValue ⟨.scalar .short, 4⟩) := by
    refine ⟨rfl, rfl, by decide, ?_⟩
    intro j cell e below there valid
    obtain rfl : j = 0 := by omega
    cases there
    cases valid
    exact fun other => other rfl
  have mixed := commit_outcome steady (readings (.ofValue ⟨.scalar .short, 4⟩)) start
    MemoryStore.empty
  have whole := commit_outcome steady (readings (.ofValue ⟨.scalar .int, 4⟩)) start
    MemoryStore.empty
  obtain ⟨fault, -, idle⟩ := mixed.2.2.1 (by decide) [] "level" [] _ rfl
    (List.forall_mem_nil _) (.mixed (first _) rfl rfl rfl misfit)
  have taken : Taken tides.answers "tide" "level"
      [some (.ofValue ⟨.scalar .int, 3⟩), some (.ofValue ⟨.scalar .int, 4⟩)]
      ⟨.scalar .int, none, #[true, true], ⟨.scalar .int, #[3, 4]⟩⟩ := by
    refine ⟨⟨0, _, first _⟩, rfl, rfl, rfl, ?_, rfl, rfl, rfl⟩
    rintro _ (_ | ⟨_, _ | ⟨_, ⟨⟩⟩⟩) d valid
    · cases valid
      rfl
    · cases valid
      rfl
  obtain ⟨request, prepared, -, -, store⟩ := whole.2.2.2 (by decide) (by decide)
    (List.forall_mem_singleton.mpr fun e => taken.not_refused)
  exact ⟨fault, congrArg Logged.log idle, request, prepared.rowCount, congrArg Logged.log store⟩

end

end PackedRecords.Writer
