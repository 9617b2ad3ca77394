import PackedRecords.Proofs.Writer.Run

/-!
Writers as machines that gather rows. What an operation does next is decided by the number of
rows, the two options and the answer of the catalog, and by nothing else that went before.

Proved here:

* `Batch.Records.sets`, `Batch.Sets.rows`: a batch that records some more settings differs from
  the one before in its last row only;
* `Operation.Fails.reply_eq`, `Operation.fails_or_leads`: the replies to operations, of which
  the failures leave the writer as it is;
* `append_eq_puts`: a row appended is a row started and set, by induction on the values;
* `Session.withinLimit_run`: no run passes the limit, by induction on the operations;
* on top of them, the reply to the next operation of any run.
-/

namespace PackedRecords

/-! ## Batches with more settings -/

namespace Batch

variable {b b' : Batch} {h opened : History} {values : List (String × Datum)}

/-- A batch after `b`: attributes of its last row were set in turn, and nothing else was. -/
structure Sets (values : List (String × Datum)) (b b' : Batch) : Prop where
  cell : ∀ i attr, b'.cell i attr =
    if b'.rowCount = i + 1 then (values.reverse.lookup attr).or (b.cell i attr)
    else b.cell i attr
  attributes : b'.attributes = (values.map Prod.fst).foldl History.enroll b.attributes

theorem Records.sets (records : b.Records h) (blank : opened = [] ∨ opened = [.start])
    (after : b'.Records (History.settings values ++ (opened ++ h))) : Sets values b b' := by
  have cells : ∀ i attr, History.cell i attr (opened ++ h) = History.cell i attr h := by
    rcases blank with rfl | rfl
    · exact fun _ _ => rfl
    · exact fun _ _ => rfl
  have names : History.attributes (opened ++ h) = History.attributes h := by
    rcases blank with rfl | rfl
    · rfl
    · rfl
  constructor
  case cell =>
    intro i attr
    rw [after.cell, History.cell_settings, cells, ← records.cell, after.rowCount,
      History.rowCount_settings]
  case attributes =>
    rw [after.attributes, History.attributes_settings, names, records.attributes]

theorem row_eq_of_cells {i : Nat} (inside : i < b.rowCount) (inside' : i < b'.rowCount)
    (cells : ∀ attr, b'.cell i attr = b.cell i attr) : b'.rows[i]? = b.rows[i]? := by
  rw [Array.getElem?_eq_getElem inside, Array.getElem?_eq_getElem inside']
  congr 1
  apply NameMap.ext_get?
  intro attr
  have same := cells attr
  rwa [cell, cell, Array.getElem?_eq_getElem inside, Array.getElem?_eq_getElem inside'] at same

theorem Sets.rows (sets : Sets values b b') (grown : b'.rowCount ≤ b.rowCount + 1) {i : Nat}
    (earlier : i + 1 < b'.rowCount) : b'.rows[i]? = b.rows[i]? := by
  apply row_eq_of_cells (by omega) (by omega)
  intro attr
  rw [sets.cell, if_neg (by omega)]

end Batch

namespace Writer

open Batch (History)

variable {w : Writer} {h : History} {b : Batch}

/-! ## Appending as starting and setting -/

/-- Where there is a row, no value starts another. -/
theorem forM_put (records : w.batch.Records h) (started : w.batch.rowCount ≠ 0)
    (values : List (String × Datum)) :
    (forM values fun value : String × Datum => put value.1 value.2 : Attempt _ _ _) w =
      onBatch (Batch.putAll values) w := by
  induction values generalizing w h with
  | nil => rfl
  | cons value values ih =>
    obtain ⟨attr, d⟩ := value
    obtain ⟨next, set, recorded⟩ := records.put started attr d
    have first : put attr d w = (.ok (), { w with batch := next }) := by
      rw [put_of_started started, onBatch, set]
    have started' : next.rowCount ≠ 0 := by
      rw [recorded.rowCount, History.rowCount, ← records.rowCount]
      exact started
    rw [List.forM_cons, Attempt.bind_ok first, ih recorded started', onBatch, onBatch,
      Batch.putAll, Attempt.bind_ok set]

theorem append_eq_puts (records : w.batch.Records h) (values : List (String × Datum)) :
    append values w = (do
      let index ← startRow
      forM values fun value : String × Datum => put value.1 value.2
      pure index) w := by
  rw [append]
  rcases hasRoom_or_full w with room | ⟨limit, limited, full⟩
  · have run := startRow_of_room room
    have started : w.batch.addRow.rowCount ≠ 0 := Batch.rowCount_addRow _ ▸ Nat.succ_ne_zero _
    rw [Attempt.bind_ok run, Attempt.bind_ok run, Attempt.bind_apply, Attempt.bind_apply,
      forM_put (w := { w with batch := w.batch.addRow }) records.addRow started]
  · have run := startRow_of_full limited full
    rw [Attempt.bind_error run, Attempt.bind_error run]

/-! ## Replies -/

theorem state_eq_empty_iff (w : Writer) : w.state = .empty ↔ w.batch.rowCount = 0 := by
  simp [state, Batch.isEmpty, Batch.rowCount]

def WithinLimit (w : Writer) : Prop :=
  ∀ limit, w.options.rowLimit = some limit → w.batch.rowCount ≤ limit

namespace Operation

section

variable {C : Type} [Catalog C] {c : C} {op : Operation} {attr : String} {d : Datum}
  {index : Option Nat} {e : BatchFault}

/-- An operation with what it gives: the index of the row it starts, if it is there to start
one. -/
def reply : Operation → Attempt BatchFault (Writer × C) (Option Nat)
  | .startRow => do
    let index ← Attempt.onFirst Writer.startRow
    pure (some index)
  | .put attr d => do
    Attempt.onFirst (Writer.put attr d)
    pure none
  | .putLiteral attr enumeration literal => do
    Writer.putLiteral attr enumeration literal
    pure none
  | .append values => do
    let index ← Attempt.onFirst (Writer.append values)
    pure (some index)

theorem perform_eq_reply (op : Operation) :
    (op.perform : Attempt BatchFault (Writer × C) Unit) = op.reply >>= fun _ => pure () := by
  cases op <;> simp [perform, reply]

/-- Why an operation fails. -/
inductive Fails (w : Writer) (c : C) : Operation → BatchFault → Prop where
  | startRow {limit : Nat} (limited : w.options.rowLimit = some limit)
      (full : w.batch.rowCount = limit) : Fails w c .startRow (.full limit)
  | append {limit : Nat} {values : List (String × Datum)}
      (limited : w.options.rowLimit = some limit) (full : w.batch.rowCount = limit) :
      Fails w c (.append values) (.full limit)
  | manual {attr : String} {d : Datum} (empty : w.batch.rowCount = 0)
      (manual : w.options.autoStart = false) : Fails w c (.put attr d) .noRow
  | closed {attr : String} {d : Datum} (empty : w.batch.rowCount = 0)
      (auto : w.options.autoStart = true) (limited : w.options.rowLimit = some 0) :
      Fails w c (.put attr d) (.full 0)
  | unknown {attr enumeration literal : String} {e : CatalogFault}
      (unknown : (Catalog.codeOf enumeration literal c).1 = .error e) :
      Fails w c (.putLiteral attr enumeration literal) (.catalog e)
  | literal {attr enumeration literal : String} {code : Int32} {e : BatchFault}
      (known : (Catalog.codeOf enumeration literal c).1 = .ok code)
      (put : Fails w c (.put attr (.ofValue ⟨.scalar .enum, code⟩)) e) :
      Fails w c (.putLiteral attr enumeration literal) e

/-- What an operation gives and makes of the batch. A literal is put as its code. -/
inductive Leads (w : Writer) (c : C) : Operation → Option Nat → Batch → Prop where
  | startRow {b : Batch} (room : w.HasRoom) (rows : b.rowCount = w.batch.rowCount + 1)
      (sets : w.batch.Sets [] b) : Leads w c .startRow (some w.batch.rowCount) b
  | append {values : List (String × Datum)} {b : Batch} (room : w.HasRoom)
      (rows : b.rowCount = w.batch.rowCount + 1) (sets : w.batch.Sets values b) :
      Leads w c (.append values) (some w.batch.rowCount) b
  | put {attr : String} {d : Datum} {b : Batch} (isOpen : w.IsOpen)
      (rows : b.rowCount = max 1 w.batch.rowCount) (sets : w.batch.Sets [(attr, d)] b) :
      Leads w c (.put attr d) none b
  | literal {attr enumeration literal : String} {code : Int32} {b : Batch}
      (known : (Catalog.codeOf enumeration literal c).1 = .ok code)
      (put : Leads w c (.put attr (.ofValue ⟨.scalar .enum, code⟩)) none b) :
      Leads w c (.putLiteral attr enumeration literal) none b

theorem Fails.put_eq (fails : Fails w c (.put attr d) e) :
    Writer.put attr d w = (.error e, w) := by
  cases fails with
  | manual empty manual => exact put_of_manual empty manual attr d
  | closed empty auto limited => exact put_of_full empty auto limited (Nat.zero_le _) attr d

/-- A failure leaves the writer as it is. -/
theorem Fails.reply_eq (fails : Fails w c op e) : ∃ c', op.reply (w, c) = (.error e, w, c') := by
  cases op with
  | startRow =>
    cases fails with
    | startRow limited full =>
      have run := startRow_of_full limited (Nat.le_of_eq full.symm)
      exact ⟨c, Attempt.bind_error (Attempt.onFirst_eq run c) _⟩
  | append values =>
    cases fails with
    | append limited full =>
      have run := append_of_full limited (Nat.le_of_eq full.symm) values
      exact ⟨c, Attempt.bind_error (Attempt.onFirst_eq run c) _⟩
  | put attr d => exact ⟨c, Attempt.bind_error (Attempt.onFirst_eq fails.put_eq c) _⟩
  | putLiteral attr enumeration literal =>
    cases fails with
    | unknown unknown =>
      have asked : Catalog.codeOf enumeration literal c = (_, _) := Prod.ext unknown rfl
      exact ⟨_, Attempt.bind_error (putLiteral_of_unknown asked w attr) _⟩
    | literal known put =>
      have asked : Catalog.codeOf enumeration literal c = (_, _) := Prod.ext known rfl
      have run := putLiteral_of_known asked w attr
      rw [put.put_eq] at run
      exact ⟨_, Attempt.bind_error run _⟩

theorem put_fails_or_leads (records : w.batch.Records h) (c : C) (attr : String) (d : Datum) :
    (∃ e, Fails w c (.put attr d) e) ∨
    ∃ b, Writer.put attr d w = (.ok (), { w with batch := b }) ∧
      Leads w c (.put attr d) none b := by
  have opened : w.IsOpen → ∃ b, Writer.put attr d w = (.ok (), { w with batch := b }) ∧
      Leads w c (.put attr d) none b := by
    intro isOpen
    obtain ⟨b, run, recorded⟩ := put_of_isOpen records isOpen attr d
    refine ⟨b, run, .put isOpen ?_ (records.sets ?_ recorded)⟩
    · rw [recorded.rowCount, records.rowCount]
      exact rowCount_opening h
    · rw [opening]
      split
      · exact .inr rfl
      · exact .inl rfl
  by_cases empty : w.batch.rowCount = 0
  · cases auto : w.options.autoStart with
    | false => exact .inl ⟨_, .manual empty auto⟩
    | true =>
      rcases hasRoom_or_full w with room | ⟨limit, limited, full⟩
      · exact .inr (opened (.inr ⟨auto, room⟩))
      · have none : limit = 0 := by omega
        exact .inl ⟨_, .closed empty auto (none ▸ limited)⟩
  · exact .inr (opened (.inl empty))

theorem fails_or_leads (records : w.batch.Records h) (within : w.WithinLimit) (c : C)
    (op : Operation) :
    (∃ e, op.Fails w c e) ∨
    ∃ index b c', op.reply (w, c) = (.ok index, { w with batch := b }, c') ∧
      op.Leads w c index b := by
  cases op with
  | startRow =>
    rcases hasRoom_or_full w with room | ⟨limit, limited, full⟩
    · have run := startRow_of_room room
      exact .inr ⟨_, _, c, Attempt.bind_ok (Attempt.onFirst_eq run c) _, .startRow room
        (Batch.rowCount_addRow _) (records.sets (.inr rfl) records.addRow)⟩
    · exact .inl ⟨_, .startRow limited (Nat.le_antisymm (within limit limited) full)⟩
  | append values =>
    rcases hasRoom_or_full w with room | ⟨limit, limited, full⟩
    · obtain ⟨b, run, recorded⟩ := append_of_room records room values
      rw [← records.rowCount] at run
      refine .inr ⟨_, b, c, Attempt.bind_ok (Attempt.onFirst_eq run c) _, .append room ?_ ?_⟩
      · rw [recorded.rowCount, History.rowCount_settings, records.rowCount, History.rowCount]
      · exact records.sets (.inr rfl) recorded
    · exact .inl ⟨_, .append limited (Nat.le_antisymm (within limit limited) full)⟩
  | put attr d =>
    rcases put_fails_or_leads records c attr d with fails | ⟨b, run, leads⟩
    · exact .inl fails
    · exact .inr ⟨none, b, c, Attempt.bind_ok (Attempt.onFirst_eq run c) _, leads⟩
  | putLiteral attr enumeration literal =>
    cases asked : Catalog.codeOf enumeration literal c with
    | mk answer c' =>
      cases answer with
      | error e => exact .inl ⟨_, .unknown (congrArg Prod.fst asked)⟩
      | ok code =>
        have known := congrArg Prod.fst asked
        rcases put_fails_or_leads records c attr (.ofValue ⟨.scalar .enum, code⟩) with
          ⟨e, fails⟩ | ⟨b, run, leads⟩
        · exact .inl ⟨e, .literal known fails⟩
        · have run' := putLiteral_of_known asked w attr
          rw [run] at run'
          exact .inr ⟨none, b, c', Attempt.bind_ok run' _, .literal known leads⟩

theorem Leads.withinLimit (leads : Leads w c op index b) (within : w.WithinLimit) :
    WithinLimit { w with batch := b } := by
  intro limit limited
  induction leads with
  | startRow room rows sets => exact rows ▸ room limit limited
  | append room rows sets => exact rows ▸ room limit limited
  | put isOpen rows sets =>
    show Batch.rowCount _ ≤ limit
    rw [rows, Nat.max_le]
    refine ⟨?_, within limit limited⟩
    rcases isOpen with started | ⟨-, room⟩
    · exact Nat.le_trans (Nat.pos_of_ne_zero started) (within limit limited)
    · exact Nat.zero_lt_of_lt (room limit limited)
  | literal known put ih => exact ih limited

/-- All rows but the last are as they were. -/
theorem Leads.rows (leads : Leads w c op index b) {i : Nat} (earlier : i + 1 < b.rowCount) :
    b.rows[i]? = w.batch.rows[i]? := by
  induction leads with
  | startRow room rows sets => exact sets.rows (Nat.le_of_eq rows) earlier
  | append room rows sets => exact sets.rows (Nat.le_of_eq rows) earlier
  | put isOpen rows sets => exact sets.rows (by omega) earlier
  | literal known put ih => exact ih earlier

end

end Operation

/-! ## Runs -/

section

variable {C : Type} [Catalog C] {entity : String} {options : WriteOptions} {c c' : C}
  {s : Session C}

theorem Session.withinLimit_step {known : C → Prop} (sound : s.Sound entity options known)
    (within : s.writer.WithinLimit) (op : Operation) : (s.step op).writer.WithinLimit := by
  rcases op.fails_or_leads sound.records within s.catalog with
    ⟨e, fails⟩ | ⟨index, b, c', run, leads⟩
  · obtain ⟨c', run⟩ := fails.reply_eq
    rw [step, Operation.perform_eq_reply, Attempt.bind_error run]
    exact within
  · rw [step, Operation.perform_eq_reply, Attempt.bind_ok run]
    exact leads.withinLimit within

theorem Session.withinLimit_run (sound : s.Sound entity options fun _ => True)
    (within : s.writer.WithinLimit) (ops : List Operation) :
    (s.run ops).writer.WithinLimit := by
  induction ops generalizing s with
  | nil => exact within
  | cons op ops ih =>
    exact ih (sound.step (fun _ _ _ _ => trivial) op) (withinLimit_step sound within op)

/-- The next operation on a new writer, whatever was done with it before. It fails in the cases
listed, and then changes nothing; in all others it does what it says to the last row, and
leaves all rows before it. The limit is kept, and to append a row is to start it and to set
its values in turn. -/
theorem reply_of_run (entity : String) (options : WriteOptions) (c : C) (ops : List Operation)
    (op : Operation) {result : Except BatchFault (Option Nat)} {w : Writer}
    (reached : (Session.ofWriter entity options c).run ops = s)
    (replied : op.reply (s.writer, s.catalog) = (result, w, c')) :
    op.perform (s.writer, s.catalog) = (result.map fun _ => (), w, c') ∧
    s.writer.options = options ∧
    (∀ limit, options.rowLimit = some limit → s.writer.batch.rowCount ≤ limit) ∧
    (s.writer.state = .empty ↔ s.writer.batch.rowCount = 0) ∧
    (∀ e, result = .error e ↔ op.Fails s.writer s.catalog e) ∧
    (∀ e, result = .error e → w = s.writer) ∧
    (∀ index, result = .ok index → w = { s.writer with batch := w.batch } ∧
      op.Leads s.writer s.catalog index w.batch) ∧
    (∀ i, i + 1 < w.batch.rowCount → w.batch.rows[i]? = s.writer.batch.rows[i]?) ∧
    ∀ values, append values s.writer = (do
      let index ← startRow
      forM values fun value : String × Datum => put value.1 value.2
      pure index) s.writer := by
  have start : (Session.ofWriter entity options c).Sound entity options fun _ => True :=
    Session.ofWriter_sound entity options trivial
  have sound : s.Sound entity options fun _ => True :=
    reached ▸ start.run (fun _ _ _ _ => trivial) ops
  have within : s.writer.WithinLimit :=
    reached ▸ Session.withinLimit_run start (fun _ _ => Nat.zero_le _) ops
  have failed : ∀ e, op.Fails s.writer s.catalog e → result = .error e ∧ w = s.writer := by
    intro e fails
    obtain ⟨c'', run⟩ := fails.reply_eq
    cases replied.symm.trans run
    exact ⟨rfl, rfl⟩
  have performed : op.perform (s.writer, s.catalog) = (result.map fun _ => (), w, c') := by
    rw [Operation.perform_eq_reply, Attempt.bind_apply, replied]
    cases result with
    | ok index => rfl
    | error e => rfl
  refine ⟨performed, sound.options, sound.options ▸ within, state_eq_empty_iff s.writer, ?_⟩
  have each := append_eq_puts sound.records
  rcases op.fails_or_leads sound.records within s.catalog with
    ⟨e, fails⟩ | ⟨index, b, c'', run, leads⟩
  · obtain ⟨rfl, rfl⟩ := failed e fails
    refine ⟨fun e' => ⟨?_, fun fails' => (failed e' fails').1⟩, fun _ _ => rfl, fun _ => nofun,
      fun _ _ => rfl, each⟩
    rintro ⟨⟩
    exact fails
  · cases replied.symm.trans run
    refine ⟨fun e => ⟨nofun, fun fails => (failed e fails).1⟩,
      fun _ => nofun, ?_, fun i => leads.rows, each⟩
    rintro _ ⟨⟩
    exact ⟨rfl, leads⟩

end

private def valves : Dictionary :=
  Dictionary.empty.addEnumeration ((Enumeration.ofName "valve").declare "open" 1)

private def cistern (ops : List Operation) : Session (CachedCatalog Dictionary) :=
  (Session.ofWriter "cistern" { rowLimit := some 1 } (.ofSource valves)).run ops

/-- The literal is none of the valve. -/
private def ajar : Operation := .putLiteral "valve" "valve" "ajar"

private def filling : Operation :=
  .append [("depth", .ofValue ⟨.scalar .int, 3⟩), ("depth", .ofValue ⟨.scalar .int, 5⟩)]

/-- A literal that is not declared starts no row, so there is room for one, in which the second
depth counts. After it the writer is full. -/
theorem replies_of_cistern :
    (∃ w c', filling.reply ((cistern [ajar]).writer, (cistern [ajar]).catalog) =
        (.ok (some 0), w, c') ∧
      w.batch.cell 0 "depth" = some (.ofValue ⟨.scalar .int, 5⟩)) ∧
    (Operation.startRow.reply
      ((cistern [ajar, filling]).writer, (cistern [ajar, filling]).catalog)).1 =
      .error (.full 1) := by
  constructor
  · cases replied : filling.reply ((cistern [ajar]).writer, (cistern [ajar]).catalog) with
    | mk result rest =>
      obtain ⟨w, c'⟩ := rest
      obtain ⟨-, -, -, -, fails, -, leads, -⟩ :=
        reply_of_run "cistern" _ _ [ajar] filling (s := cistern [ajar]) rfl replied
      cases result with
      | error e =>
        cases (fails e).mp rfl with
        | append limited full =>
          cases limited
          cases full
      | ok index =>
        obtain ⟨-, filled⟩ := leads index rfl
        cases filled with
        | append room rows sets =>
          refine ⟨w, c', rfl, ?_⟩
          have last : w.batch.rowCount = 0 + 1 := rows
          rw [sets.cell, if_pos last]
          rfl
  · obtain ⟨-, -, -, -, fails, -⟩ :=
      reply_of_run "cistern" _ _ [ajar, filling] .startRow (s := cistern [ajar, filling]) rfl
        (Prod.eta _).symm
    exact (fails _).mpr (.startRow rfl rfl)

end Writer

end PackedRecords
