import PackedRecords.Proofs.Writer.Memory
import PackedRecords.Proofs.Writer.Run

/-!
Commits of a single row against commits of a batch. The commit of one row is that of the batch,
with the first of the identifiers taken out. That there is a first one, and no other, is not
looked at there: it holds because the batch has one row and a commit counts what it is given.

Proved here:

* `commitOne_forgets`: writing down the questions changes nothing else;
* `commitOneLogged_of_single`: with one row, both commits ask the same;
* `outcome_firstId`: what becomes of every reply to a request for one row;
* `commitOneLogged_of_busy`: a single row with anything set, whatever catalog and store say;
* on top of them, commits of single rows at the end of any run.
-/

namespace PackedRecords.Writer

open Batch (History)

variable {C S : Type} [Catalog C] [Store S] {w : Writer} {request : Submission}

/-! ## The commit of the batch inside -/

/-- The first of the identifiers that a commit gives. -/
def firstId : List Nat → Except BatchFault Nat
  | [] => .error .noData
  | id :: _ => .ok id

theorem commitOne_of_single (single : w.batch.rowCount = 1) :
    (w.commitOne : Attempt BatchFault (C × S) Nat) =
      w.commit >>= fun ids => Attempt.ofExcept (firstId ids) := by
  simp only [commitOne, single]
  apply Attempt.bind_congr
  intro _ ids _ _
  cases ids with
  | nil => rfl
  | cons id ids => rfl

theorem commitOne_of_empty (empty : w.batch.rowCount = 0) :
    (w.commitOne : Attempt BatchFault (C × S) Nat) = Attempt.fail .noData := by
  simp only [commitOne, empty]

theorem commitOne_of_several (several : 1 < w.batch.rowCount) :
    (w.commitOne : Attempt BatchFault (C × S) Nat) =
      Attempt.fail (.severalRows w.batch.rowCount) := by
  obtain ⟨n, count⟩ : ∃ n, w.batch.rowCount = n + 2 := ⟨w.batch.rowCount - 2, by omega⟩
  simp only [commitOne, count]

theorem commitOne_forgets (w : Writer) :
    Attempt.Simulates (Attempt.Both Logged.Forgets Logged.Forgets)
      (w.commitOne : Attempt _ (Logged Question C × Logged Submission S) _) w.commitOne := by
  rcases Nat.lt_trichotomy w.batch.rowCount 1 with empty | single | several
  · rw [commitOne_of_empty (by omega), commitOne_of_empty (by omega)]
    exact .fail _
  · rw [commitOne_of_single single, commitOne_of_single single]
    exact (commit_forgets w).bind fun ids => .ofExcept _
  · rw [commitOne_of_several several, commitOne_of_several several]
    exact .fail _

/-- A commit of one row that writes down what it asks of catalog and store. -/
def commitOneLogged (w : Writer) (c : C) (s : S) :
    Except BatchFault Nat × Logged Question C × Logged Submission S :=
  w.commitOne (.ofState c, .ofState s)

theorem commitOne_eq_commitOneLogged (w : Writer) (c : C) (s : S) :
    w.commitOne (c, s) = ((w.commitOneLogged c s).1, (w.commitOneLogged c s).2.1.state,
      (w.commitOneLogged c s).2.2.state) :=
  Logged.eq_of_simulates (commitOne_forgets w) c s

theorem commitOneLogged_of_single (single : w.batch.rowCount = 1) (c : C) (s : S) :
    w.commitOneLogged c s = ((w.commitLogged c s).1 >>= firstId, (w.commitLogged c s).2) := by
  rw [commitOneLogged, commitOne_of_single single, Attempt.bind_ofExcept]
  rfl

/-! ## Replies -/

/-- What a commit makes of the reply to a request for one row. -/
def soleOutcome : Except StoreFault (List Nat) → Except BatchFault Nat
  | .error e => .error (.store e)
  | .ok [id] => .ok id
  | .ok ids => .error (.identifierCount 1 ids.length)

/-- The first identifier is taken only where there is no other. -/
theorem outcome_firstId (single : request.rowCount = 1) (reply : Except StoreFault (List Nat)) :
    outcome request reply >>= firstId = soleOutcome reply := by
  rcases reply with e | ids
  · rfl
  · rw [outcome, single]
    rcases ids with _ | ⟨id, _ | ⟨other, ids⟩⟩
    · rfl
    · rfl
    · simp [soleOutcome]
      rfl

theorem soleOutcome_of_length_ne_one {ids : List Nat} (other : ids.length ≠ 1) :
    soleOutcome (.ok ids) = .error (.identifierCount 1 ids.length) := by
  rcases ids with _ | ⟨id, _ | ⟨next, ids⟩⟩
  · rfl
  · exact absurd rfl other
  · rfl

theorem soleOutcome_of_error {reply : Except StoreFault (List Nat)} {e : BatchFault}
    (single : request.rowCount = 1) (failed : outcome request reply = .error e) :
    soleOutcome reply = .error e := by
  rw [← outcome_firstId single, failed]
  rfl

theorem reply_of_outcome {reply : Except StoreFault (List Nat)} {ids : List Nat}
    (single : request.rowCount = 1) (given : outcome request reply = .ok ids) :
    ∃ id, ids = [id] ∧ reply = .ok [id] := by
  cases reply with
  | error e => cases given
  | ok replied =>
    rw [outcome, single] at given
    split at given
    · cases given
      obtain ⟨id, rfl⟩ := List.length_eq_one_iff.mp ‹_›
      exact ⟨id, rfl, rfl⟩
    · cases given

theorem soleOutcome_ne_noData (reply : Except StoreFault (List Nat)) :
    soleOutcome reply ≠ .error .noData := by
  rcases reply with e | ⟨_ | ⟨first, _ | ⟨next, ids⟩⟩⟩ <;> simp [soleOutcome]

/-! ## Single rows -/

theorem commitOneLogged_of_idle (single : w.batch.rowCount = 1) (unset : w.batch.attributes = [])
    (c : C) (s : S) : w.commitOneLogged c s = (.error .noData, .ofState c, .ofState s) := by
  rw [commitOneLogged_of_single single, commitLogged_of_idle (.inr unset)]
  rfl

/-- A single row with anything set fails before the store is asked, and then not for want of
data, or its identifier is what the store replies. -/
theorem commitOneLogged_of_busy (single : w.batch.rowCount = 1) (data : w.batch.attributes ≠ [])
    (c : C) (s : S) :
    (∃ e asked, Unready e ∧ w.commitLogged c s = (.error e, asked, .ofState s) ∧
      w.commitOneLogged c s = (.error e, asked, .ofState s)) ∨
    ∃ request asked, request.rowCount = 1 ∧
      w.commitLogged c s = (outcome request (Store.insert request s).1, asked,
        ⟨(Store.insert request s).2, [request]⟩) ∧
      w.commitOneLogged c s = (soleOutcome (Store.insert request s).1, asked,
        ⟨(Store.insert request s).2, [request]⟩) := by
  have rows : w.batch.rowCount ≠ 0 := by omega
  rcases commitLogged_of_busy rows data c s with
    ⟨e, asked, unready, run⟩ | ⟨request, asked, draft, run⟩
  · refine .inl ⟨e, asked, unready, run, ?_⟩
    rw [commitOneLogged_of_single single, run]
    rfl
  · have one := draft.rowCount.trans single
    refine .inr ⟨request, asked, one, run, ?_⟩
    rw [commitOneLogged_of_single single, run, outcome_firstId one]

/-- After any run, with any catalog and any store: a commit of one row fails without asking if
there is no row or more than one. With one row it asks what a commit of the batch asks, and ends
with the same fault if that has one. It finds no data exactly if no attribute was ever set, and
then it asks nothing. Else it gives the one identifier that the store gave: any other number of
them is a fault that names the number. -/
theorem commitOne_of_run (entity : String) (options : WriteOptions) (c : C) (ops : List Operation)
    {c' : C} {h : History} (reached : (Session.ofWriter entity options c).run ops = ⟨w, c', h⟩)
    (s : S) :
    w.commitOne (c', s) = ((w.commitOneLogged c' s).1, (w.commitOneLogged c' s).2.1.state,
      (w.commitOneLogged c' s).2.2.state) ∧
    w.commit (c', s) = ((w.commitLogged c' s).1, (w.commitLogged c' s).2.1.state,
      (w.commitLogged c' s).2.2.state) ∧
    (h.rowCount = 0 → w.commitOneLogged c' s = (.error .noData, .ofState c', .ofState s)) ∧
    (1 < h.rowCount →
      w.commitOneLogged c' s = (.error (.severalRows h.rowCount), .ofState c', .ofState s)) ∧
    (h.rowCount = 1 →
      (w.commitOneLogged c' s).2 = (w.commitLogged c' s).2 ∧
      (∀ e, (w.commitLogged c' s).1 = .error e → (w.commitOneLogged c' s).1 = .error e) ∧
      ((w.commitOneLogged c' s).1 = .error .noData ↔ h.attributes = []) ∧
      (h.attributes = [] → w.commitOneLogged c' s = (.error .noData, .ofState c', .ofState s)) ∧
      (h.attributes ≠ [] → ∀ ids, (w.commitLogged c' s).1 = .ok ids →
        ∃ id request, (w.commitOneLogged c' s).1 = .ok id ∧ ids = [id] ∧
          (w.commitOneLogged c' s).2.2.log = [request] ∧ (Store.insert request s).1 = .ok [id]) ∧
      (∀ request ids, (w.commitOneLogged c' s).2.2.log = [request] →
        (Store.insert request s).1 = .ok ids → ids.length ≠ 1 →
        (w.commitOneLogged c' s).1 = .error (.identifierCount 1 ids.length))) := by
  have sound : Session.Sound entity options (fun _ => True) ⟨w, c', h⟩ :=
    reached ▸ (Session.ofWriter_sound entity options trivial).run (fun _ _ _ _ => trivial) ops
  have rows : w.batch.rowCount = h.rowCount := sound.records.rowCount
  have attributes : w.batch.attributes = h.attributes := sound.records.attributes
  rw [← rows, ← attributes]
  refine ⟨commitOne_eq_commitOneLogged w c' s, commit_eq_commitLogged w c' s, ?none, ?several,
    fun single => ?single⟩
  case none =>
    intro empty
    rw [commitOneLogged, commitOne_of_empty empty]
    rfl
  case several =>
    intro several
    rw [commitOneLogged, commitOne_of_several several]
    rfl
  case single =>
    by_cases unset : w.batch.attributes = []
    · rw [commitOneLogged_of_idle single unset, commitLogged_of_idle (.inr unset)]
      refine ⟨rfl, ?_, by simp [unset], fun _ => rfl, fun data => absurd unset data, ?_⟩
      · rintro e ⟨⟩
      · rintro request ids ⟨⟩
    · rcases commitOneLogged_of_busy single unset c' s with
        ⟨e, asked, unready, whole, one⟩ | ⟨request, asked, row, whole, one⟩
      · rw [whole, one]
        refine ⟨rfl, ?_, ?_, fun none => absurd none unset, nofun, nofun⟩
        · rintro _ ⟨⟩
          rfl
        · have other : e ≠ .noData := by
            rintro rfl
            cases unready
          simp [unset, other]
      · rw [whole, one]
        refine ⟨rfl, fun e failed => soleOutcome_of_error row failed, ?_,
          fun none => absurd none unset, ?_, ?_⟩
        · simp [unset, soleOutcome_ne_noData]
        · intro _ ids given
          obtain ⟨id, rfl, replied⟩ := reply_of_outcome row given
          exact ⟨id, request, congrArg soleOutcome replied, rfl, rfl, replied⟩
        · rintro _ ids ⟨⟩ replied other
          exact (congrArg soleOutcome replied).trans (soleOutcome_of_length_ne_one other)

/-- A store that has the same identifiers for every request. -/
private structure Clerk where
  ids : List Nat

private instance : Store Clerk where
  insert _ := fun clerk => (.ok clerk.ids, clerk)

private def tanks : Dictionary :=
  Dictionary.empty.addEntity ((Entity.ofName "tank").declare ⟨"level", .scalar .int, false⟩)

private def tank (ops : List Operation) : Session (CachedCatalog Dictionary) :=
  (Session.ofWriter "tank" {} (.ofSource tanks)).run ops

private def receipt (ops : List Operation) (ids : List Nat) :
    Except BatchFault Nat × Logged Question (CachedCatalog Dictionary) ×
      Logged Submission Clerk :=
  (tank ops).writer.commitOneLogged (tank ops).catalog ⟨ids⟩

private def dry : Operation := .put "level" (.null (.scalar .int))

/-- A row with nothing but a null is submitted: its identifier is given, and two of them are not
taken for one. A row without attributes is not, nor are two rows. -/
theorem commitOne_of_tank :
    (receipt [dry] [7]).1 = .ok 7 ∧ (receipt [dry] [7, 8]).1 = .error (.identifierCount 1 2) ∧
    receipt [.startRow] [7] = (.error .noData, .ofState (tank [.startRow]).catalog, .ofState ⟨[7]⟩) ∧
    (receipt [dry, .startRow] [7]).1 = .error (.severalRows 2) := by
  have run (ops : List Operation) (ids : List Nat) :=
    commitOne_of_run "tank" {} (CachedCatalog.ofSource tanks) ops (w := (tank ops).writer) rfl
      (Clerk.mk ids)
  obtain ⟨-, -, -, -, single⟩ := run [dry] [7]
  obtain ⟨-, -, -, -, given, -⟩ := single rfl
  obtain ⟨id, request, answer, same, -⟩ := given (by decide) [7] rfl
  obtain ⟨-, -, -, -, crowded⟩ := run [dry] [7, 8]
  obtain ⟨-, -, -, -, -, miscounted⟩ := crowded rfl
  obtain ⟨-, -, -, -, bare⟩ := run [.startRow] [7]
  obtain ⟨-, -, -, idle, -⟩ := bare rfl
  obtain ⟨-, -, -, several, -⟩ := run [dry, .startRow] [7]
  refine ⟨?_, miscounted _ [7, 8] rfl rfl (by decide), idle rfl, ?_⟩
  · cases same
    exact answer
  · exact congrArg Prod.fst (several (by decide))

end PackedRecords.Writer
