import Mathlib.Data.List.Basic
import PackedRecords.Proofs.Batch.History
import PackedRecords.Proofs.Succession

/-!
Calls on a new batch, some of which may be refused. The names of the attributes are written down
as they first appear, apart from the rows, and still they are the names that the rows have.

Proved here, for every sequence of calls:

* `Faithful.of_run`: which calls are refused, and the history that the others make, by
  induction on the calls;
* `Represents.of_faithful`: what names and rows say of that history.
-/

namespace PackedRecords

namespace Batch

open Attempt (inTurn)

variable {b : Batch} {h g : History} {calls : List Change} {call : Change} {attr : String}
  {d : Datum} {i : Nat} {answers : List (Except BatchFault (Option Nat))}

/-! ## Calls -/

namespace Change

/-- Makes a change. A row that is started is told by its index. -/
def perform : Change → Attempt BatchFault Batch (Option Nat)
  | .start => do pure (some (← startRow))
  | .set attr d => do
    put attr d
    pure none

def name? : Change → Option String
  | .start => none
  | .set attr _ => some attr

end Change

/-- The answers to calls on a new batch, and what they make of it. -/
def run (calls : List Change) : List (Except BatchFault (Option Nat)) × Batch :=
  inTurn (calls.map Change.perform) .empty

/-- The calls that no fault was the answer to. -/
def made (calls : List Change) (answers : List (Except BatchFault (Option Nat))) : List Change :=
  (calls.zip answers).filterMap fun (call, answer) => if answer.isOk then some call else none

/-- The names under which values were set, one for each value. -/
def names (calls : List Change) : List String := calls.filterMap Change.name?

/-- The calls without the values set before any row. -/
def fromFirstRow (calls : List Change) : List Change := calls.dropWhile (·.name?.isSome)

@[simp] theorem names_concat_start (calls : List Change) :
    names (calls ++ [.start]) = names calls := by
  simp [names, Change.name?]

@[simp] theorem names_concat_set (calls : List Change) (attr : String) (d : Datum) :
    names (calls ++ [.set attr d]) = names calls ++ [attr] := by
  simp [names, Change.name?]

theorem run_concat (calls : List Change) (call : Change) :
    run (calls ++ [call]) =
      ((run calls).1 ++ [(call.perform (run calls).2).1], (call.perform (run calls).2).2) := by
  simp [run, Attempt.inTurn_append, inTurn]

theorem made_concat (sizes : calls.length = answers.length) (call : Change)
    (answer : Except BatchFault (Option Nat)) :
    made (calls ++ [call]) (answers ++ [answer]) =
      made calls answers ++ if answer.isOk then [call] else [] := by
  rw [made, List.zip_append sizes, List.filterMap_append]
  cases accepted : answer.isOk <;> simp [made, accepted]

theorem perform_set_of_empty (empty : b.rowCount = 0) (attr : String) (d : Datum) :
    (Change.set attr d).perform b = (.error .noRow, b) := by
  rw [Change.perform, Attempt.bind_error (put_of_empty empty attr d)]

theorem Records.perform_set (records : b.Records h) (started : b.rowCount ≠ 0) (attr : String)
    (d : Datum) :
    ∃ b', (Change.set attr d).perform b = (.ok none, b') ∧ b'.Records (.set attr d :: h) := by
  obtain ⟨b', set, recorded⟩ := records.put started attr d
  exact ⟨b', by rw [Change.perform, Attempt.bind_ok set]; rfl, recorded⟩

namespace History

theorem rowCount_append (h g : History) : rowCount (h ++ g) = rowCount h + rowCount g := by
  induction h with
  | nil => simp [rowCount]
  | cons change h ih =>
    cases change with
    | start => rw [List.cons_append, rowCount, ih, rowCount]; omega
    | set attr d => exact ih

@[simp] theorem rowCount_reverse (h : History) : rowCount h.reverse = rowCount h := by
  induction h with
  | nil => rfl
  | cons change h ih => cases change <;> simp [rowCount_append, rowCount, ih]

@[simp] theorem rowCount_fromFirstRow (calls : List Change) :
    rowCount (fromFirstRow calls) = rowCount calls := by
  induction calls with
  | nil => rfl
  | cons call calls ih => cases call <;> simp_all [fromFirstRow, Change.name?, rowCount]

theorem rowCount_eq_zero_iff : rowCount calls = 0 ↔ Change.start ∉ calls := by
  induction calls with
  | nil => simp [rowCount]
  | cons call calls ih => cases call <;> simp [rowCount, ih]

theorem fromFirstRow_eq_nil_iff : fromFirstRow calls = [] ↔ rowCount calls = 0 := by
  induction calls with
  | nil => simp [fromFirstRow, rowCount]
  | cons call calls ih => cases call <;> simp_all [fromFirstRow, Change.name?, rowCount]

/-- Every attribute has a value somewhere. -/
def Held (h : History) : Prop := ∀ attr ∈ attributes h, ∃ i d, cell i attr h = some d

theorem Held.start (held : Held h) : Held (.start :: h) := held

theorem Held.set (held : Held h) (started : rowCount h ≠ 0) (attr : String) (d : Datum) :
    Held (.set attr d :: h) := by
  obtain ⟨last, count⟩ := Nat.exists_eq_succ_of_ne_zero started
  intro name mem
  rcases mem_attributes_set.mp mem with rfl | earlier
  · exact ⟨last, d, by simp [cell, count]⟩
  · obtain ⟨i, e, there⟩ := held name earlier
    by_cases here : attr = name ∧ rowCount h = i + 1
    · exact ⟨i, d, by simp [cell, here]⟩
    · exact ⟨i, e, by simp [cell, here, there]⟩

/-! ## Names -/

theorem mem_attributes_reverse : attr ∈ attributes calls.reverse ↔ attr ∈ names calls := by
  induction calls using List.reverseRecOn with
  | nil => simp [attributes, names]
  | append_singleton calls call ih =>
    cases call with
    | start => simpa [attributes] using ih
    | set name d =>
      rw [List.reverse_concat, mem_attributes_set, ih]
      simp [or_comm]

/-- The attributes are in the order in which they are first named. -/
theorem attributes_reverse_pairwise (calls : List Change) :
    (attributes calls.reverse).Pairwise fun first second =>
      (names calls).idxOf first < (names calls).idxOf second := by
  induction calls using List.reverseRecOn with
  | nil => exact .nil
  | append_singleton calls call ih =>
    cases call with
    | start => simpa [attributes] using ih
    | set name d =>
      -- A name that was there before is found where it was.
      have earlier : ∀ other ∈ attributes calls.reverse,
          (names calls ++ [name]).idxOf other = (names calls).idxOf other := fun other mem =>
        List.idxOf_append_of_mem (mem_attributes_reverse.mp mem)
      have kept : (attributes calls.reverse).Pairwise fun first second =>
          (names calls ++ [name]).idxOf first < (names calls ++ [name]).idxOf second :=
        ih.imp_of_mem fun first second => by simpa only [earlier _ first, earlier _ second] using id
      rw [List.reverse_concat, attributes, names_concat_set]
      split
      · exact kept
      · rename_i new
        refine List.pairwise_append.mpr ⟨kept, List.pairwise_singleton _ _, ?_⟩
        intro other mem _ last
        obtain rfl := List.mem_singleton.mp last
        rw [earlier other mem, List.idxOf_append_of_notMem (mt mem_attributes_reverse.mpr new)]
        have := List.idxOf_lt_length_of_mem (mem_attributes_reverse.mp mem)
        omega

/-! ## Rows -/

/-- A row is left alone once another one is started. -/
theorem cell_append_start (below : i < rowCount h) (attr : String) (g : History) :
    cell i attr (g ++ .start :: h) = cell i attr h := by
  induction g with
  | nil => rfl
  | cons change g ih =>
    cases change with
    | start => exact ih
    | set name d =>
      have count : rowCount (g ++ .start :: h) ≠ i + 1 := by
        rw [rowCount_append, rowCount]
        omega
      rw [List.cons_append, cell, if_neg fun both => count both.2, ih]

end History

/-! ## Runs -/

theorem fromFirstRow_append_start (before later : List Change) :
    fromFirstRow (before ++ .start :: later) = fromFirstRow before ++ .start :: later := by
  induction before with
  | nil => rfl
  | cons call before ih => cases call <;> simp_all [fromFirstRow, Change.name?]

theorem fromFirstRow_concat_set (started : History.rowCount calls ≠ 0) (attr : String) (d : Datum) :
    fromFirstRow (calls ++ [.set attr d]) = fromFirstRow calls ++ [.set attr d] := by
  rw [fromFirstRow, List.dropWhile_append, if_neg]
  · rfl
  · rw [List.isEmpty_iff]
    exact mt History.fromFirstRow_eq_nil_iff.mp started

/-- The calls that were not refused are those from the first row on, and they are the history
that the batch records. -/
structure Faithful (calls : List Change) (answers : List (Except BatchFault (Option Nat)))
    (b : Batch) : Prop where
  sizes : calls.length = answers.length
  made : Batch.made calls answers = fromFirstRow calls
  records : b.Records (fromFirstRow calls).reverse
  held : History.Held (fromFirstRow calls).reverse

namespace Faithful

theorem rowCount_eq (faithful : Faithful calls answers b) :
    b.rowCount = History.rowCount calls := by
  rw [faithful.records.rowCount, History.rowCount_reverse, History.rowCount_fromFirstRow]

theorem step (faithful : Faithful calls answers b) (call : Change) :
    Faithful (calls ++ [call]) (answers ++ [(call.perform b).1]) (call.perform b).2 := by
  have sizes : (calls ++ [call]).length = (answers ++ [(call.perform b).1]).length := by
    simp [faithful.sizes]
  cases call with
  | start =>
    have made : fromFirstRow (calls ++ [.start]) = fromFirstRow calls ++ [.start] :=
      fromFirstRow_append_start calls []
    refine ⟨sizes, ?_, ?_, ?_⟩
    · rw [made_concat faithful.sizes, faithful.made, made]
      rfl
    · rw [made, List.reverse_concat]
      exact faithful.records.addRow
    · rw [made, List.reverse_concat]
      exact faithful.held.start
  | set attr d =>
    by_cases started : History.rowCount calls = 0
    · have none : fromFirstRow (calls ++ [.set attr d]) = fromFirstRow calls := by
        have before := History.fromFirstRow_eq_nil_iff.mpr started
        rw [before, History.fromFirstRow_eq_nil_iff, History.rowCount_append, started]
        rfl
      rw [perform_set_of_empty (faithful.rowCount_eq.trans started)] at sizes ⊢
      refine ⟨sizes, ?_, none ▸ faithful.records, none ▸ faithful.held⟩
      rw [made_concat faithful.sizes, faithful.made, none]
      exact List.append_nil _
    · have made := fromFirstRow_concat_set started attr d
      have rows : b.rowCount ≠ 0 := faithful.rowCount_eq ▸ started
      obtain ⟨b', set, recorded⟩ := faithful.records.perform_set rows attr d
      rw [set] at sizes ⊢
      refine ⟨sizes, ?_, ?_, ?_⟩
      · rw [made_concat faithful.sizes, faithful.made, made]
        rfl
      · rw [made, List.reverse_concat]
        exact recorded
      · rw [made, List.reverse_concat]
        exact faithful.held.set (faithful.records.rowCount ▸ rows) attr d

theorem of_run (calls : List Change) : Faithful calls (run calls).1 (run calls).2 := by
  induction calls using List.reverseRecOn with
  | nil => exact ⟨rfl, rfl, records_empty, nofun⟩
  | append_singleton calls call ih =>
    rw [run_concat]
    exact ih.step call

end Faithful

/-- What the rows and the names of a batch say of the calls that it was asked. -/
structure Represents (calls : List Change) (answers : List (Except BatchFault (Option Nat)))
    (b : Batch) : Prop where
  nodup : b.attributes.Nodup
  order : b.attributes.Pairwise fun first second =>
    (names (made calls answers)).idxOf first < (names (made calls answers)).idxOf second
  named : ∀ attr, attr ∈ b.attributes ↔ attr ∈ names (made calls answers)
  keys : ∀ attr, attr ∈ b.attributes ↔ ∃ row ∈ b.rows, ∃ d, row.get? attr = some d
  rowCount : b.rowCount = History.rowCount calls
  /-- A row has the last value for each attribute of those set until the next one was started. -/
  row : ∀ (before : List Change) (values : List (String × Datum)) (after : List Change),
    calls = before ++ .start :: (values.map (fun (attr, d) => .set attr d) ++ after) →
    (∀ call, after.head? = some call → call = .start) →
    ∃ row, b.rows[History.rowCount before]? = some row ∧
      ∀ attr, row.get? attr = values.reverse.lookup attr

theorem exists_row_iff : (∃ row ∈ b.rows, ∃ d, row.get? attr = some d) ↔
    ∃ i d, b.cell i attr = some d := by
  constructor
  · rintro ⟨row, mem, d, there⟩
    obtain ⟨i, inside, here⟩ := Array.getElem_of_mem mem
    exact ⟨i, d, by simp [cell, inside, here, there]⟩
  · rintro ⟨i, d, there⟩
    obtain ⟨row, here, there⟩ := Option.bind_eq_some_iff.mp there
    exact ⟨row, Array.mem_of_getElem? here, d, there⟩

namespace History

/-- The values set behind the start of a row, up to the next start, are what it has. -/
theorem cell_of_row {before after : List Change} {values : List (String × Datum)}
    (next : ∀ call, after.head? = some call → call = .start) (attr : String) :
    cell (rowCount before) attr
        (fromFirstRow (before ++ .start ::
          (values.map (fun (attr, d) => .set attr d) ++ after))).reverse =
      values.reverse.lookup attr := by
  have earlier : rowCount (fromFirstRow before).reverse = rowCount before := by simp
  have own : cell (rowCount before) attr
      (settings values ++ .start :: (fromFirstRow before).reverse) =
        values.reverse.lookup attr := by
    rw [cell_settings, rowCount, earlier, if_pos rfl, cell, cell_of_le (Nat.le_of_eq earlier),
      Option.or_none]
  have split : (fromFirstRow (before ++ .start ::
      (values.map (fun (attr, d) => Change.set attr d) ++ after))).reverse =
      after.reverse ++ (settings values ++ .start :: (fromFirstRow before).reverse) := by
    simp [fromFirstRow_append_start, settings]
  rw [split]
  cases after with
  | nil => exact own
  | cons call after =>
    obtain rfl := next call rfl
    have below : rowCount before <
        rowCount (settings values ++ .start :: (fromFirstRow before).reverse) := by
      rw [rowCount_settings, rowCount, earlier]
      omega
    rw [List.reverse_cons, List.append_assoc, List.singleton_append, cell_append_start below, own]

end History

theorem Represents.of_faithful (faithful : Faithful calls answers b) :
    Represents calls answers b where
  nodup := by
    rw [faithful.records.attributes]
    exact (History.attributes_reverse_pairwise _).imp fun before same => by simp [same] at before
  order := by
    rw [faithful.records.attributes, faithful.made]
    exact History.attributes_reverse_pairwise _
  named attr := by
    rw [faithful.records.attributes, faithful.made, History.mem_attributes_reverse]
  keys attr := by
    rw [exists_row_iff, faithful.records.attributes]
    simp only [faithful.records.cell]
    exact ⟨faithful.held attr, fun ⟨_, _, there⟩ => History.mem_attributes_of_cell there⟩
  rowCount := faithful.rowCount_eq
  row before values after split next := by
    have inside : History.rowCount before < b.rows.size := by
      have count := faithful.rowCount_eq
      rw [split, History.rowCount_append, History.rowCount] at count
      exact Nat.lt_of_lt_of_eq (by omega) count.symm
    refine ⟨b.rows[History.rowCount before], Array.getElem?_eq_getElem inside, fun attr => ?_⟩
    have here := faithful.records.cell (History.rowCount before) attr
    rw [split, History.cell_of_row next] at here
    rw [← here]
    simp [cell, inside]

end Batch

end PackedRecords
