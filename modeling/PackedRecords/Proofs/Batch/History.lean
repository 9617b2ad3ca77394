import Mathlib.Data.List.Induction
import PackedRecords.Batch

/-!
Batches against what was done to them. A history tells what a cell must be without any
rows: it is the last value set while its row was the last one.

Proved here:

* `Records.addRow`, `Records.put`, `Records.putAll`: each step of a batch adds to the
  history that the batch records, the last by induction on the values;
* `History.cell_ofRows`: what whole rows leave in each cell, by induction on the rows;
* `cells_eq`: the transposed cells, row by row.
-/

namespace PackedRecords.Batch

/-! ## Histories -/

/-- One thing done to a batch. -/
inductive Change where
  | start
  | set (attr : String) (d : Datum)

/-- What was done to a batch that was empty at first, latest first. -/
abbrev History := List Change

namespace History

/-- The number of rows started. -/
def rowCount : History → Nat
  | [] => 0
  | .start :: h => rowCount h + 1
  | .set _ _ :: h => rowCount h

/-- The last value set for an attribute while row `i` was the last one. -/
def cell (i : Nat) (attr : String) : History → Cell
  | [] => none
  | .start :: h => cell i attr h
  | .set name d :: h => if name = attr ∧ rowCount h = i + 1 then some d else cell i attr h

/-- The attributes set, in the order of their first values. -/
def attributes : History → List String
  | [] => []
  | .start :: h => attributes h
  | .set name _ :: h => if name ∈ attributes h then attributes h else attributes h ++ [name]

/-- The setting of attributes in turn. -/
def settings (values : List (String × Datum)) : History :=
  (values.map fun (attr, d) => .set attr d).reverse

variable {h : History} {i : Nat} {attr name : String} {d : Datum}

theorem mem_attributes_set :
    name ∈ attributes (.set attr d :: h) ↔ name = attr ∨ name ∈ attributes h := by
  rw [attributes]
  split
  · constructor
    · exact .inr
    · rintro (rfl | mem)
      · assumption
      · exact mem
  · rw [List.mem_append, List.mem_singleton, or_comm]

theorem mem_attributes_of_cell (there : cell i attr h = some d) : attr ∈ attributes h := by
  induction h with
  | nil => cases there
  | cons change h ih =>
    cases change with
    | start => exact ih there
    | set name e =>
      rw [mem_attributes_set]
      rw [cell] at there
      split at there
      · rename_i here
        exact .inl here.1.symm
      · exact .inr (ih there)

theorem settings_cons (attr : String) (d : Datum) (values : List (String × Datum)) (h : History) :
    settings ((attr, d) :: values) ++ h = settings values ++ .set attr d :: h := by
  simp [settings]

theorem rowCount_settings (values : List (String × Datum)) (h : History) :
    rowCount (settings values ++ h) = rowCount h := by
  induction values generalizing h with
  | nil => rfl
  | cons value values ih => rw [settings_cons, ih, rowCount]

/-- A row that was not started has nothing set. -/
theorem cell_of_le (outside : rowCount h ≤ i) : cell i attr h = none := by
  induction h with
  | nil => rfl
  | cons change h ih =>
    cases change with
    | start =>
      rw [rowCount] at outside
      exact ih (by omega)
    | set name e =>
      rw [rowCount] at outside
      rw [cell, if_neg (by omega)]
      exact ih outside

/-- Setting attributes of the last row leaves all other rows as they are. In the last row the
last setting of an attribute counts. -/
theorem cell_settings (values : List (String × Datum)) (h : History) (i : Nat) (attr : String) :
    cell i attr (settings values ++ h) =
      if rowCount h = i + 1 then (values.reverse.lookup attr).or (cell i attr h)
      else cell i attr h := by
  induction values generalizing h with
  | nil => simp [settings]
  | cons value values ih =>
    obtain ⟨name, d⟩ := value
    rw [settings_cons, ih, List.reverse_cons, List.lookup_append, Option.or_assoc, rowCount, cell]
    by_cases last : rowCount h = i + 1
    · by_cases same : name = attr
      · simp [last, same]
      · have other : (attr == name) = false := by simpa using Ne.symm same
        simp [last, same, other, List.lookup_cons]
    · simp [last]

theorem mem_attributes_settings (values : List (String × Datum)) (h : History) :
    name ∈ attributes (settings values ++ h) ↔
      name ∈ values.map Prod.fst ∨ name ∈ attributes h := by
  induction values generalizing h with
  | nil => simp [settings]
  | cons value values ih =>
    rw [settings_cons, ih, mem_attributes_set, List.map_cons, List.mem_cons, ← or_assoc,
      or_comm (b := name = value.1)]

/-- Adds an attribute behind those there are, unless it is one of them. -/
def enroll (names : List String) (name : String) : List String :=
  if name ∈ names then names else names ++ [name]

theorem attributes_settings (values : List (String × Datum)) (h : History) :
    attributes (settings values ++ h) = (values.map Prod.fst).foldl enroll (attributes h) := by
  induction values generalizing h with
  | nil => rfl
  | cons value values ih =>
    rw [settings_cons, ih, attributes, List.map_cons, List.foldl_cons, enroll]

/-- Whole rows, one after the other. -/
def ofRows (rows : List (List (String × Datum))) : History :=
  rows.foldl (fun h values => settings values ++ .start :: h) []

theorem ofRows_concat (rows : List (List (String × Datum))) (values : List (String × Datum)) :
    ofRows (rows ++ [values]) = settings values ++ .start :: ofRows rows := by
  rw [ofRows, List.foldl_append]
  rfl

theorem rowCount_ofRows (rows : List (List (String × Datum))) :
    rowCount (ofRows rows) = rows.length := by
  induction rows using List.reverseRecOn with
  | nil => rfl
  | append_singleton rows values ih =>
    rw [ofRows_concat, rowCount_settings, rowCount, ih, List.length_append, List.length_singleton]

theorem cell_ofRows (rows : List (List (String × Datum))) (i : Nat) (attr : String) :
    cell i attr (ofRows rows) = rows[i]?.bind fun values => values.reverse.lookup attr := by
  induction rows using List.reverseRecOn with
  | nil => rfl
  | append_singleton rows values ih =>
    have count : rowCount (.start :: ofRows rows) = rows.length + 1 := by
      rw [rowCount, rowCount_ofRows]
    rw [ofRows_concat, cell_settings, count, cell, ih]
    rcases Nat.lt_trichotomy i rows.length with earlier | last | outside
    · rw [if_neg (by omega), List.getElem?_append_left earlier]
    · subst last
      simp
    · have past : (rows ++ [values])[i]? = none := by
        rw [List.getElem?_eq_none_iff, List.length_append, List.length_singleton]
        omega
      rw [if_neg (by omega), List.getElem?_eq_none (by omega), past]

theorem mem_attributes_ofRows (rows : List (List (String × Datum))) :
    name ∈ attributes (ofRows rows) ↔ ∃ values ∈ rows, name ∈ values.map Prod.fst := by
  induction rows using List.reverseRecOn with
  | nil => simp [ofRows, attributes]
  | append_singleton rows values ih =>
    rw [ofRows_concat, mem_attributes_settings, attributes, ih]
    simp only [List.mem_append, List.mem_singleton, or_and_right, exists_or, exists_eq_left]
    exact or_comm

end History

/-! ## Batches and their histories -/

variable {b : Batch} {h : History} {attr : String} {d : Datum} {values : List (String × Datum)}

/-- What row `i` has for an attribute. -/
def cell (b : Batch) (i : Nat) (attr : String) : Cell := b.rows[i]?.bind (·.get? attr)

theorem cells_eq (b : Batch) (attr : String) :
    b.cells attr = (List.range b.rowCount).map (b.cell · attr) := by
  apply List.ext_getElem (by simp [cells, rowCount])
  intro i _ inside
  have inside : i < b.rows.size := by simpa [rowCount] using inside
  simp [cells, cell, inside]

/-- A batch that has come about by what the history tells. -/
structure Records (b : Batch) (h : History) : Prop where
  rowCount : b.rowCount = h.rowCount
  cell : ∀ i attr, b.cell i attr = h.cell i attr
  attributes : b.attributes = h.attributes

theorem records_empty : Batch.empty.Records [] := ⟨rfl, fun _ _ => rfl, rfl⟩

theorem rowCount_addRow (b : Batch) : b.addRow.rowCount = b.rowCount + 1 := Array.size_push _

theorem Records.addRow (records : b.Records h) : b.addRow.Records (.start :: h) where
  rowCount := by rw [rowCount_addRow, records.rowCount, History.rowCount]
  cell := by
    intro i attr
    have before := records.cell i attr
    rw [History.cell, ← before, Batch.cell, Batch.cell, Batch.addRow, Array.getElem?_push]
    split
    · rename_i last
      subst last
      simp [NameMap.get?_empty]
    · rfl
  attributes := records.attributes

/-! ## Setting attributes of the last row -/

theorem put_of_empty (empty : b.rowCount = 0) (attr : String) (d : Datum) :
    put attr d b = (.error .noRow, b) := by
  have none : b.rows.back? = none := by
    simpa [Array.back?_eq_none_iff, rowCount] using empty
  rw [put, none]

theorem Records.put (records : b.Records h) (started : b.rowCount ≠ 0) (attr : String)
    (d : Datum) :
    ∃ b', Batch.put attr d b = (.ok (), b') ∧ b'.Records (.set attr d :: h) := by
  obtain ⟨rows, row, split⟩ := Array.eq_push_of_size_ne_zero started
  refine ⟨⟨rows.push (row.insert attr d), (History.attributes (.set attr d :: h))⟩, ?_, ?_⟩
  · simp only [Batch.put, split, Array.back?_push, Array.pop_push, History.attributes,
      records.attributes]
  · have count : h.rowCount = rows.size + 1 := by
      rw [← records.rowCount, Batch.rowCount, split, Array.size_push]
    constructor
    case rowCount => simp [Batch.rowCount, History.rowCount, count]
    case attributes => rfl
    case cell =>
      intro i name
      have before := records.cell i name
      rw [Batch.cell, split, Array.getElem?_push] at before
      rw [History.cell, ← before, Batch.cell, Array.getElem?_push]
      -- Row `rows.size` is the last one, which is where the new value shows.
      by_cases here : i = rows.size
      · by_cases same : name = attr
        · simp [here, same, count, NameMap.get?_insert]
        · simp [here, same, Ne.symm same, NameMap.get?_insert]
      · have above : h.rowCount ≠ i + 1 := by omega
        simp [here, above]

theorem Records.putAll (records : b.Records h) (started : b.rowCount ≠ 0)
    (values : List (String × Datum)) :
    ∃ b', Batch.putAll values b = (.ok (), b') ∧ b'.Records (History.settings values ++ h) := by
  induction values generalizing b h with
  | nil => exact ⟨b, rfl, records⟩
  | cons value values ih =>
    obtain ⟨attr, d⟩ := value
    obtain ⟨next, set, recorded⟩ := records.put started attr d
    have started' : next.rowCount ≠ 0 := by
      rw [recorded.rowCount, History.rowCount, ← records.rowCount]
      exact started
    obtain ⟨last, run, all⟩ := ih recorded started'
    refine ⟨last, ?_, by simpa [History.settings] using all⟩
    rw [Batch.putAll, Attempt.bind_ok set, run]

end PackedRecords.Batch
