import Mathlib.Algebra.GroupWithZero.Nat
import Mathlib.Data.Finset.Insert
import Mathlib.Data.List.Nodup
import PackedRecords.Proofs.Batch.Run

/-!
A batch by rows and the same batch by attributes. The transposition goes by the names of the
attributes alone; it loses nothing, because no name is missing and none is there twice.

Proved here, for every sequence of calls:

* `Transposes.of_represents`: the cells hold the values of the rows, each in one place;
* `Gathering.run_tracks`, `Gathering.drain_eq`: a batch that keeps the names seen as a set, and
  gives its values away as it is transposed, is answered the same and has the same cells.
-/

namespace PackedRecords

namespace NameMap

variable {α : Type}

/-- The map without the entry of a name. -/
def erase (m : NameMap α) (name : String) : NameMap α :=
  ⟨m.entries.filter (·.1 ≠ name), m.sorted.filter _⟩

theorem lookup_filter_ne (name other : String) (l : List (String × α)) :
    (l.filter (·.1 ≠ name)).lookup other = if other = name then none else l.lookup other := by
  induction l with
  | nil => simp
  | cons entry rest ih =>
    obtain ⟨key, x⟩ := entry
    by_cases gone : key = name
    · subst gone
      rw [List.filter_cons_of_neg (by simp), ih, List.lookup_cons]
      grind
    · rw [List.filter_cons_of_pos (by simpa using gone), List.lookup_cons, List.lookup_cons, ih]
      grind

theorem get?_erase (m : NameMap α) (name other : String) :
    (m.erase name).get? other = if other = name then none else m.get? other :=
  lookup_filter_ne name other m.entries

end NameMap

namespace Batch

variable {b : Batch} {calls : List Change} {attr : String} {d : Datum} {i : Nat}
  {answers : List (Except BatchFault (Option Nat))}

/-! ## Cells -/

/-- The values in the cells of columns, each with the row and the attribute it is in. -/
def placed (columns : List (String × List Cell)) : List (Nat × String × Datum) :=
  columns.flatMap fun (attr, cells) =>
    cells.zipIdx.filterMap fun (cell, i) => cell.map fun d => (i, attr, d)

/-- The values in the rows, each with the row and the attribute it is in. -/
def entries (b : Batch) : List (Nat × String × Datum) :=
  b.rows.toList.zipIdx.flatMap fun (row, i) => row.entries.map fun (attr, d) => (i, attr, d)

/-- The columns are the rows by attribute: each has its cell for each row, and what is in the
cells is what is in the rows, every value in one cell. -/
structure Transposes (b : Batch) (columns : List (String × List Cell)) : Prop where
  names : columns.map Prod.fst = b.attributes
  sizes : ∀ column ∈ columns, column.2.length = b.rowCount
  cells : ∀ column ∈ columns, ∀ (i : Nat) (row : Row), b.rows[i]? = some row →
    column.2[i]? = some (row.get? column.1)
  lossless : (placed columns).Perm b.entries
  filled : (columns.map fun column => column.2.countP Option.isSome).sum =
    (b.rows.toList.map NameMap.size).sum

theorem mem_placed {columns : List (String × List Cell)} :
    (i, attr, d) ∈ placed columns ↔
      ∃ cells, (attr, cells) ∈ columns ∧ cells[i]? = some (some d) := by
  simp [placed, List.mem_zipIdx_iff_getElem?]

theorem mem_entries : (i, attr, d) ∈ b.entries ↔ b.cell i attr = some d := by
  simp [entries, List.mem_zipIdx_iff_getElem?, NameMap.mem_entries, cell, Option.bind_eq_some_iff]

theorem nodup_zipIdx {α : Type} (l : List α) : l.zipIdx.Nodup :=
  .of_map Prod.snd (by simp [List.nodup_range'])

theorem nodup_placed {columns : List (String × List Cell)}
    (distinct : (columns.map Prod.fst).Nodup) : (placed columns).Nodup := by
  refine List.nodup_flatMap.mpr ⟨fun column _ => ?_, ?_⟩
  · refine (nodup_zipIdx _).filterMap fun x y z hx hy => ?_
    obtain ⟨d, first, rfl⟩ := Option.map_eq_some_iff.mp hx
    obtain ⟨e, second, same⟩ := Option.map_eq_some_iff.mp hy
    simp only [Prod.mk.injEq, true_and] at same
    exact Prod.ext (first.trans (same.2 ▸ second.symm)) same.1.symm
  · refine (List.pairwise_map.mp distinct).imp fun differ => ?_
    intro place one other
    simp only [List.mem_filterMap, Option.map_eq_some_iff] at one other
    obtain ⟨_, -, _, -, rfl⟩ := one
    obtain ⟨_, -, _, -, same⟩ := other
    simp only [Prod.mk.injEq] at same
    exact differ same.2.1.symm

theorem nodup_entries (b : Batch) : b.entries.Nodup := by
  refine List.nodup_flatMap.mpr ⟨fun row _ => ?_, ?_⟩
  · refine List.Nodup.map ?_ (row.1.sorted.imp fun before same => ?_)
    · rintro ⟨_, _⟩ ⟨_, _⟩ same
      simpa using same
    · exact String.lt_irrefl _ (same ▸ before)
  · have indices : (b.rows.toList.zipIdx.map Prod.snd).Nodup := by simp [List.nodup_range']
    refine (List.pairwise_map.mp indices).imp fun differ => ?_
    intro place first second
    simp only [List.mem_map] at first second
    obtain ⟨_, -, rfl⟩ := first
    obtain ⟨_, -, same⟩ := second
    simp only [Prod.mk.injEq] at same
    exact differ same.1.symm

theorem length_placed (columns : List (String × List Cell)) :
    (placed columns).length = (columns.map fun column => column.2.countP Option.isSome).sum := by
  have each (cells : List Cell) (attr : String) :
      (cells.zipIdx.filterMap fun (cell, i) => cell.map fun d => (i, attr, d)).length =
        cells.countP Option.isSome := by
    have values := List.countP_map (p := Option.isSome) (f := Prod.fst) (l := cells.zipIdx)
    rw [List.zipIdx_map_fst] at values
    rw [List.length_filterMap_eq_countP, values]
    simp [Function.comp_def]
  simp [placed, List.length_flatMap, each]

theorem length_entries (b : Batch) : b.entries.length = (b.rows.toList.map NameMap.size).sum := by
  have rows := List.map_map (f := Prod.fst) (g := NameMap.size) (l := b.rows.toList.zipIdx)
  rw [List.zipIdx_map_fst] at rows
  rw [rows]
  simp [entries, List.length_flatMap, NameMap.size, Function.comp_def]

theorem getElem?_cells (b : Batch) (attr : String) (i : Nat) :
    (b.cells attr)[i]? = b.rows[i]?.map (·.get? attr) := by
  simp [cells]

/-- No value is lost, since every attribute is named, nor is any there twice, since none is
named twice. -/
theorem placed_transpose (represents : Represents calls answers b) :
    (placed b.transpose).Perm b.entries := by
  have distinct : (b.transpose.map Prod.fst).Nodup := by
    simpa [transpose, Function.comp_def] using represents.nodup
  rw [List.perm_ext_iff_of_nodup (nodup_placed distinct) b.nodup_entries]
  rintro ⟨i, attr, d⟩
  rw [mem_placed, mem_entries]
  constructor
  · rintro ⟨cells, mem, here⟩
    obtain ⟨name, -, same⟩ := List.mem_map.mp mem
    cases same
    rw [getElem?_cells] at here
    simpa [cell, Option.bind_eq_some_iff] using here
  · intro there
    have named := (represents.keys attr).mpr (exists_row_iff.mpr ⟨i, d, there⟩)
    refine ⟨b.cells attr, List.mem_map.mpr ⟨attr, named, rfl⟩, ?_⟩
    rw [getElem?_cells]
    simpa [cell, Option.bind_eq_some_iff] using there

theorem Transposes.of_represents (represents : Represents calls answers b) :
    Transposes b b.transpose where
  names := by simp [transpose, Function.comp_def]
  sizes column mem := by
    obtain ⟨attr, -, rfl⟩ := List.mem_map.mp mem
    simp [Batch.cells, Batch.rowCount]
  cells column mem i row here := by
    obtain ⟨attr, -, rfl⟩ := List.mem_map.mp mem
    rw [getElem?_cells, here]
    rfl
  lossless := placed_transpose represents
  filled := by rw [← length_placed, ← length_entries, (placed_transpose represents).length_eq]

end Batch

/-! ## Batches that are given away -/

/-- A batch whose names are also kept as a set, to tell if one was seen before. -/
structure Gathering where
  rows : Array Row
  attributes : List String
  seen : Finset String

namespace Gathering

open Batch (Change)

variable {g : Gathering} {b : Batch}

def empty : Gathering := ⟨#[], [], ∅⟩

def startRow : Attempt BatchFault Gathering Nat := fun g =>
  let rows := g.rows.push .empty
  (.ok (rows.size - 1), { g with rows })

def put (attr : String) (d : Datum) : Attempt BatchFault Gathering Unit := fun g =>
  match g.rows.back? with
  | none => (.error .noRow, g)
  | some row =>
    let rows := g.rows.pop.push (row.insert attr d)
    if attr ∈ g.seen then (.ok (), { g with rows })
    else (.ok (), ⟨rows, g.attributes ++ [attr], insert attr g.seen⟩)

def perform : Change → Attempt BatchFault Gathering (Option Nat)
  | .start => do pure (some (← startRow))
  | .set attr d => do
    put attr d
    pure none

/-- The answers to calls on a new batch, and what they make of it. -/
def run (calls : List Change) : List (Except BatchFault (Option Nat)) × Gathering :=
  Attempt.inTurn (calls.map perform) .empty

/-- Takes the values of attributes in turn out of the rows. What is left of these comes last. -/
def drain : List String → Array Row → List (String × List Cell) × Array Row
  | [], rows => ([], rows)
  | attr :: attrs, rows =>
    let (columns, left) := drain attrs (rows.map (·.erase attr))
    ((attr, (rows.map (·.get? attr)).toList) :: columns, left)

def transpose (g : Gathering) : List (String × List Cell) × Array Row :=
  drain g.attributes g.rows

/-- The rows and names are those of the batch, and the set holds these names. -/
structure Tracks (g : Gathering) (b : Batch) : Prop where
  rows : g.rows = b.rows
  attributes : g.attributes = b.attributes
  seen : ∀ attr, attr ∈ g.seen ↔ attr ∈ b.attributes

theorem startRow_simulates : Attempt.Simulates Tracks startRow Batch.startRow := by
  intro g b tracks
  refine ⟨?_, ?_, tracks.attributes, tracks.seen⟩
  · simp [startRow, Batch.startRow, Batch.rowCount, tracks.rows]
  · simp [startRow, Batch.startRow, Batch.addRow, tracks.rows]

theorem put_simulates (attr : String) (d : Datum) :
    Attempt.Simulates Tracks (put attr d) (Batch.put attr d) := by
  intro g b tracks
  rw [put, Batch.put, tracks.rows]
  cases b.rows.back? with
  | none => exact ⟨rfl, tracks⟩
  | some row =>
    by_cases known : attr ∈ b.attributes
    · simp only [if_pos known, if_pos ((tracks.seen attr).mpr known)]
      exact ⟨trivial, rfl, tracks.attributes, tracks.seen⟩
    · simp only [if_neg known, if_neg (mt (tracks.seen attr).mp known)]
      refine ⟨trivial, rfl, by rw [tracks.attributes], fun name => ?_⟩
      simp [tracks.seen, or_comm]

theorem perform_simulates (call : Change) :
    Attempt.Simulates Tracks (perform call) call.perform := by
  cases call with
  | start => exact startRow_simulates.bind fun _ => .pure _
  | set attr d => exact (put_simulates attr d).bind fun _ => .pure _

theorem run_tracks (calls : List Change) :
    (run calls).1 = (Batch.run calls).1 ∧ Tracks (run calls).2 (Batch.run calls).2 :=
  Attempt.Simulates.inTurn perform_simulates calls ⟨rfl, rfl, by simp [empty, Batch.empty]⟩

/-- What is taken out for one name is not missed under another. -/
theorem drain_eq {attrs : List String} (distinct : attrs.Nodup) (rows : Array Row) :
    (drain attrs rows).1 = attrs.map fun attr => (attr, rows.toList.map (·.get? attr)) := by
  induction attrs generalizing rows with
  | nil => rfl
  | cons attr attrs ih =>
    obtain ⟨new, distinct⟩ := List.nodup_cons.mp distinct
    have rest : (drain attrs (rows.map (·.erase attr))).1 =
        attrs.map fun name => (name, rows.toList.map (·.get? name)) := by
      rw [ih distinct]
      refine List.map_congr_left fun name mem => ?_
      have other : name ≠ attr := fun same => new (same ▸ mem)
      simp [NameMap.get?_erase, other]
    simp [drain, rest]

theorem drain_left (attrs : List String) (rows : Array Row) :
    (drain attrs rows).2 = rows.map (attrs.foldl NameMap.erase) := by
  induction attrs generalizing rows with
  | nil => simp [drain]
  | cons attr attrs ih => simp [drain, ih, Function.comp_def]

theorem get?_foldl_erase (attrs : List String) (row : Row) (name : String) :
    (attrs.foldl NameMap.erase row).get? name = if name ∈ attrs then none else row.get? name := by
  induction attrs generalizing row with
  | nil => simp
  | cons attr attrs ih => grind [NameMap.get?_erase]

/-- The cells are those of the batch, and the rows are left empty. -/
theorem Tracks.transpose_eq {calls : List Change} {answers : List (Except BatchFault (Option Nat))}
    (tracks : Tracks g b) (represents : b.Represents calls answers) :
    g.transpose = (b.transpose, Array.replicate b.rowCount .empty) := by
  rw [transpose, tracks.attributes, tracks.rows]
  refine Prod.ext (drain_eq represents.nodup b.rows) ?_
  rw [drain_left]
  refine Array.ext (by simp [Batch.rowCount]) fun i inside _ => NameMap.ext_get? fun name => ?_
  rw [Array.getElem_map, Array.getElem_replicate, get?_foldl_erase, NameMap.get?_empty]
  split
  · rfl
  · rename_i unnamed
    refine Option.eq_none_iff_forall_ne_some.mpr fun d there => unnamed ?_
    exact (represents.keys name).mpr ⟨_, Array.getElem_mem _, d, there⟩

end Gathering

namespace Batch

variable {calls : List Change} {answers : List (Except BatchFault (Option Nat))} {b : Batch}

theorem put_refused_iff (represents : Represents calls answers b) (attr : String) (d : Datum) :
    ((∃ e, (put attr d b).1 = .error e) ↔ .start ∉ calls) ∧
      ∀ e, (put attr d b).1 = .error e → e = .noRow ∧ (put attr d b).2 = b := by
  have rows : b.rowCount = 0 ↔ .start ∉ calls := by
    rw [represents.rowCount, History.rowCount_eq_zero_iff]
  by_cases empty : b.rowCount = 0
  · rw [put_of_empty empty]
    refine ⟨⟨fun _ => rows.mp empty, fun _ => ⟨_, rfl⟩⟩, ?_⟩
    rintro e ⟨⟩
    exact ⟨rfl, rfl⟩
  · obtain ⟨rows', row, split⟩ := Array.eq_push_of_size_ne_zero empty
    have set : (put attr d b).1 = .ok () := by simp [put, split]
    simp [set, mt rows.mpr empty]

/-- After any calls on a new batch, a value is refused exactly if no row was started, and then
changes nothing. The attributes are those that were set, each once and in the order of their
first values; the rows have the last value for each. Transposed, the batch has a column for each
attribute in that order, with a cell for each row, and each value of a row is in one cell. To
keep the names in a set as well, and to take the values out of the rows on the way, comes to the
same and leaves nothing in the rows. -/
theorem transpose_of_run (ran : run calls = (answers, b)) :
    (∀ attr d, ((∃ e, (put attr d b).1 = .error e) ↔ .start ∉ calls) ∧
      ∀ e, (put attr d b).1 = .error e → e = .noRow ∧ (put attr d b).2 = b) ∧
    Represents calls answers b ∧
    Transposes b b.transpose ∧
    ∃ g, Gathering.run calls = (answers, g) ∧
      g.rows = b.rows ∧ g.attributes = b.attributes ∧
      (∀ attr, attr ∈ g.seen ↔ attr ∈ b.attributes) ∧
      g.transpose = (b.transpose, Array.replicate b.rowCount .empty) := by
  have faithful := Faithful.of_run calls
  obtain ⟨same, tracks⟩ := Gathering.run_tracks calls
  rw [ran] at faithful same tracks
  have represents := Represents.of_faithful faithful
  exact ⟨put_refused_iff represents, represents, .of_represents represents,
    (Gathering.run calls).2, Prod.ext same rfl, tracks.rows, tracks.attributes, tracks.seen,
    tracks.transpose_eq represents⟩

private def metres (n : Int32) : Datum := .ofValue ⟨.scalar .int, n⟩

private def ebb : List Change :=
  [.set "level" (metres 9), .start, .set "level" (metres 1), .start, .set "flow" (metres 2),
    .set "level" (metres 3), .set "level" (metres 4)]

/-- A value before any row, and one that is set twice: three values are left, and each is in
its cell. -/
theorem transpose_of_ebb :
    ∃ b g, run ebb = ([.error .noRow, .ok (some 0), .ok none, .ok (some 1), .ok none, .ok none,
        .ok none], b) ∧
      b.attributes = ["level", "flow"] ∧
      (∃ row, b.rows[1]? = some row ∧ row.get? "level" = some (metres 4)) ∧
      (b.transpose.map fun column => column.2.countP Option.isSome).sum = 3 ∧
      (Gathering.run ebb).2 = g ∧ g.transpose = (b.transpose, #[.empty, .empty]) := by
  have ran : run ebb = ([.error .noRow, .ok (some 0), .ok none, .ok (some 1), .ok none, .ok none,
      .ok none], (run ebb).2) := rfl
  obtain ⟨-, represents, transposes, g, gathered, -, -, -, drained⟩ := transpose_of_run ran
  obtain ⟨row, here, last⟩ := represents.row
    [.set "level" (metres 9), .start, .set "level" (metres 1)]
    [("flow", metres 2), ("level", metres 3), ("level", metres 4)] [] rfl nofun
  exact ⟨(run ebb).2, g, ran, rfl, ⟨row, here, last "level"⟩, transposes.filled,
    congrArg Prod.snd gathered, drained⟩

end Batch

end PackedRecords
