import PackedRecords.Column

/-!
Columns against the cells they were built from.

Proved here:

* `foldlM_add_of_fits`: a column holds the cells added so far, by induction on the cells
  to come;
* `ofCells_of_fits`, `ofCells_of_misfit`: when a column can be built, and what else the
  first cell that does not fit is reported as;
* `Holds.unique`: the cells determine the column.
-/

namespace PackedRecords

/-! ## Cells -/

namespace Cell

/-- What a cell holds, if that is valid. -/
def valid? : Cell → Option Datum
  | some d => if d.valid then some d else none
  | none => none

/-- The value that a column of kind `k` shows for a cell. -/
def shown (k : Kind) (cell : Cell) : Value :=
  match cell.valid? with
  | some d => d.value
  | none => ⟨k, k.filler⟩

theorem shown_eq (k : Kind) (cell : Cell) :
    cell.shown k = (cell.valid?.map Datum.value).getD ⟨k, k.filler⟩ := by
  rw [shown]
  cases cell.valid? with
  | none => rfl
  | some d => rfl

def unit? (cell : Cell) : Option String := cell.valid?.bind (·.unit)

/-- Whatever the cell validly holds is of kind `k`. -/
def Fits (k : Kind) (cell : Cell) : Prop := ∀ d, cell.valid? = some d → d.kind = k

theorem valid?_eq_some_iff {cell : Cell} {d : Datum} :
    cell.valid? = some d ↔ cell = some d ∧ d.valid = true := by
  rcases cell with _ | e
  · simp [valid?]
  · cases valid : e.valid <;> grind [valid?]

end Cell

/-- Row `i` is the first with a valid datum of which `p` holds, and `d` is that datum. -/
structure FirstValid (p : Datum → Prop) (cells : List Cell) (i : Nat) (d : Datum) : Prop where
  here : cells[i]? = some (some d)
  valid : d.valid = true
  holds : p d
  before : ∀ j cell e, j < i → cells[j]? = some cell → cell.valid? = some e → ¬p e

namespace FirstValid

variable {p : Datum → Prop} {cell : Cell} {cells : List Cell} {i : Nat} {d : Datum}

theorem succ (h : FirstValid p cells i d) (other : ∀ e, cell.valid? = some e → ¬p e) :
    FirstValid p (cell :: cells) (i + 1) d where
  here := h.here
  valid := h.valid
  holds := h.holds
  before := by
    rintro (_ | j) found e below there
    · cases there
      exact other e
    · exact h.before j found e (Nat.lt_of_succ_lt_succ below) there

/-- A condition has a first valid datum, unless it fails for all of them. -/
theorem exists_or_none (p : Datum → Prop) (cells : List Cell) :
    (∃ i d, FirstValid p cells i d) ∨ ∀ cell ∈ cells, ∀ d, cell.valid? = some d → ¬p d := by
  induction cells with
  | nil => exact .inr fun cell mem => nomatch mem
  | cons cell cells ih =>
    by_cases here : ∃ d, cell.valid? = some d ∧ p d
    · obtain ⟨d, found, holds⟩ := here
      obtain ⟨rfl, valid⟩ := Cell.valid?_eq_some_iff.mp found
      exact .inl ⟨0, d, ⟨rfl, valid, holds, fun j _ _ below => absurd below (Nat.not_lt_zero j)⟩⟩
    · have other : ∀ e, cell.valid? = some e → ¬p e := fun e valid holds => here ⟨e, valid, holds⟩
      rcases ih with ⟨i, d, first⟩ | none
      · exact .inl ⟨i + 1, d, first.succ other⟩
      · exact .inr (List.forall_mem_cons.mpr ⟨other, none⟩)

theorem exists_or_null (cells : List Cell) :
    (∃ i d, FirstValid (fun _ => True) cells i d) ∨ ∀ cell ∈ cells, cell.valid? = none := by
  rcases exists_or_none (fun _ => True) cells with first | none
  · exact .inl first
  · right
    intro cell mem
    apply Option.eq_none_iff_forall_ne_some.mpr
    intro d valid
    exact none cell mem d valid trivial

theorem valid?_eq (h : FirstValid p cells i d) : Cell.valid? (some d) = some d :=
  Cell.valid?_eq_some_iff.mpr ⟨rfl, h.valid⟩

theorem mem (h : FirstValid p cells i d) : some d ∈ cells := List.mem_of_getElem? h.here

theorem not_null (h : FirstValid p cells i d) : ¬∀ cell ∈ cells, cell.valid? = none := by
  intro null
  have valid := h.valid?_eq
  rw [null _ h.mem] at valid
  cases valid

/-- The cells up to row `i`: none of those before it meets the condition. -/
theorem split (h : FirstValid p cells i d) :
    ∃ before after, cells = before ++ some d :: after ∧ before.length = i ∧
      ∀ cell ∈ before, ∀ e, cell.valid? = some e → ¬p e := by
  obtain ⟨inside, eq⟩ := List.getElem?_eq_some_iff.mp h.here
  refine ⟨cells.take i, cells.drop (i + 1), ?_, ?_, ?_⟩
  · rw [← eq, ← List.drop_eq_getElem_cons inside, List.take_append_drop]
  · rw [List.length_take]
    omega
  · intro cell mem e
    obtain ⟨j, below, rfl⟩ := List.mem_take_iff_getElem.mp mem
    exact h.before j _ e (by omega) (List.getElem?_eq_getElem _)

end FirstValid

namespace Column

variable {attr : String} {c c' : Column} {k : Kind} {cell : Cell} {cells seen : List Cell}
  {i : Nat} {d : Datum}

/-! ## The leading kind -/

theorem firstKind_eq (cells : List Cell) :
    firstKind cells = (cells.findSome? Cell.valid?).map Datum.kind := by
  rw [List.map_findSome?, firstKind]
  congr 1
  funext cell
  rcases cell with _ | d
  · rfl
  · cases valid : d.valid <;> simp [Cell.valid?, valid]

theorem firstKind_eq_none_iff :
    firstKind cells = none ↔ ∀ cell ∈ cells, cell.valid? = none := by
  rw [firstKind_eq, Option.map_eq_none_iff, List.findSome?_eq_none_iff]

theorem firstKind_of_first (first : FirstValid (fun _ => True) cells i d) :
    firstKind cells = some d.kind := by
  obtain ⟨before, after, rfl, -, earlier⟩ := first.split
  have passed : before.findSome? Cell.valid? = none := by
    rw [List.findSome?_eq_none_iff]
    intro cell mem
    exact Option.eq_none_iff_forall_ne_some.mpr fun e valid => earlier cell mem e valid trivial
  rw [firstKind_eq, List.findSome?_append, passed, Option.none_or, List.findSome?_cons,
    first.valid?_eq]
  rfl

/-! ## Columns and cells -/

/-- A column that shows a row for each of the cells. -/
structure Holds (c : Column) (cells : List Cell) : Prop where
  series : c.values.kind = c.kind
  fits : ∀ cell ∈ cells, cell.Fits c.kind
  validity : c.validity.toList = cells.map fun cell => cell.valid?.isSome
  values : c.values.toList = cells.map (Cell.shown c.kind)
  unit : c.unit = cells.findSome? Cell.unit?

namespace Holds

theorem size_eq (h : c.Holds cells) : c.size = cells.length := by
  rw [size, ← Array.length_toList, h.validity, List.length_map]

theorem values_size_eq (h : c.Holds cells) : c.values.size = cells.length := by
  rw [← Series.length_toList, h.values, List.length_map]

theorem validity_eq (h : c.Holds cells) (there : cells[i]? = some cell) :
    c.validity[i]? = some cell.valid?.isSome := by
  rw [← Array.getElem?_toList, h.validity, List.getElem?_map, there]
  rfl

theorem value_eq (h : c.Holds cells) (there : cells[i]? = some cell) :
    c.values.toList[i]? = some (cell.shown c.kind) := by
  rw [h.values, List.getElem?_map, there]
  rfl

/-- A unit that all valid cells have is the unit of the column. -/
theorem unit_eq {unit : Option String} (h : c.Holds cells)
    (first : FirstValid (fun _ => True) cells i d)
    (units : ∀ cell ∈ cells, ∀ d, cell.valid? = some d → d.unit = unit) : c.unit = unit := by
  rw [h.unit]
  cases unit with
  | none =>
    rw [List.findSome?_eq_none_iff]
    intro cell mem
    exact Option.bind_eq_none_iff.mpr (units cell mem)
  | some u =>
    obtain ⟨before, after, split, -, earlier⟩ := first.split
    have passed : before.findSome? Cell.unit? = none := by
      rw [List.findSome?_eq_none_iff]
      intro cell mem
      exact Option.bind_eq_none_iff.mpr fun e valid => absurd trivial (earlier cell mem e valid)
    have here : Cell.unit? (some d) = some u := by
      rw [Cell.unit?, first.valid?_eq, Option.bind_some, units _ first.mem d first.valid?_eq]
    rw [split, List.findSome?_append, passed, Option.none_or, List.findSome?_cons, here]

end Holds

theorem empty_holds (k : Kind) : (empty k).Holds [] where
  series := rfl
  fits := fun _ mem => nomatch mem
  validity := rfl
  values := rfl
  unit := rfl

/-- A row without a value is shown as the filler. -/
theorem Holds.addNull (h : c.Holds cells) (null : cell.valid? = none) :
    c.addNull.Holds (cells ++ [cell]) where
  series := h.series
  fits := by
    apply List.forall_mem_append.mpr ⟨h.fits, ?_⟩
    intro other mem d valid
    rw [List.mem_singleton.mp mem, null] at valid
    cases valid
  validity := by simp [Column.addNull, h.validity, null]
  values := by
    rw [Column.addNull, Series.toList_pad, h.values, h.series, List.map_append]
    simp [Cell.shown, null]
  unit := by
    rw [List.findSome?_append, ← h.unit]
    simp [Column.addNull, Cell.unit?, null]

/-- A cell that fits can be added, and the column shows it too. -/
theorem Holds.add (h : c.Holds seen) (attr : String) (fits : cell.Fits c.kind) :
    ∃ c', c.add attr cell = .ok c' ∧ c'.kind = c.kind ∧ c'.Holds (seen ++ [cell]) := by
  rcases cell with _ | d
  · exact ⟨c.addNull, rfl, rfl, h.addNull rfl⟩
  cases valid : d.valid with
  | false =>
    refine ⟨c.addNull, ?_, rfl, h.addNull (by simp [Cell.valid?, valid])⟩
    simp [Column.add, valid]
  | true =>
    have shown : Cell.valid? (some d) = some d := Cell.valid?_eq_some_iff.mpr ⟨rfl, valid⟩
    have kind : d.value.kind = c.values.kind := (fits d shown).trans h.series.symm
    cases push : c.values.push d.value with
    | error v => exact absurd kind (Series.push_eq_error_iff.mp push).1
    | ok values =>
      obtain ⟨same, list⟩ := Series.toList_push push
      refine ⟨{ c with unit := c.unit.or d.unit, validity := c.validity.push true, values },
        ?_, rfl, ?_⟩
      · simp [Column.add, valid, fits d shown, push]
      · constructor
        case series => exact same.trans h.series
        case fits =>
          exact List.forall_mem_append.mpr ⟨h.fits, List.forall_mem_singleton.mpr fits⟩
        case validity => simp [h.validity, shown]
        case values => simp [list, h.values, Cell.shown, shown]
        case unit => simp [List.findSome?_append, h.unit, Cell.unit?, shown]

/-- A cell that does not fit is reported with the row that it would be. -/
theorem Holds.add_misfit (h : c.Holds seen) (attr : String) (valid : cell.valid? = some d)
    (other : d.kind ≠ c.kind) :
    c.add attr cell = .error (.mixedKinds attr c.kind d.kind seen.length) := by
  obtain ⟨rfl, set⟩ := Cell.valid?_eq_some_iff.mp valid
  simp [Column.add, set, other, h.size_eq]

/-! ## Whole columns -/

theorem foldlM_add_of_fits (h : c.Holds seen) (attr : String)
    (fits : ∀ cell ∈ cells, cell.Fits c.kind) :
    ∃ c', cells.foldlM (add attr) c = .ok c' ∧ c'.kind = c.kind ∧ c'.Holds (seen ++ cells) := by
  induction cells generalizing c seen with
  | nil => exact ⟨c, rfl, rfl, by simpa using h⟩
  | cons cell cells ih =>
    obtain ⟨here, rest⟩ := List.forall_mem_cons.mp fits
    obtain ⟨next, added, kind, holds⟩ := h.add attr here
    obtain ⟨last, run, kind', holds'⟩ := ih holds (kind ▸ rest)
    refine ⟨last, ?_, kind'.trans kind, by simpa using holds'⟩
    rw [List.foldlM_cons, added]
    exact run

theorem ofCells_of_fits (attr : String) (fits : ∀ cell ∈ cells, cell.Fits k) :
    ∃ c, ofCells attr k cells = .ok c ∧ c.kind = k ∧ c.Holds cells :=
  foldlM_add_of_fits (empty_holds k) attr fits

theorem ofCells_of_misfit (attr : String) (first : FirstValid (·.kind ≠ k) cells i d) :
    ofCells attr k cells = .error (.mixedKinds attr k d.kind i) := by
  obtain ⟨before, after, rfl, rfl, earlier⟩ := first.split
  obtain ⟨c, run, rfl, holds⟩ := ofCells_of_fits attr fun cell mem e valid =>
    Classical.not_not.mp (earlier cell mem e valid)
  have refused := holds.add_misfit attr first.valid?_eq first.holds
  rw [ofCells] at run
  rw [ofCells, List.foldlM_append, run]
  show (some d :: after).foldlM (add attr) c = _
  rw [List.foldlM_cons, refused]
  rfl

theorem exists_misfit_or_fits (k : Kind) (cells : List Cell) :
    (∃ i d, FirstValid (·.kind ≠ k) cells i d) ∨ ∀ cell ∈ cells, cell.Fits k := by
  rcases FirstValid.exists_or_none (·.kind ≠ k) cells with misfit | fits
  · exact .inl misfit
  · exact .inr fun cell mem d valid => Classical.not_not.mp (fits cell mem d valid)

theorem ofCells_outcome (attr : String) (k : Kind) (cells : List Cell) :
    (∃ c, ofCells attr k cells = .ok c ∧ c.Holds cells) ∨
      ∃ i, ∃ d : Datum, ofCells attr k cells = .error (.mixedKinds attr k d.kind i) := by
  rcases exists_misfit_or_fits k cells with ⟨i, d, misfit⟩ | fits
  · exact .inr ⟨i, d, ofCells_of_misfit attr misfit⟩
  · obtain ⟨c, built, -, holds⟩ := ofCells_of_fits attr fits
    exact .inl ⟨c, built, holds⟩

/-- Columns of one kind that show the same cells are the same. -/
theorem Holds.unique (h : c.Holds cells) (h' : c'.Holds cells) (kind : c.kind = c'.kind) :
    c = c' := by
  have validity : c.validity = c'.validity :=
    Array.toList_inj.mp (h.validity.trans h'.validity.symm)
  have values : c.values = c'.values := by
    refine Series.eq_of_toList_eq (h.series.trans (kind.trans h'.series.symm)) ?_
    rw [h.values, h'.values, kind]
  have unit : c.unit = c'.unit := h.unit.trans h'.unit.symm
  cases c
  cases c'
  simp_all

end Column

end PackedRecords
