import PackedRecords.Batch
import PackedRecords.Series

/-!
One attribute of all rows, as a store takes it: a kind, and for each row whether there
is a value and which. Rows without a value hold the filler of the kind.
-/

namespace PackedRecords

structure Column where
  kind : Kind
  /-- The first unit that a valid datum carries. -/
  unit : Option String
  validity : Array Bool
  values : Series

namespace Column

def empty (kind : Kind) : Column := ⟨kind, none, #[], .empty kind⟩

def size (c : Column) : Nat := c.validity.size

def isEmpty (c : Column) : Bool := c.validity.isEmpty

/-- Adds a row without a value. -/
def addNull (c : Column) : Column :=
  { c with validity := c.validity.push false, values := c.values.pad }

/-- Adds the next row. A valid datum must have the kind of the column; its value is then up to
the series, which looks at the kind once more. -/
def add (attr : String) (c : Column) : Cell → Except BatchFault Column
  | none => .ok c.addNull
  | some d =>
    if d.valid then
      if d.kind ≠ c.kind then .error (.mixedKinds attr c.kind d.kind c.size)
      else
        match c.values.push d.value with
        | .ok values =>
          .ok { c with unit := c.unit.or d.unit, validity := c.validity.push true, values }
        | .error v => .error (.mixedKinds attr c.kind v.kind c.size)
    else .ok c.addNull

def ofCells (attr : String) (kind : Kind) (cells : List Cell) : Except BatchFault Column :=
  cells.foldlM (add attr) (empty kind)

/-- The kind of the first valid datum. -/
def firstKind (cells : List Cell) : Option Kind :=
  cells.findSome? fun cell => cell.bind fun d => if d.valid then some d.kind else none

end Column

end PackedRecords
