import PackedRecords.Attempt
import PackedRecords.Batch.Fault
import PackedRecords.Datum
import PackedRecords.NameMap

/-!
Rows of data as they are gathered, and the same data by attribute. Rows are filled
one at a time, the last one only.
-/

namespace PackedRecords

/-- Data by attribute. -/
abbrev Row := NameMap Datum

/-- What a row has for an attribute, if it has anything. -/
abbrev Cell := Option Datum

structure Batch where
  rows : Array Row
  /-- Every attribute that some row has, in the order of first appearance. -/
  attributes : List String

namespace Batch

def empty : Batch := ⟨#[], []⟩

def rowCount (b : Batch) : Nat := b.rows.size

def isEmpty (b : Batch) : Bool := b.rows.isEmpty

/-- Whether any row has any attribute. -/
def hasData (b : Batch) : Bool := !b.attributes.isEmpty

/-- Adds a row without data. -/
def addRow (b : Batch) : Batch := { b with rows := b.rows.push .empty }

/-- Starts a row, and tells its index. -/
def startRow {ε : Type} : Attempt ε Batch Nat := fun b => (.ok b.rowCount, b.addRow)

/-- Sets an attribute of the last row. -/
def put (attr : String) (d : Datum) : Attempt BatchFault Batch Unit := fun b =>
  match b.rows.back? with
  | none => (.error .noRow, b)
  | some row =>
    (.ok (), {
      rows := b.rows.pop.push (row.insert attr d)
      attributes :=
        if attr ∈ b.attributes then b.attributes else b.attributes ++ [attr] })

/-- Sets attributes of the last row in turn. -/
def putAll : List (String × Datum) → Attempt BatchFault Batch Unit
  | [] => pure ()
  | (attr, d) :: rest => do
    put attr d
    putAll rest

def cells (b : Batch) (attr : String) : List Cell :=
  b.rows.toList.map (·.get? attr)

/-- The cells of every attribute, one for each row. -/
def transpose (b : Batch) : List (String × List Cell) :=
  b.attributes.map fun attr => (attr, b.cells attr)

end Batch

end PackedRecords
