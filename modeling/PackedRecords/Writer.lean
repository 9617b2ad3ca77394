import PackedRecords.Catalog
import PackedRecords.Store

/-!
A writer gathers the rows of one entity. Each step either changes the batch as asked or
fails and leaves it alone.
-/

namespace PackedRecords

structure WriteOptions where
  /-- Whether a value that comes before any row starts the first one. -/
  autoStart : Bool := true
  rowLimit : Option Nat := none
deriving DecidableEq

structure Writer where
  entity : String
  options : WriteOptions := {}
  batch : Batch := .empty

inductive WriterState where
  | empty
  | accumulating
deriving DecidableEq

namespace Writer

def ofEntity (entity : String) (options : WriteOptions) : Writer := ⟨entity, options, .empty⟩

/-- Whether there is any row. -/
def state (w : Writer) : WriterState := if w.batch.isEmpty then .empty else .accumulating

def onBatch {ε α : Type} (x : Attempt ε Batch α) : Attempt ε Writer α := fun w =>
  ((x w.batch).1, { w with batch := (x w.batch).2 })

/-- Starts a row, unless the batch is full. -/
def startRow : Attempt BatchFault Writer Nat := do
  let w ← Attempt.state
  match w.options.rowLimit with
  | none => onBatch Batch.startRow
  | some limit =>
    if limit ≤ w.batch.rowCount then Attempt.fail (.full limit)
    else onBatch Batch.startRow

/-- Sets an attribute of the last row. -/
def put (attr : String) (d : Datum) : Attempt BatchFault Writer Unit := do
  let w ← Attempt.state
  if w.batch.isEmpty && w.options.autoStart then
    let _ ← startRow
  onBatch (Batch.put attr d)

/-- Sets an attribute of the last row to the code of a literal. The catalog is asked
before any row is started. -/
def putLiteral {C : Type} [Catalog C] (attr enumeration literal : String) :
    Attempt BatchFault (Writer × C) Unit := do
  let code ← Attempt.onSecond ((Catalog.codeOf enumeration literal).mapError .catalog)
  Attempt.onFirst (put attr (.ofValue ⟨.scalar .enum, code⟩))

/-- Starts a row and sets its attributes in turn. -/
def append (values : List (String × Datum)) : Attempt BatchFault Writer Nat := do
  let index ← startRow
  onBatch (Batch.putAll values)
  pure index

end Writer

end PackedRecords
