import PackedRecords.Writer

/-!
Submitting a batch. The whole submission is prepared before the store is asked once;
what cannot be prepared never reaches it.
-/

namespace PackedRecords.Writer

variable {C S : Type} [Catalog C] [Store S]

/-- The column of an attribute, unless it is null in every row or is the identity. -/
def columnOf (entity attr : String) (cells : List Cell) :
    Attempt BatchFault C (Option Column) :=
  match Column.firstKind cells with
  | none => pure none
  | some supplied => do
    let identity ← (Catalog.isIdentity entity attr).mapError .catalog
    if identity then pure none
    else
      let declared ← (Catalog.kindOf entity attr).mapError .catalog
      if declared = supplied then
        let column ← Attempt.ofExcept (Column.ofCells attr declared cells)
        pure (some column)
      else Attempt.fail (.kindMismatch attr declared supplied)

/-- The columns of attributes, taken in turn. -/
def columnsOf (entity : String) :
    List (String × List Cell) → Attempt BatchFault C (NameMap Column)
  | [] => pure .empty
  | (attr, cells) :: rest => do
    let column ← columnOf entity attr cells
    let columns ← columnsOf entity rest
    pure (match column with
      | some c => columns.insert attr c
      | none => columns)

/-- What the batch has to submit: nothing, if no row has any attribute. -/
def prepare (w : Writer) : Attempt BatchFault C (Option Submission) :=
  if w.batch.isEmpty || !w.batch.hasData then pure none
  else do
    let columns ← columnsOf w.entity w.batch.transpose
    pure (some ⟨w.entity, w.batch.rowCount, columns⟩)

/-- Submits a batch, and gives the identifiers of its rows. -/
def commit (w : Writer) : Attempt BatchFault (C × S) (List Nat) := do
  match ← Attempt.onFirst w.prepare with
  | none => pure []
  | some request =>
    let ids ← Attempt.onSecond ((Store.insert request).mapError .store)
    if ids.length = request.rowCount then pure ids
    else Attempt.fail (.identifierCount request.rowCount ids.length)

/-- Submits a batch of exactly one row, and gives its identifier. -/
def commitOne (w : Writer) : Attempt BatchFault (C × S) Nat :=
  match w.batch.rowCount with
  | 0 => Attempt.fail .noData
  | 1 => do
    match ← w.commit with
    | id :: _ => pure id
    | [] => Attempt.fail .noData
  | count => Attempt.fail (.severalRows count)

end PackedRecords.Writer
