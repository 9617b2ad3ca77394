import PackedRecords.Column

/-!
Stores take whole submissions: all rows of a batch, column by column, or none of them.
-/

namespace PackedRecords

structure Submission where
  entity : String
  rowCount : Nat
  columns : NameMap Column

/-- Takes a submission, and answers with one identifier for each row. -/
class Store (S : Type) where
  insert (request : Submission) : Attempt StoreFault S (List Nat)

end PackedRecords
