import PackedRecords.Catalog.Fault
import PackedRecords.Store.Fault

/-! Why a batch cannot take a value, or cannot be submitted. -/

namespace PackedRecords

inductive BatchFault where
  | noData
  | severalRows (count : Nat)
  | noRow
  | full (limit : Nat)
  | mixedKinds (attr : String) (expected found : Kind) (row : Nat)
  | kindMismatch (attr : String) (declared supplied : Kind)
  | identifierCount (expected actual : Nat)
  | catalog (cause : CatalogFault)
  | store (cause : StoreFault)
deriving DecidableEq

def BatchFault.message : BatchFault → String
  | .noData => "no values provided"
  | .severalRows count => s!"batch holds {count} rows, must use batch form"
  | .noRow => "no current row"
  | .full limit => s!"batch is full ({limit} rows)"
  | .mixedKinds attr expected found row =>
    "attribute " ++ Text.quote attr ++ " is " ++ expected.name ++ " but row " ++
      toString row ++ " holds " ++ found.name
  | .kindMismatch attr declared supplied =>
    "attribute " ++ Text.quote attr ++ " is declared " ++ declared.name ++ " but " ++
      supplied.name ++ " was supplied"
  | .identifierCount expected actual =>
    s!"store returned {actual} identifiers for {expected} rows"
  | .catalog cause => cause.message
  | .store cause => cause.message

end PackedRecords
