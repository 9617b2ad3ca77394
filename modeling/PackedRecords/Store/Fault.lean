import PackedRecords.Kind
import PackedRecords.Text.Quoted

/-! Why a store refuses a submission. -/

namespace PackedRecords

inductive StoreFault where
  | rejected (reason : String)
  | unsupportedKind (attr : String) (kind : Kind)
  | unreachable (reason : String)
deriving DecidableEq

def StoreFault.message : StoreFault → String
  | .rejected reason => "invalid parameter: " ++ reason
  | .unsupportedKind attr kind =>
    "unsupported kind " ++ kind.name ++ " for attribute " ++ Text.quote attr
  | .unreachable reason => "store connectivity error: " ++ reason

end PackedRecords
