import PackedRecords.Text.Quoted

/-! Why a catalog has no answer. -/

namespace PackedRecords

inductive CatalogFault where
  | unknownEntity (entity : String)
  | unknownAttribute (entity attr : String)
  | unknownEnumeration (enumeration : String)
  | unknownLiteral (enumeration literal : String)
  | unknownCode (enumeration : String) (code : Int32)
  /-- The source behind the catalog cannot be reached. -/
  | unreachable (reason : String)
deriving DecidableEq

def CatalogFault.message : CatalogFault → String
  | .unknownEntity entity => "unknown entity: " ++ entity
  | .unknownAttribute entity attr =>
    "unknown attribute " ++ Text.quote attr ++ " on entity " ++ Text.quote entity
  | .unknownEnumeration enumeration => "unknown enumeration: " ++ enumeration
  | .unknownLiteral enumeration literal =>
    "enumeration " ++ Text.quote enumeration ++ " has no literal " ++ Text.quote literal
  | .unknownCode enumeration code =>
    "enumeration " ++ Text.quote enumeration ++ " has no code " ++ toString code.toInt
  | .unreachable reason => "catalog backend error: " ++ reason

end PackedRecords
