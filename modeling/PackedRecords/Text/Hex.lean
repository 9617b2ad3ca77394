/-!
Bytes as two lowercase hexadecimal digits.
-/

namespace PackedRecords.Text

def hexByte (b : UInt8) : String :=
  String.ofList [Nat.digitChar (b.toNat / 16), Nat.digitChar (b.toNat % 16)]

end PackedRecords.Text
