import PackedRecords.Bits.Cursor
import PackedRecords.Kind
import PackedRecords.Text.Hex

/-!
Why a field cannot be decoded: its format makes no sense, the bits have run out, or
its bytes are not text.
-/

namespace PackedRecords

inductive FieldFault where
  | read (cause : ReadFault)
  | badWidth (bits : Nat)
  | unsupportedKind (kind : Kind)
  | floatWidth (expected actual : Nat)
  | unalignedText (bits : Nat)
  | scaleNotFinite
  | notText
  | notAscii (byte : UInt8)
  | noElements
deriving DecidableEq, Repr

def FieldFault.message : FieldFault → String
  | .read cause => cause.message
  | .badWidth bits => s!"invalid field width: {bits} bits"
  | .unsupportedKind kind => "unsupported target kind " ++ kind.name ++ " for this decoder"
  | .floatWidth expected actual =>
    s!"float reinterpretation needs {expected} bits, got {actual}"
  | .unalignedText bits => s!"string field width {bits} is not a multiple of 8"
  | .scaleNotFinite => "scale and offset must be finite"
  | .notText => "invalid string encoding"
  | .notAscii byte => "byte 0x" ++ Text.hexByte byte ++ " is not ASCII"
  | .noElements => "sequence fields need at least one element"

end PackedRecords
