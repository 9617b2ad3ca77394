import PackedRecords.Field.Format
import PackedRecords.Text.Blank

/-!
Text fields: which of the bytes count, what they spell, and what is left after trimming.
-/

namespace PackedRecords.FieldFormat

/-- The bytes that count: all, or those before the first zero. -/
def textBytes (f : FieldFormat) (bytes : List UInt8) : List UInt8 :=
  if f.zeroTerminated.getD false then bytes.takeWhile (· ≠ 0) else bytes

/-- The bytes as text. ASCII is looked at first, and names the byte that it refuses. -/
def spell (encoding : TextEncoding) (bytes : List UInt8) : Except FieldFault String :=
  match encoding, bytes.find? (0x7F < ·) with
  | .ascii, some byte => .error (.notAscii byte)
  | _, _ =>
    match String.fromUTF8? ⟨bytes.toArray⟩ with
    | some s => .ok s
    | none => .error .notText

def textOf (f : FieldFormat) (bytes : List UInt8) : Except FieldFault String :=
  match spell (f.encoding.getD .utf8) (f.textBytes bytes) with
  | .ok s => .ok (if f.trim.getD false then Text.trim s else s)
  | .error e => .error e

end PackedRecords.FieldFormat
