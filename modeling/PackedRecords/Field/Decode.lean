import PackedRecords.Bits.Word
import PackedRecords.Datum
import PackedRecords.Field.Text

/-!
Decoding one field at a cursor. The format is checked and the bits are counted before
anything is read; after that only text can fail, and then the cursor stands behind the
element that did.
-/

namespace PackedRecords.FieldFormat

/-- The raw word of an element, with its bits in the order that gives them weight. -/
def readRaw (f : FieldFormat) : Attempt FieldFault Cursor UInt64 := do
  let word ← (Cursor.readWord f.bits).mapError .read
  pure (match f.bitOrder with
    | .msbFirst => word
    | .lsbFirst => Bits.reverseLow word f.bits)

/-- A raw word as an integer. -/
def integer (f : FieldFormat) (raw : UInt64) : Int64 :=
  if f.signed then Bits.signExtend raw f.bits else raw.toInt64

/-- An integer with the scale applied, then the offset. -/
def scaled (f : FieldFormat) (n : Int64) : Binary64 :=
  let scale := (f.scale.map Binary64.toFloat).getD 1.0
  let offset := (f.offset.map Binary64.toFloat).getD 0.0
  .ofFloat (n.toFloat * scale + offset)

/-- A raw word as a payload. Integers keep the low bits that their type has room for. -/
def interpret (f : FieldFormat) (raw : UInt64) : (k : Kind) → Except FieldFault k.Payload
  | .scalar .boolean => .ok (raw != 0)
  | .scalar .byte => .ok raw.toUInt8
  | .scalar .short => .ok (f.integer raw).toInt16
  | .scalar .int => .ok (f.integer raw).toInt32
  | .scalar .long => .ok (f.integer raw)
  | .scalar .enum => .ok (f.integer raw).toInt32
  | .scalar .float =>
    .ok (if f.isScaled then (f.scaled (f.integer raw)).toBinary32 else ⟨raw.toUInt32⟩)
  | .scalar .double => .ok (if f.isScaled then f.scaled (f.integer raw) else ⟨raw⟩)
  | k => .error (.unsupportedKind k)

def readBytes (f : FieldFormat) : Attempt FieldFault Cursor (List UInt8) :=
  (Cursor.readBytes f.bits).mapError .read

/-- Reads text; empty text counts as null. -/
def readText (f : FieldFormat) : Attempt FieldFault Cursor (String × Bool) := do
  let bytes ← f.readBytes
  let s ← Attempt.ofExcept (f.textOf bytes)
  pure (s, !s.isEmpty)

/-- Reads one element: its payload, and whether it is valid. -/
def readElement (f : FieldFormat) : (k : Kind) → Attempt FieldFault Cursor (k.Payload × Bool)
  | .scalar .byteString => do pure (← f.readBytes, true)
  | .blob => do pure (← f.readBytes, true)
  | .scalar .string => f.readText
  | .scalar .date => f.readText
  | k => do
    let raw ← f.readRaw
    let x ← Attempt.ofExcept (f.interpret raw k)
    pure (x, f.nullValue != some raw)

/-- Reads the elements of a field. A sequence takes each payload as it is and is always
valid; a single element that is not valid gives the null of its kind. -/
def readElements (f : FieldFormat) : Attempt FieldFault Cursor Datum :=
  match f.count, f.kind with
  | none, k => do
    let (x, valid) ← f.readElement k
    pure (if valid then .ofValue ⟨k, x⟩ else .null k)
  | some n, .scalar e => do
    let xs ← (f.readElement (.scalar e)).times n
    pure (.ofValue ⟨.sequence e, xs.map Prod.fst⟩)
  | some _, k => Attempt.fail (.unsupportedKind k)

/-- Decodes the field at the cursor. -/
def decode (f : FieldFormat) : Attempt FieldFault Cursor Datum := do
  Attempt.ofExcept f.check
  (Cursor.require f.extent).mapError .read
  let d ← f.readElements
  pure { d with unit := f.unit }

end PackedRecords.FieldFormat
