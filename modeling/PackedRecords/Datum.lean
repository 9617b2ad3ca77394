import PackedRecords.Value

/-!
One attribute's value in one row: a payload, whether it is valid, and perhaps a unit.
An invalid datum is a null; its payload is a placeholder that no accessor gives out.
-/

namespace PackedRecords

structure Datum where
  value : Value
  valid : Bool
  unit : Option String
deriving DecidableEq

namespace Datum

/-- A valid datum. -/
def ofValue (v : Value) : Datum := ⟨v, true, none⟩

/-- The null of a kind. -/
def null (k : Kind) : Datum := ⟨⟨k, k.filler⟩, false, none⟩

/-- A datum from a payload that may be missing. A blank payload counts as missing. -/
def ofOption (k : Kind) : Option k.Payload → Datum
  | some x => if k.isBlank x then null k else ofValue ⟨k, x⟩
  | none => null k

def inUnit (d : Datum) (unit : String) : Datum := { d with unit := some unit }

def kind (d : Datum) : Kind := d.value.kind

/-- Equality of data, with floating-point numbers compared as numbers. -/
def equal (d e : Datum) : Bool :=
  d.value.equal e.value && d.valid == e.valid && d.unit == e.unit

/-- The payload, if the datum is valid and of kind `k`. -/
def get? (d : Datum) (k : Kind) : Option k.Payload :=
  if d.valid then d.value.as? k else none

end Datum

end PackedRecords
