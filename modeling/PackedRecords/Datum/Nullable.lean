import PackedRecords.Datum

/-!
Data from inputs that may be missing. A type that stands for one kind says by itself what
datum it makes. Dates, codes of enumerations, byte strings and blobs have the types of
other kinds, so they are made by name; sequences of dates, codes and byte strings are not
made from inputs that may be missing.
-/

namespace PackedRecords

/-- Whether the type of such elements stands for them. Dates, codes and byte strings are text,
integers and sequences of bytes by their types. -/
def Element.isPlain : Element → Bool
  | .date | .enum | .byteString => false
  | _ => true

/-- A type that stands for one kind. -/
class Plain (α : Type) where
  kind : Kind
  carrier : kind.Payload = α

namespace Plain

instance : Plain Bool := ⟨.scalar .boolean, rfl⟩
instance : Plain UInt8 := ⟨.scalar .byte, rfl⟩
instance : Plain Int16 := ⟨.scalar .short, rfl⟩
instance : Plain Int32 := ⟨.scalar .int, rfl⟩
instance : Plain Int64 := ⟨.scalar .long, rfl⟩
instance : Plain Binary32 := ⟨.scalar .float, rfl⟩
instance : Plain Binary64 := ⟨.scalar .double, rfl⟩
instance : Plain String := ⟨.scalar .string, rfl⟩
instance : Plain Complex32 := ⟨.scalar .complex, rfl⟩
instance : Plain Complex64 := ⟨.scalar .doubleComplex, rfl⟩
instance : Plain ExternalReference := ⟨.scalar .externalReference, rfl⟩

instance : Plain (List Bool) := ⟨.sequence .boolean, rfl⟩
instance : Plain (List UInt8) := ⟨.sequence .byte, rfl⟩
instance : Plain (List Int16) := ⟨.sequence .short, rfl⟩
instance : Plain (List Int32) := ⟨.sequence .int, rfl⟩
instance : Plain (List Int64) := ⟨.sequence .long, rfl⟩
instance : Plain (List Binary32) := ⟨.sequence .float, rfl⟩
instance : Plain (List Binary64) := ⟨.sequence .double, rfl⟩
instance : Plain (List String) := ⟨.sequence .string, rfl⟩
instance : Plain (List Complex32) := ⟨.sequence .complex, rfl⟩
instance : Plain (List Complex64) := ⟨.sequence .doubleComplex, rfl⟩
instance : Plain (List ExternalReference) := ⟨.sequence .externalReference, rfl⟩

/-- A type with the kind that it stands for. -/
def row (α : Type) [Plain α] : Type × Kind := (α, kind α)

/-- All types that stand for a kind. -/
def table : List (Type × Kind) :=
  [row Bool, row UInt8, row Int16, row Int32, row Int64, row Binary32, row Binary64, row String,
    row Complex32, row Complex64, row ExternalReference,
    row (List Bool), row (List UInt8), row (List Int16), row (List Int32), row (List Int64),
    row (List Binary32), row (List Binary64), row (List String), row (List Complex32),
    row (List Complex64), row (List ExternalReference)]

/-- Every element whose type stands for it has a row for itself and one for its sequences, and
there are no other rows. -/
theorem table_eq :
    table = (Element.all.filter Element.isPlain).map (fun e => (e.Carrier, .scalar e)) ++
      (Element.all.filter Element.isPlain).map (fun e => (List e.Carrier, .sequence e)) := rfl

/-- A value of the type as a payload of its kind. -/
def payload {α : Type} [Plain α] (x : α) : (kind α).Payload := cast carrier.symm x

end Plain

namespace Datum

/-- A datum of the kind that the type stands for. -/
def nullable {α : Type} [Plain α] (x : Option α) : Datum :=
  ofOption (Plain.kind α) (x.map Plain.payload)

def nullableDate (date : Option String) : Datum := ofOption (.scalar .date) date

def nullableCode (code : Option Int32) : Datum := ofOption (.scalar .enum) code

def nullableBytes (bytes : Option (List UInt8)) : Datum := ofOption (.scalar .byteString) bytes

def nullableBlob (bytes : Option (List UInt8)) : Datum := ofOption .blob bytes

end Datum

end PackedRecords
