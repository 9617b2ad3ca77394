import PackedRecords.Datum

/-!
Accessors by the type wanted. None of them fails: a null, or a datum of another kind,
gives the zero or empty result. Text and dates share an accessor, and so do byte
strings and blobs.
-/

namespace PackedRecords.Datum

/-! ## Single values -/

def asBool (d : Datum) : Bool := (d.get? (.scalar .boolean)).getD false

def asByte (d : Datum) : UInt8 := (d.get? (.scalar .byte)).getD 0

def asShort (d : Datum) : Int16 := (d.get? (.scalar .short)).getD 0

def asInt (d : Datum) : Int32 := (d.get? (.scalar .int)).getD 0

def asLong (d : Datum) : Int64 := (d.get? (.scalar .long)).getD 0

def asFloat (d : Datum) : Binary32 := (d.get? (.scalar .float)).getD ⟨0⟩

def asDouble (d : Datum) : Binary64 := (d.get? (.scalar .double)).getD ⟨0⟩

def asEnum (d : Datum) : Int32 := (d.get? (.scalar .enum)).getD 0

def asComplex (d : Datum) : Complex32 := (d.get? (.scalar .complex)).getD ⟨⟨0⟩, ⟨0⟩⟩

def asDoubleComplex (d : Datum) : Complex64 :=
  (d.get? (.scalar .doubleComplex)).getD ⟨⟨0⟩, ⟨0⟩⟩

def asText (d : Datum) : String :=
  ((d.get? (.scalar .string)).or (d.get? (.scalar .date))).getD ""

def asBytes (d : Datum) : List UInt8 :=
  ((d.get? (.scalar .byteString)).or (d.get? .blob)).getD []

def asReference (d : Datum) : ExternalReference :=
  (d.get? (.scalar .externalReference)).getD ⟨"", "", ""⟩

/-! ## Sequences -/

def asBools (d : Datum) : List Bool := (d.get? (.sequence .boolean)).getD []

def asByteSequence (d : Datum) : List UInt8 := (d.get? (.sequence .byte)).getD []

def asShorts (d : Datum) : List Int16 := (d.get? (.sequence .short)).getD []

def asInts (d : Datum) : List Int32 := (d.get? (.sequence .int)).getD []

def asLongs (d : Datum) : List Int64 := (d.get? (.sequence .long)).getD []

def asFloats (d : Datum) : List Binary32 := (d.get? (.sequence .float)).getD []

def asDoubles (d : Datum) : List Binary64 := (d.get? (.sequence .double)).getD []

def asTexts (d : Datum) : List String :=
  ((d.get? (.sequence .string)).or (d.get? (.sequence .date))).getD []

def asEnums (d : Datum) : List Int32 := (d.get? (.sequence .enum)).getD []

def asByteStrings (d : Datum) : List (List UInt8) := (d.get? (.sequence .byteString)).getD []

def asComplexes (d : Datum) : List Complex32 := (d.get? (.sequence .complex)).getD []

def asDoubleComplexes (d : Datum) : List Complex64 :=
  (d.get? (.sequence .doubleComplex)).getD []

def asReferences (d : Datum) : List ExternalReference :=
  (d.get? (.sequence .externalReference)).getD []

end PackedRecords.Datum
