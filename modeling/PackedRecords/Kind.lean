/-!
The kinds of value that an attribute can have: fourteen elements, the sequences of
each, and blobs, which have no sequence form.
-/

namespace PackedRecords

/-- A kind that also has a sequence form. -/
inductive Element where
  | boolean | byte | short | int | long | float | double | string | date | enum
  | byteString | complex | doubleComplex | externalReference
deriving DecidableEq, Repr

inductive Kind where
  | scalar (e : Element)
  | blob
  | sequence (e : Element)
deriving DecidableEq, Repr

namespace Element

def all : List Element :=
  [.boolean, .byte, .short, .int, .long, .float, .double, .string, .date, .enum,
    .byteString, .complex, .doubleComplex, .externalReference]

/-- The name used in messages. -/
def name : Element → String
  | .boolean => "boolean"
  | .byte => "byte"
  | .short => "short"
  | .int => "int"
  | .long => "long"
  | .float => "float"
  | .double => "double"
  | .string => "string"
  | .date => "date"
  | .enum => "enum"
  | .byteString => "bytestr"
  | .complex => "complex"
  | .doubleComplex => "dcomplex"
  | .externalReference => "external_reference"

/-- The name used in definition files. -/
def tag : Element → String
  | .boolean => "Boolean"
  | .byte => "Byte"
  | .short => "Short"
  | .int => "Int"
  | .long => "Long"
  | .float => "Float"
  | .double => "Double"
  | .string => "String"
  | .date => "Date"
  | .enum => "Enum"
  | .byteString => "ByteString"
  | .complex => "Complex"
  | .doubleComplex => "DoubleComplex"
  | .externalReference => "ExternalReference"

end Element

namespace Kind

/-- Every kind: the scalar ones, of which a blob is the last, then the sequences. -/
def all : List Kind :=
  Element.all.map .scalar ++ [.blob] ++ Element.all.map .sequence

/-- The name used in messages. -/
def name : Kind → String
  | .scalar e => e.name
  | .blob => "blob"
  | .sequence e => e.name ++ "_seq"

/-- The name used in definition files. -/
def tag : Kind → String
  | .scalar e => e.tag
  | .blob => "Blob"
  | .sequence e => e.tag ++ "Seq"

def ofTag? (tag : String) : Option Kind := all.find? (·.tag = tag)

theorem ofTag?_tag (k : Kind) : ofTag? k.tag = some k := by
  rcases k with e | _ | e
  · cases e <;> rfl
  · rfl
  · cases e <;> rfl

/-- The kind of a sequence's elements. -/
def element? : Kind → Option Kind
  | .sequence e => some (.scalar e)
  | _ => none

/-- The kind of the sequences of a kind. -/
def sequence? : Kind → Option Kind
  | .scalar e => some (.sequence e)
  | _ => none

def isSequence (k : Kind) : Bool := k.element?.isSome

/-- Whether a single value of the kind is text. -/
def isText : Kind → Bool
  | .scalar .string | .scalar .date => true
  | _ => false

/-- Whether a single value of the kind is a floating-point number. -/
def isFloating : Kind → Bool
  | .scalar .float | .scalar .double => true
  | _ => false

end Kind

end PackedRecords
