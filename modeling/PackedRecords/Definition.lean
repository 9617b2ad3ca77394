import PackedRecords.Json.Reader
import PackedRecords.Layout
import PackedRecords.Writer

/-!
Definitions as JSON: the layout file that an importer ships, the options of a writer,
and the values that stand in them.
-/

namespace PackedRecords

def BitOrder.tag : BitOrder → String
  | .msbFirst => "MsbFirst"
  | .lsbFirst => "LsbFirst"

def BitOrder.ofTag? (tag : String) : Option BitOrder :=
  [.msbFirst, .lsbFirst].find? (·.tag = tag)

def TextEncoding.tag : TextEncoding → String
  | .utf8 => "Utf8"
  | .ascii => "Ascii"

def TextEncoding.ofTag? (tag : String) : Option TextEncoding :=
  [.utf8, .ascii].find? (·.tag = tag)

namespace Definition

/-- A choice by name. It may also be written as an object whose only key is the name. -/
def choice? : Json → Option String
  | .string s => s
  | .object [(name, .null)] => name
  | _ => none

/-- A choice inside a field, where the object may also hold an empty one. -/
def fieldChoice? : Json → Option String
  | .object [(name, .object [])] => name
  | j => choice? j

def kind? (j : Json) : Option Kind := (choice? j).bind Kind.ofTag?

/-! ## Layouts -/

def fieldKeys : List String :=
  ["name", "skip_before", "kind", "bits", "signed", "bit_order", "count", "scale", "offset",
    "encoding", "zero_terminated", "trim", "null_value", "unit"]

/-- The deepest nesting that a text may have, less the three levels around a part
of a field. -/
def partDepth : Nat := 127 - 3

/-- Parts of a format are kept as general values first, unknown ones among them, and so
must make sense as such. -/
def isFormatPart (part : String × Json) : Bool :=
  part.1 = "name" || part.1 = "skip_before" ||
    (part.2.isSound && part.2.depth ≤ partDepth)

def field? : Json → Option Field
  | .object members => do
    let parts ← Json.distinct? fieldKeys members
    if !parts.all isFormatPart then none
    let name ← Json.required Json.text? (parts.lookup "name")
    let gap ← Json.orElse 0 Json.word? (parts.lookup "skip_before")
    let kind ← Json.required (fun j => (fieldChoice? j).bind Kind.ofTag?) (parts.lookup "kind")
    let bits ← Json.required Json.word? (parts.lookup "bits")
    let signed ← Json.orElse false Json.bool? (parts.lookup "signed")
    let bitOrder ← Json.orElse .msbFirst (fun j => (fieldChoice? j).bind BitOrder.ofTag?)
      (parts.lookup "bit_order")
    let count ← Json.optional Json.word? (parts.lookup "count")
    let scale ← Json.optional Json.binary64? (parts.lookup "scale")
    let offset ← Json.optional Json.binary64? (parts.lookup "offset")
    let encoding ← Json.optional (fun j => (fieldChoice? j).bind TextEncoding.ofTag?)
      (parts.lookup "encoding")
    let zeroTerminated ← Json.optional Json.bool? (parts.lookup "zero_terminated")
    let trim ← Json.optional Json.bool? (parts.lookup "trim")
    let nullValue ← Json.optional Json.word? (parts.lookup "null_value")
    let unit ← Json.optional Json.text? (parts.lookup "unit")
    some {
      name, gap
      format := {
        kind, bits, signed, bitOrder, count, scale, offset, encoding, zeroTerminated, trim
        nullValue := nullValue.map UInt64.ofNat
        unit } }
  | _ => none

/-- The fields of a layout. Whether they form one is for `Layout.ofFields` to say. -/
def fields? (j : Json) : Option (List Field) := do
  match ← Json.parts? ["fields"] j with
  | [some (.array items)] => items.mapM field?
  | _ => none

/-! ## Options and values -/

def options? (j : Json) : Option WriteOptions := do
  match ← Json.parts? ["auto_start_row", "max_rows"] j with
  | [autoStart, rowLimit] =>
    let autoStart ← Json.orElse true Json.bool? autoStart
    let rowLimit ← Json.optional Json.word? rowLimit
    some { autoStart, rowLimit }
  | _ => none

def complex32? (j : Json) : Option Complex32 := do
  match ← Json.parts? ["re", "im"] j with
  | [re, im] => some ⟨← Json.required Json.binary32? re, ← Json.required Json.binary32? im⟩
  | _ => none

def complex64? (j : Json) : Option Complex64 := do
  match ← Json.parts? ["re", "im"] j with
  | [re, im] => some ⟨← Json.required Json.binary64? re, ← Json.required Json.binary64? im⟩
  | _ => none

def reference? (j : Json) : Option ExternalReference := do
  match ← Json.parts? ["description", "mime_type", "location"] j with
  | [description, mimeType, location] =>
    let description ← Json.required Json.text? description
    let mimeType ← Json.required Json.text? mimeType
    let location ← Json.required Json.text? location
    some { description, mimeType, location }
  | _ => none

end Definition

end PackedRecords
