import PackedRecords.Field.Decode
import PackedRecords.Text.Quoted

/-!
Layouts of packed records: named fields one after the other, perhaps with gaps. A
layout is accepted only if every record of it can be sized in advance, so that a
record is either all there or not begun.
-/

namespace PackedRecords

structure Field where
  name : String
  /-- Bits passed over before the field. -/
  gap : Nat := 0
  format : FieldFormat
deriving DecidableEq

/-- Data by field name, in the order of the fields. -/
abbrev Record := List (String × Datum)

inductive LayoutFault where
  | badName (name : String)
  | badFormat (name : String) (cause : FieldFault)
deriving DecidableEq

def LayoutFault.message : LayoutFault → String
  | .badName name => "invalid field name: " ++ Text.quote name
  | .badFormat name cause => "field " ++ Text.quote name ++ ": " ++ cause.message

structure Layout where
  fields : List Field
  extent : Nat
deriving DecidableEq

def Field.read (f : Field) : Attempt FieldFault Cursor (String × Datum) := do
  (Cursor.skip f.gap).mapError .read
  let d ← f.format.decode
  pure (f.name, d)

namespace Layout

def empty : Layout := ⟨[], 0⟩

def names (l : Layout) : List String := l.fields.map (·.name)

/-- Two sizes together, if a word can hold their sum. -/
def sum? (m n : Nat) : Option Nat := if m + n < sizeLimit then some (m + n) else none

/-- Adds a field at the end, under a name of its own. -/
def add (l : Layout) (f : Field) : Except LayoutFault Layout :=
  if f.name.isEmpty ∨ f.name ∈ l.names then .error (.badName f.name)
  else
    match f.format.check with
    | .error e => .error (.badFormat f.name e)
    | .ok () =>
      match (sum? f.gap f.format.extent).bind (sum? · l.extent) with
      | some total => .ok ⟨l.fields ++ [f], total⟩
      | none => .error (.badFormat f.name (.badWidth f.format.bits))

def ofFields (fields : List Field) : Except LayoutFault Layout := fields.foldlM add empty

/-- Reads fields in turn. -/
def readFields : List Field → Attempt FieldFault Cursor Record
  | [] => pure []
  | f :: fs => do
    let entry ← f.read
    let rest ← readFields fs
    pure (entry :: rest)

/-- Decodes the record at the cursor. -/
def readRecord (l : Layout) : Attempt FieldFault Cursor Record := do
  let c ← Attempt.state
  if c.available < l.extent then
    Attempt.fail (.read (.truncated l.extent c.available))
  else readFields l.fields

/-- Decodes the record at the start of a buffer. -/
def decode (l : Layout) (bytes : List UInt8) : Except FieldFault Record :=
  (l.readRecord (.ofBytes bytes)).1

end Layout

end PackedRecords
