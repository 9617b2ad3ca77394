import PackedRecords.Field.Fault
import PackedRecords.Value

/-!
The format of one packed field: the kind it has, the bits it takes, and how these are
turned into a value. Not every combination makes sense; `check` says which do.
-/

namespace PackedRecords

inductive BitOrder where
  | msbFirst
  | lsbFirst
deriving DecidableEq, Repr

inductive TextEncoding where
  | utf8
  | ascii
deriving DecidableEq, Repr

structure FieldFormat where
  kind : Kind
  /-- Width of one element. -/
  bits : Nat
  signed : Bool := false
  bitOrder : BitOrder := .msbFirst
  /-- Number of elements of a sequence. -/
  count : Option Nat := none
  scale : Option Binary64 := none
  offset : Option Binary64 := none
  encoding : Option TextEncoding := none
  /-- Whether text ends before its first zero byte. -/
  zeroTerminated : Option Bool := none
  trim : Option Bool := none
  /-- The raw word that stands for a null. -/
  nullValue : Option UInt64 := none
  unit : Option String := none
deriving DecidableEq

/-- Sizes in bits are 64-bit words, so they stay below this. -/
def sizeLimit : Nat := UInt64.size

namespace FieldFormat

/-- The bits that all elements take together, if a word can hold their number. -/
def extent? (f : FieldFormat) : Option Nat :=
  let total := f.bits * f.count.getD 1
  if total < sizeLimit then some total else none

/-- The bits that all elements take together, or the largest word. -/
def extent (f : FieldFormat) : Nat := f.extent?.getD (sizeLimit - 1)

/-- Whether the field is an integer to be scaled or shifted. -/
def isScaled (f : FieldFormat) : Bool := f.scale.isSome || f.offset.isSome

def checkAtMost (bits limit : Nat) : Except FieldFault Unit :=
  if bits = 0 ∨ limit < bits then .error (.badWidth bits) else .ok ()

def checkExactly (bits expected : Nat) : Except FieldFault Unit :=
  if bits = expected then .ok () else .error (.floatWidth expected bits)

def checkWholeBytes (bits : Nat) : Except FieldFault Unit :=
  if bits = 0 then .error (.badWidth 0)
  else if bits % 8 ≠ 0 then .error (.unalignedText bits)
  else .ok ()

/-- Each kind has the widths that its values can come from. -/
def checkWidth (f : FieldFormat) : Except FieldFault Unit :=
  match f.kind with
  | .scalar .boolean | .scalar .long | .scalar .enum => checkAtMost f.bits 64
  | .scalar .byte => checkAtMost f.bits 8
  | .scalar .short => checkAtMost f.bits 16
  | .scalar .int => checkAtMost f.bits 32
  | .scalar .float => if f.isScaled then checkAtMost f.bits 64 else checkExactly f.bits 32
  | .scalar .double => if f.isScaled then checkAtMost f.bits 64 else checkExactly f.bits 64
  | .scalar .string | .scalar .date => checkWholeBytes f.bits
  | .scalar .byteString | .blob => checkAtMost f.bits (sizeLimit - 1)
  | kind => .error (.unsupportedKind kind)

/-- The first thing that is wrong with a format. -/
def check (f : FieldFormat) : Except FieldFault Unit :=
  if f.count = some 0 then .error .noElements
  else if f.extent? = none then .error (.badWidth f.bits)
  else if f.count ≠ none ∧ f.kind.sequence? = none then .error (.unsupportedKind f.kind)
  else if !(f.scale.all Binary64.isFinite && f.offset.all Binary64.isFinite) then
    .error .scaleNotFinite
  else if f.isScaled && !f.kind.isFloating then .error (.unsupportedKind f.kind)
  else if f.encoding ≠ none ∧ !f.kind.isText then .error (.unsupportedKind f.kind)
  else f.checkWidth

end FieldFormat

end PackedRecords
