import PackedRecords.Binary
import PackedRecords.Kind

/-!
Payloads by kind. The kind determines the type of the payload, so a value is a kind
together with a payload of that very type, and a value of one kind cannot hold the
payload of another.
-/

namespace PackedRecords

structure Complex32 where
  re : Binary32
  im : Binary32
deriving DecidableEq, Repr, Inhabited

structure Complex64 where
  re : Binary64
  im : Binary64
deriving DecidableEq, Repr, Inhabited

/-- Data that is held elsewhere. -/
structure ExternalReference where
  description : String
  mimeType : String
  location : String
deriving DecidableEq, Repr, Inhabited

/-- The type of one element. -/
@[reducible] def Element.Carrier : Element → Type
  | .boolean => Bool
  | .byte => UInt8
  | .short => Int16
  | .int => Int32
  | .long => Int64
  | .float => Binary32
  | .double => Binary64
  | .string => String
  | .date => String
  | .enum => Int32
  | .byteString => List UInt8
  | .complex => Complex32
  | .doubleComplex => Complex64
  | .externalReference => ExternalReference

/-- The type of a payload. -/
@[reducible] def Kind.Payload : Kind → Type
  | .scalar e => e.Carrier
  | .blob => List UInt8
  | .sequence e => List e.Carrier

namespace Element

instance decidableEq : (e : Element) → DecidableEq e.Carrier
  | .boolean => inferInstanceAs (DecidableEq Bool)
  | .byte => inferInstanceAs (DecidableEq UInt8)
  | .short => inferInstanceAs (DecidableEq Int16)
  | .int => inferInstanceAs (DecidableEq Int32)
  | .long => inferInstanceAs (DecidableEq Int64)
  | .float => inferInstanceAs (DecidableEq Binary32)
  | .double => inferInstanceAs (DecidableEq Binary64)
  | .string => inferInstanceAs (DecidableEq String)
  | .date => inferInstanceAs (DecidableEq String)
  | .enum => inferInstanceAs (DecidableEq Int32)
  | .byteString => inferInstanceAs (DecidableEq (List UInt8))
  | .complex => inferInstanceAs (DecidableEq Complex32)
  | .doubleComplex => inferInstanceAs (DecidableEq Complex64)
  | .externalReference => inferInstanceAs (DecidableEq ExternalReference)

/-- The payload that stands where there is no value: zero, false or empty. -/
def filler : (e : Element) → e.Carrier
  | .boolean => false
  | .byte => 0
  | .short => 0
  | .int => 0
  | .long => 0
  | .float => ⟨0⟩
  | .double => ⟨0⟩
  | .string => ""
  | .date => ""
  | .enum => 0
  | .byteString => []
  | .complex => ⟨⟨0⟩, ⟨0⟩⟩
  | .doubleComplex => ⟨⟨0⟩, ⟨0⟩⟩
  | .externalReference => ⟨"", "", ""⟩

/-- Equality of elements, with floating-point numbers compared as numbers. -/
def equal : (e : Element) → e.Carrier → e.Carrier → Bool
  | .float, x, y => Binary32.equal x y
  | .double, x, y => Binary64.equal x y
  | .complex, x, y => Binary32.equal x.re y.re && Binary32.equal x.im y.im
  | .doubleComplex, x, y => Binary64.equal x.re y.re && Binary64.equal x.im y.im
  | _, x, y => decide (x = y)

end Element

namespace Kind

instance decidableEq : (k : Kind) → DecidableEq k.Payload
  | .scalar e => inferInstanceAs (DecidableEq e.Carrier)
  | .blob => inferInstanceAs (DecidableEq (List UInt8))
  | .sequence e => inferInstanceAs (DecidableEq (List e.Carrier))

def filler : (k : Kind) → k.Payload
  | .scalar e => e.filler
  | .blob => []
  | .sequence _ => []

def equal : (k : Kind) → k.Payload → k.Payload → Bool
  | .scalar e, x, y => e.equal x y
  | .blob, x, y => decide (x = y)
  | .sequence e, xs, ys => xs.length == ys.length && (xs.zip ys).all fun (x, y) => e.equal x y

/-- Whether a payload means that there is no value. Empty text, byte strings and blobs
do; empty sequences do not. -/
def isBlank : (k : Kind) → k.Payload → Bool
  | .scalar .string, s => s.isEmpty
  | .scalar .date, s => s.isEmpty
  | .scalar .byteString, bytes => bytes.isEmpty
  | .blob, bytes => bytes.isEmpty
  | _, _ => false

end Kind

/-- A payload with its kind. -/
structure Value where
  kind : Kind
  payload : kind.Payload
deriving DecidableEq

namespace Value

/-- The payload, if the value is of kind `k`. -/
def as? (v : Value) (k : Kind) : Option k.Payload :=
  if h : v.kind = k then some (h ▸ v.payload) else none

theorem as?_self (k : Kind) (x : k.Payload) : as? ⟨k, x⟩ k = some x := by simp [as?]

theorem as?_eq_some_iff {v : Value} {k : Kind} {x : k.Payload} :
    v.as? k = some x ↔ v = ⟨k, x⟩ := by
  constructor
  · intro h
    obtain ⟨kind, payload⟩ := v
    unfold as? at h
    split at h
    · rename_i hk
      cases hk
      cases h
      rfl
    · cases h
  · rintro rfl
    exact as?_self k x

theorem as?_eq_none_iff {v : Value} {k : Kind} : v.as? k = none ↔ v.kind ≠ k := by
  simp [as?]

/-- Equality of values, with floating-point numbers compared as numbers. -/
def equal (v w : Value) : Bool :=
  match w.as? v.kind with
  | some y => v.kind.equal v.payload y
  | none => false

end Value

end PackedRecords
