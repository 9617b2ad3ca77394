import PackedRecords.Binary.Nearest

/-!
Floating-point numbers as the bit patterns that records hold. Two patterns may be
equal as numbers and differ as bits, so there are two equalities: `=` on the
pattern, and `equal` on the number.
-/

namespace PackedRecords

structure Binary32 where
  bits : UInt32
deriving DecidableEq, Repr, Inhabited

structure Binary64 where
  bits : UInt64
deriving DecidableEq, Repr, Inhabited

namespace Binary32

def isNaN (x : Binary32) : Bool := 0x7F800000 < (x.bits &&& 0x7FFFFFFF)

/-- Equality as numbers: a NaN equals nothing, and the two zeros are equal. -/
def equal (x y : Binary32) : Bool :=
  !x.isNaN && !y.isNaN && (x.bits == y.bits || (x.bits ||| y.bits) <<< 1 == 0)

/-- The number nearest to `± num / den`. -/
def ofRatio (negative : Bool) (num den : Nat) : Binary32 :=
  ⟨(if negative then 0x80000000 else 0) ||| UInt32.ofNat (Binary.single.nearest num den)⟩

end Binary32

namespace Binary64

def isNaN (x : Binary64) : Bool := 0x7FF0000000000000 < (x.bits &&& 0x7FFFFFFFFFFFFFFF)

def isFinite (x : Binary64) : Bool := (x.bits &&& 0x7FFFFFFFFFFFFFFF) < 0x7FF0000000000000

/-- Equality as numbers: a NaN equals nothing, and the two zeros are equal. -/
def equal (x y : Binary64) : Bool :=
  !x.isNaN && !y.isNaN && (x.bits == y.bits || (x.bits ||| y.bits) <<< 1 == 0)

/-- The number nearest to `± num / den`. -/
def ofRatio (negative : Bool) (num den : Nat) : Binary64 :=
  ⟨(if negative then 0x8000000000000000 else 0) ||| UInt64.ofNat (Binary.double.nearest num den)⟩

def toFloat (x : Binary64) : Float := Float.ofBits x.bits

def ofFloat (x : Float) : Binary64 := ⟨x.toBits⟩

/-- The nearest single precision number. -/
def toBinary32 (x : Binary64) : Binary32 := ⟨x.toFloat.toFloat32.toBits⟩

end Binary64

end PackedRecords
