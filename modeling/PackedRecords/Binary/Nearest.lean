/-!
Rounding a quotient of natural numbers to a binary floating-point format, to nearest
and with ties to even. All of it is exact arithmetic on natural numbers; the result
is the bit pattern without its sign.
-/

namespace PackedRecords.Binary

/-- A binary interchange format: the significant bits of a normal number, and the
exponent bias. -/
structure Format where
  precision : Nat
  bias : Nat

def single : Format := ⟨24, 127⟩

def double : Format := ⟨53, 1023⟩

/-- The pattern of infinity: the largest exponent, and nothing below it. -/
def Format.infinity (f : Format) : Nat := (2 * f.bias + 1) <<< (f.precision - 1)

/-- The exponent of the unit in which subnormal numbers are counted. -/
def Format.lowest (f : Format) : Int := 2 - f.bias - f.precision

/-- The quotient rounded to nearest, a half going to the even neighbour. -/
def roundDiv (num den : Nat) : Nat :=
  let q := num / den
  let r := num % den
  if den < 2 * r ∨ (2 * r = den ∧ q % 2 = 1) then q + 1 else q

/-- The quotient of `num` by `den · 2^e`, rounded. -/
def roundScaled (num den : Nat) : Int → Nat
  | .ofNat e => roundDiv num (den <<< e)
  | .negSucc e => roundDiv (num <<< (e + 1)) den

/-- Whether `num / den` is below `2^e`. -/
def belowPower (num den : Nat) : Int → Bool
  | .ofNat e => num < den <<< e
  | .negSucc e => num <<< (e + 1) < den

/-- The largest `e` with `2^e ≤ num / den`. -/
def floorLog (num den : Nat) : Int :=
  let e : Int := (Nat.log2 num : Int) - Nat.log2 den
  if belowPower num den e then e - 1 else e

/-- The pattern of the number of the format nearest to `num / den`. The significand
counts units of `2^e`; because a carry out of the significand runs into the exponent
field, one sum serves subnormal numbers, normal numbers and carries alike. -/
def Format.nearest (f : Format) (num den : Nat) : Nat :=
  if num = 0 then 0
  else
    let e := max (floorLog num den + 1 - f.precision) f.lowest
    let pattern := (e - f.lowest).toNat <<< (f.precision - 1) + roundScaled num den e
    min pattern f.infinity

end PackedRecords.Binary
