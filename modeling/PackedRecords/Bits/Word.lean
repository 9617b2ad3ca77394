/-!
The two readings of a raw word that a field may ask for: the low bits as a
two's-complement integer, and the low bits in reverse order.
-/

namespace PackedRecords.Bits

/-- Reads the low `width` bits of a word as a two's-complement integer. A width of 0,
or of 64 and more, takes the word as a whole. -/
def signExtend (word : UInt64) (width : Nat) : Int64 :=
  if width = 0 ∨ 64 ≤ width then word.toInt64
  else
    let unused := 64 - width
    (word <<< UInt64.ofNat unused).toInt64 >>> Int64.ofNat unused

/-- Moves `n` bits, lowest first, from the low end of `word` to the low end of `done`. -/
def shiftAcross : Nat → UInt64 → UInt64 → UInt64
  | 0, _, done => done
  | n + 1, word, done => shiftAcross n (word >>> 1) ((done <<< 1) ||| (word &&& 1))

/-- The low `n` bits of a word in reverse order. Beyond 64 bits the first ones
moved leave at the high end. -/
def reverseLow (word : UInt64) (n : Nat) : UInt64 := shiftAcross n word 0

end PackedRecords.Bits
