import PackedRecords.Attempt

/-!
A cursor over a byte buffer that reads any number of bits, from the high end of
each byte. It never leaves the buffer, and a read that fails leaves it where it was.
-/

namespace PackedRecords

inductive ReadFault where
  | beyondEnd (requested available : Nat)
  | tooWide (requested : Nat)
  | truncated (needed available : Nat)
deriving DecidableEq, Repr

def ReadFault.message : ReadFault → String
  | .beyondEnd requested available =>
    s!"bit read out of range: requested {requested} bits with {available} available"
  | .tooWide requested => s!"too many bits in a single read: {requested} (max 64)"
  | .truncated needed available =>
    s!"packet too short: need {needed} bits, have {available}"

/-- A place in a buffer, counted in bits. -/
structure Cursor where
  data : Array UInt8
  position : Nat
  position_le : position ≤ 8 * data.size

namespace Cursor

def ofBytes (bytes : List UInt8) : Cursor := ⟨bytes.toArray, 0, Nat.zero_le _⟩

def lengthBits (c : Cursor) : Nat := 8 * c.data.size

def available (c : Cursor) : Nat := c.lengthBits - c.position

def advance (c : Cursor) (n : Nat) (h : n ≤ c.available) : Cursor :=
  ⟨c.data, c.position + n, by
    have := c.position_le
    unfold available lengthBits at h
    omega⟩

theorem eq_of_position_eq {c d : Cursor} (data : c.data = d.data)
    (position : c.position = d.position) : c = d := by
  cases c
  cases d
  cases data
  cases position
  rfl

@[simp] theorem data_advance (c : Cursor) (n : Nat) (h : n ≤ c.available) :
    (c.advance n h).data = c.data := rfl

@[simp] theorem position_advance (c : Cursor) (n : Nat) (h : n ≤ c.available) :
    (c.advance n h).position = c.position + n := rfl

@[simp] theorem available_advance (c : Cursor) (n : Nat) (h : n ≤ c.available) :
    (c.advance n h).available = c.available - n := by
  simp only [available, lengthBits, data_advance, position_advance]
  omega

theorem advance_advance (c : Cursor) {m n : Nat} (h : m ≤ c.available)
    (h' : n ≤ (c.advance m h).available) :
    (c.advance m h).advance n h' =
      c.advance (m + n) (by rw [available_advance] at h'; omega) :=
  eq_of_position_eq rfl (Nat.add_assoc _ _ _)

/-- The `n` bits at `p`, at most eight, by way of the two bytes they can lie in. The second is
looked at only when the bits reach into it, so it is there. -/
def window (data : Array UInt8) (p n : Nat) (positive : 0 < n)
    (inside : p + n ≤ 8 * data.size) : UInt8 :=
  have : p / 8 < data.size := by omega
  let high := data[p / 8].toUInt16 <<< 8
  let both :=
    if crosses : 8 < p % 8 + n then
      have : p / 8 + 1 < data.size := by omega
      high ||| data[p / 8 + 1].toUInt16
    else high
  ((both >>> UInt16.ofNat (16 - p % 8 - n)) &&& ((1 <<< UInt16.ofNat n) - 1)).toUInt8

/-- The next `n` bits as a number. -/
def peek (c : Cursor) (n : Nat) (h : n ≤ c.available) : UInt8 :=
  if positive : 0 < n then
    window c.data c.position n positive (by
      have := c.position_le
      unfold available lengthBits at h
      omega)
  else 0

/-- Fails unless `n` bits are left. -/
def require (n : Nat) : Attempt ReadFault Cursor Unit := fun c =>
  if n ≤ c.available then (.ok (), c) else (.error (.beyondEnd n c.available), c)

/-- Reads up to eight bits. -/
def read (n : Nat) : Attempt ReadFault Cursor UInt8 := fun c =>
  if h : n ≤ 8 ∧ n ≤ c.available then (.ok (c.peek n h.2), c.advance n h.2)
  else (.error (.beyondEnd n c.available), c)

def skip (n : Nat) : Attempt ReadFault Cursor Unit := fun c =>
  if h : n ≤ c.available then (.ok (), c.advance n h)
  else (.error (.beyondEnd n c.available), c)

/-- The widths in which `bits` bits are read: bytes, then what is left. -/
def chunks (bits : Nat) : List Nat :=
  List.replicate (bits / 8) 8 ++ if bits % 8 = 0 then [] else [bits % 8]

/-- Reads up to eight bits into the high end of a byte. -/
def readHigh (n : Nat) : Attempt ReadFault Cursor UInt8 := do
  let low ← read n
  pure (low <<< UInt8.ofNat (8 - n))

/-- Reads any number of bits as bytes. Only the last byte may be partial, and its low
end is then clear. -/
def readBytes (bits : Nat) : Attempt ReadFault Cursor (List UInt8) := do
  require bits
  (chunks bits).mapM readHigh

/-- Reads up to eight bits below those already in `word`. -/
def readBelow (word : UInt64) (n : Nat) : Attempt ReadFault Cursor UInt64 := do
  let low ← read n
  pure ((word <<< UInt64.ofNat n) ||| low.toUInt64)

/-- Reads up to 64 bits as one number, high end first. -/
def readWord (bits : Nat) : Attempt ReadFault Cursor UInt64 := do
  if 64 < bits then
    Attempt.fail (.tooWide bits)
  else
    require bits
    (chunks bits).foldlM readBelow 0

/-- Moves on to the next multiple of `n`; 0 has none and asks for nothing. -/
def align (n : Nat) : Attempt ReadFault Cursor Unit := fun c =>
  if n = 0 ∨ c.position % n = 0 then (.ok (), c)
  else skip (n - c.position % n) c

end Cursor

end PackedRecords
