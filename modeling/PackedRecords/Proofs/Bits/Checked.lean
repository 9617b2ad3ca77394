import PackedRecords.Proofs.Bits.Reads
import PackedRecords.Proofs.Simulation

/-!
The cursor as a machine has it. Places and widths are words, of which there are `limit`,
and every operation that a machine cannot be trusted with is looked at before it is done:
a sum or a product that is no word, a difference below zero, a shift by all bits or more, a
byte that is not there. Each of them ends the run as a trap, which is not a fault that a read
reports.

Proved here, for every cursor whose buffer has its bits counted by a word:

* `window_eq`: the window of a read sets off no trap;
* `byChunks_realizes`: nor does a loop over chunks if its steps do not, by induction on the
  chunks;
* `read_realizes`, `readBytes_realizes`, `readWord_realizes`, `skip_realizes`,
  `align_realizes`: every step ends as the step of the cursor does.
-/

namespace PackedRecords

/-- Why a machine ends a step: a read reports a fault, or a trap is set off. -/
inductive Halt where
  | reported (cause : ReadFault)
  | sum
  | product
  | difference
  | shift
  | index
deriving DecidableEq

/-- A place in a buffer as words tell it. -/
structure WordCursor where
  data : Array UInt8
  position : Nat
  last : Nat
deriving DecidableEq

namespace Halt

/-! ## Operations that may trap -/

def add (limit a b : Nat) : Except Halt Nat := if a + b < limit then .ok (a + b) else .error sum

def multiply (limit a b : Nat) : Except Halt Nat :=
  if a * b < limit then .ok (a * b) else .error product

def subtract (a b : Nat) : Except Halt Nat := if b ≤ a then .ok (a - b) else .error difference

/-- The number of places to shift an operand of so many bits. -/
def shiftBy (width n : Nat) : Except Halt Nat := if n < width then .ok n else .error shift

def byteAt (data : Array UInt8) (i : Nat) : Except Halt UInt8 :=
  if h : i < data.size then .ok data[i] else .error index

theorem ok_bind {α β : Type} (a : α) (f : α → Except Halt β) :
    ((.ok a : Except Halt α) >>= f) = f a := rfl

theorem add_of_lt {limit a b : Nat} (h : a + b < limit) : add limit a b = .ok (a + b) := if_pos h

theorem subtract_of_le {a b : Nat} (h : b ≤ a) : subtract a b = .ok (a - b) := if_pos h

theorem shiftBy_of_lt {width n : Nat} (h : n < width) : shiftBy width n = .ok n := if_pos h

theorem byteAt_of_lt {data : Array UInt8} {i : Nat} (h : i < data.size) :
    byteAt data i = .ok data[i] := dif_pos h

end Halt

namespace WordCursor

open Halt (add multiply subtract shiftBy byteAt)

/-! ## Steps -/

section

variable (limit : Nat)

def ofBytes (bytes : List UInt8) : Except Halt WordCursor := do
  let last ← multiply limit bytes.length 8
  pure ⟨bytes.toArray, 0, last⟩

def available : Attempt Halt WordCursor Nat := do
  let c ← Attempt.state
  Attempt.ofExcept (subtract c.last c.position)

def require (n : Nat) : Attempt Halt WordCursor Unit := do
  let left ← available
  if left < n then Attempt.fail (.reported (.beyondEnd n left))
  else pure ()

def moveTo (p : Nat) : Attempt Halt WordCursor Unit := fun c => (.ok (), { c with position := p })

def advance (n : Nat) : Attempt Halt WordCursor Unit := do
  let c ← Attempt.state
  let next ← Attempt.ofExcept (add limit c.position n)
  moveTo next

/-- The bits of a mask, which is one less than a power of two. -/
def mask (n : Nat) : Except Halt UInt16 := do
  let n ← shiftBy 16 n
  let power : UInt16 := 1 <<< UInt16.ofNat n
  if 1 ≤ power then .ok (power - 1) else .error .difference

/-- The byte at `i` above the next one, which is left out if the bits do not reach into it. -/
def bytesAt (data : Array UInt8) (i reach : Nat) : Except Halt UInt16 := do
  let first ← byteAt data i
  let high := first.toUInt16 <<< 8
  if 8 < reach then
    let next ← add limit i 1
    let second ← byteAt data next
    pure (high ||| second.toUInt16)
  else pure high

/-- The `n` bits at `p`. -/
def window (data : Array UInt8) (p n : Nat) : Except Halt UInt8 :=
  if n = 0 then .ok 0
  else do
    let reach ← add limit (p % 8) n
    let both ← bytesAt limit data (p / 8) reach
    let unread ← subtract 16 (p % 8)
    let behind ← subtract unread n
    let behind ← shiftBy 16 behind
    let ones ← mask n
    pure ((both >>> UInt16.ofNat behind) &&& ones).toUInt8

def read (n : Nat) : Attempt Halt WordCursor UInt8 := do
  if 8 < n then
    let left ← available
    Attempt.fail (.reported (.beyondEnd n left))
  else
    require n
    let c ← Attempt.state
    let value ← Attempt.ofExcept (window limit c.data c.position n)
    advance limit n
    pure value

/-- Takes the next eight bits, or all that remain, until none do. -/
def byChunks {α : Type} (step : α → Nat → Attempt Halt WordCursor α) (done : α)
    (remaining : Nat) : Attempt Halt WordCursor α :=
  if remaining = 0 then pure done
  else do
    let chunk := min remaining 8
    let next ← step done chunk
    -- What `subtract` looks at, in sight of the recursion, which ends by it.
    if chunk ≤ remaining then byChunks step next (remaining - chunk)
    else Attempt.fail .difference
termination_by remaining
decreasing_by omega

/-- Reads a chunk into the high end of a byte, behind those already read. -/
def readHigh (bytes : List UInt8) (n : Nat) : Attempt Halt WordCursor (List UInt8) := do
  let low ← read limit n
  let unused ← Attempt.ofExcept (subtract 8 n)
  let unused ← Attempt.ofExcept (shiftBy 8 unused)
  pure (bytes ++ [low <<< UInt8.ofNat unused])

/-- The number of bytes that so many bits take. -/
def capacity (n : Nat) : Except Halt Nat :=
  if n % 8 = 0 then .ok (n / 8) else add limit (n / 8) 1

def readBytes (n : Nat) : Attempt Halt WordCursor (List UInt8) := do
  require n
  let _ ← Attempt.ofExcept (capacity limit n)
  byChunks (readHigh limit) [] n

/-- Reads a chunk below the bits already in `word`. -/
def readBelow (word : UInt64) (n : Nat) : Attempt Halt WordCursor UInt64 := do
  let amount ← Attempt.ofExcept (shiftBy 64 n)
  let low ← read limit n
  pure ((word <<< UInt64.ofNat amount) ||| low.toUInt64)

def readWord (n : Nat) : Attempt Halt WordCursor UInt64 := do
  if 64 < n then
    Attempt.fail (.reported (.tooWide n))
  else
    require n
    byChunks (readBelow limit) 0 n

def skip (n : Nat) : Attempt Halt WordCursor Unit := do
  require n
  advance limit n

def align (n : Nat) : Attempt Halt WordCursor Unit := do
  if n = 0 then
    pure ()
  else
    let c ← Attempt.state
    if c.position % n = 0 then
      pure ()
    else
      let rest ← Attempt.ofExcept (subtract n (c.position % n))
      skip limit rest

end

/-! ## No traps -/

variable {limit n p : Nat} {c : Cursor}

private theorem one_le_power : ∀ n : Fin 9, 1 ≤ (1 : UInt16) <<< UInt16.ofNat n.val := by
  decide

theorem mask_of_le (small : n ≤ 8) : mask n = .ok ((1 <<< UInt16.ofNat n) - 1) := by
  have power : 1 ≤ (1 : UInt16) <<< UInt16.ofNat n := one_le_power ⟨n, by omega⟩
  rw [mask, Halt.shiftBy_of_lt (by omega)]
  exact if_pos power

/-- The second byte is looked at only if the bits reach into it, and then it is there. -/
theorem bytesAt_of_le {data : Array UInt8} (fits : 8 * data.size < limit)
    (inside : p + n ≤ 8 * data.size) (positive : 0 < n) :
    bytesAt limit data (p / 8) (p % 8 + n) = .ok (
      let high := data[p / 8].toUInt16 <<< 8
      if crosses : 8 < p % 8 + n then
        high ||| data[p / 8 + 1].toUInt16
      else high) := by
  rw [bytesAt, Halt.byteAt_of_lt (by omega), Halt.ok_bind]
  by_cases crosses : 8 < p % 8 + n
  · rw [if_pos crosses, Halt.add_of_lt (by omega), Halt.ok_bind, Halt.byteAt_of_lt (by omega)]
    simp only [dif_pos crosses]
    rfl
  · rw [if_neg crosses]
    simp only [dif_neg crosses]
    rfl

theorem window_eq {data : Array UInt8} (roomy : 64 < limit) (fits : 8 * data.size < limit)
    (small : n ≤ 8) (positive : 0 < n) (inside : p + n ≤ 8 * data.size) :
    window limit data p n = .ok (Cursor.window data p n positive inside) := by
  rw [window, if_neg (Nat.ne_of_gt positive), Halt.add_of_lt (by omega), Halt.ok_bind,
    bytesAt_of_le fits inside positive, Halt.ok_bind, Halt.subtract_of_le (by omega), Halt.ok_bind,
    Halt.subtract_of_le (by omega), Halt.ok_bind, Halt.shiftBy_of_lt (by omega), Halt.ok_bind,
    mask_of_le small]
  rfl

/-! ## Steps of the cursor -/

/-- The words say where the cursor is, and one of them counts all bits of its buffer. -/
structure Tracks (limit : Nat) (m : WordCursor) (c : Cursor) : Prop where
  data : m.data = c.data
  position : m.position = c.position
  last : m.last = c.lengthBits
  fits : c.lengthBits < limit

namespace Tracks

variable {m : WordCursor}

theorem available_eq (tracks : Tracks limit m c) : available m = (.ok c.available, m) := by
  have inside : c.position ≤ c.lengthBits := c.position_le
  rw [available, Attempt.bind_ok (Attempt.state_apply m), tracks.last, tracks.position,
    Halt.subtract_of_le inside]
  rfl

theorem require_of_le (tracks : Tracks limit m c) (h : n ≤ c.available) :
    require n m = (.ok (), m) := by
  rw [require, Attempt.bind_ok tracks.available_eq, if_neg (Nat.not_lt.mpr h)]
  rfl

theorem require_of_lt (tracks : Tracks limit m c) (h : c.available < n) :
    require n m = (.error (.reported (.beyondEnd n c.available)), m) := by
  rw [require, Attempt.bind_ok tracks.available_eq, if_pos h]
  rfl

theorem advance_of_le (tracks : Tracks limit m c) (h : n ≤ c.available) :
    ∃ m', advance limit n m = (.ok (), m') ∧ Tracks limit m' (c.advance n h) := by
  have fits := tracks.fits
  have inside := (c.advance n h).position_le
  have word : c.position + n < limit := Nat.lt_of_le_of_lt inside fits
  refine ⟨{ m with position := c.position + n }, ?_, tracks.data, rfl, tracks.last, fits⟩
  rw [advance, Attempt.bind_ok (Attempt.state_apply m), tracks.position, Halt.add_of_lt word]
  rfl

end Tracks

theorem ofBytes_tracks {bytes : List UInt8} (fits : 8 * bytes.length < limit) :
    ∃ m, ofBytes limit bytes = .ok m ∧ Tracks limit m (.ofBytes bytes) := by
  have size : (Cursor.ofBytes bytes).lengthBits = bytes.length * 8 := by
    simp [Cursor.lengthBits, Cursor.ofBytes, Nat.mul_comm]
  have word : bytes.length * 8 < limit := by omega
  refine ⟨⟨bytes.toArray, 0, bytes.length * 8⟩, ?_, rfl, rfl, size.symm, size ▸ word⟩
  rw [ofBytes, multiply, if_pos word]
  rfl

/-- From words that track a cursor, the machine ends its step as the cursor does, with words
that track it. So it sets off no trap. -/
def Realizes {α : Type} (limit : Nat) (x : Attempt Halt WordCursor α)
    (y : Attempt ReadFault Cursor α) : Prop :=
  Attempt.Simulates (Tracks limit) x (y.mapError .reported)

namespace Realizes

variable {α β : Type} {x : Attempt Halt WordCursor α} {y : Attempt ReadFault Cursor α}

theorem pure (a : α) : Realizes limit (Pure.pure a) (Pure.pure a) :=
  Attempt.Simulates.pure a

theorem fail (e : ReadFault) :
    Realizes limit (Attempt.fail (.reported e) : Attempt Halt WordCursor α) (Attempt.fail e) :=
  fun _ _ tracks => ⟨rfl, tracks⟩

theorem bind {f : α → Attempt Halt WordCursor β} {g : α → Attempt ReadFault Cursor β}
    (first : Realizes limit x y) (rest : ∀ a, Realizes limit (f a) (g a)) :
    Realizes limit (x >>= f) (y >>= g) :=
  Attempt.Simulates.bind_mapError first rest

end Realizes

theorem require_realizes (limit n : Nat) : Realizes limit (require n) (Cursor.require n) := by
  intro m c tracks
  by_cases h : n ≤ c.available
  · rw [tracks.require_of_le h, Attempt.mapError_ok (Cursor.require_of_le h)]
    exact ⟨rfl, tracks⟩
  · rw [tracks.require_of_lt (Nat.not_le.mp h), Attempt.mapError_error (Cursor.require_of_not_le h)]
    exact ⟨rfl, tracks⟩

theorem skip_realizes (limit n : Nat) : Realizes limit (skip limit n) (Cursor.skip n) := by
  intro m c tracks
  by_cases h : n ≤ c.available
  · obtain ⟨m', moved, after⟩ := tracks.advance_of_le h
    rw [skip, Attempt.bind_ok (tracks.require_of_le h), moved,
      Attempt.mapError_ok (Cursor.skip_of_le h)]
    exact ⟨rfl, after⟩
  · rw [skip, Attempt.bind_error (tracks.require_of_lt (Nat.not_le.mp h)),
      Attempt.mapError_error (Cursor.skip_of_not_le h)]
    exact ⟨rfl, tracks⟩

theorem align_realizes (limit n : Nat) : Realizes limit (align limit n) (Cursor.align n) := by
  intro m c tracks
  by_cases zero : n = 0
  · rw [align, if_pos zero, Attempt.mapError_ok (Cursor.align_of_dvd (.inl zero))]
    exact ⟨rfl, tracks⟩
  rw [align, if_neg zero, Attempt.bind_ok (Attempt.state_apply m), tracks.position]
  by_cases there : n ∣ c.position
  · rw [if_pos (Nat.mod_eq_zero_of_dvd there),
      Attempt.mapError_ok (Cursor.align_of_dvd (.inr there))]
    exact ⟨rfl, tracks⟩
  · have positive := Nat.pos_of_ne_zero zero
    have below : c.position % n ≤ n := Nat.le_of_lt (Nat.mod_lt _ positive)
    rw [if_neg fun none => there (Nat.dvd_of_mod_eq_zero none), Halt.subtract_of_le below,
      Attempt.bind_ok (Attempt.ofExcept_ok _ m), Attempt.mapError,
      Cursor.align_of_not_dvd positive there]
    exact skip_realizes limit _ tracks

theorem read_realizes (roomy : 64 < limit) (n : Nat) :
    Realizes limit (read limit n) (Cursor.read n) := by
  intro m c tracks
  by_cases small : n ≤ 8
  case neg =>
    rw [read, if_pos (Nat.not_le.mp small), Attempt.bind_ok tracks.available_eq,
      Attempt.mapError_error (Cursor.read_of_not_le fun both => small both.1)]
    exact ⟨rfl, tracks⟩
  rw [read, if_neg (Nat.not_lt.mpr small)]
  by_cases h : n ≤ c.available
  · have value : window limit c.data c.position n = .ok (c.peek n h) := by
      by_cases positive : 0 < n
      · rw [Cursor.peek, dif_pos positive]
        exact window_eq roomy tracks.fits small positive _
      · obtain rfl : n = 0 := by omega
        rfl
    obtain ⟨m', moved, after⟩ := tracks.advance_of_le h
    rw [Attempt.bind_ok (tracks.require_of_le h), Attempt.bind_ok (Attempt.state_apply m),
      tracks.data, tracks.position, value, Attempt.bind_ok (Attempt.ofExcept_ok _ m),
      Attempt.bind_ok moved, Attempt.mapError_ok (Cursor.read_of_le small h)]
    exact ⟨rfl, after⟩
  · rw [Attempt.bind_error (tracks.require_of_lt (Nat.not_le.mp h)),
      Attempt.mapError_error (Cursor.read_of_not_le fun both => h both.2)]
    exact ⟨rfl, tracks⟩

/-! ## Loops over chunks -/

section

variable {α : Type} {step : α → Nat → Attempt Halt WordCursor α}
  {fold : α → Nat → Attempt ReadFault Cursor α}

theorem byChunks_zero (step : α → Nat → Attempt Halt WordCursor α) (done : α) :
    byChunks step done 0 = pure done := by
  rw [byChunks, if_pos rfl]

theorem byChunks_of_pos (step : α → Nat → Attempt Halt WordCursor α) (done : α)
    (positive : 0 < n) :
    byChunks step done n = step done (min n 8) >>= fun next =>
      byChunks step next (n - min n 8) := by
  rw [byChunks, if_neg (Nat.ne_of_gt positive)]
  simp only [if_pos (Nat.min_le_left n 8)]

/-- The loop takes the chunks that a fold goes over. -/
theorem byChunks_realizes
    (steps : ∀ done chunk, 0 < chunk → chunk ≤ 8 →
      Realizes limit (step done chunk) (fold done chunk)) (done : α) (n : Nat) :
    Realizes limit (byChunks step done n) ((Cursor.chunks n).foldlM fold done) := by
  induction n using Cursor.chunks_induction generalizing done with
  | none =>
    rw [byChunks_zero]
    exact .pure done
  | last n positive small =>
    rw [byChunks_of_pos step done positive, Cursor.chunks_of_lt positive small, List.foldlM_cons,
      Nat.min_eq_left (Nat.le_of_lt small), Nat.sub_self]
    refine (steps done n positive (Nat.le_of_lt small)).bind fun next => ?_
    rw [byChunks_zero]
    exact .pure next
  | whole n ih =>
    rw [byChunks_of_pos step done (by omega), Cursor.chunks_add_eight, List.foldlM_cons,
      Nat.min_eq_right (Nat.le_add_left 8 n), Nat.add_sub_cancel]
    exact (steps done 8 (by omega) (Nat.le_refl 8)).bind ih

end

theorem readBelow_realizes (roomy : 64 < limit) (word : UInt64) (small : n ≤ 8) :
    Realizes limit (readBelow limit word n) (Cursor.readBelow word n) := by
  rw [readBelow, Halt.shiftBy_of_lt (by omega)]
  exact (read_realizes roomy n).bind fun low => .pure _

theorem readWord_realizes (roomy : 64 < limit) (n : Nat) :
    Realizes limit (readWord limit n) (Cursor.readWord n) := by
  unfold readWord Cursor.readWord
  by_cases wide : 64 < n
  · rw [if_pos wide, if_pos wide]
    exact .fail (.tooWide n)
  · rw [if_neg wide, if_neg wide]
    exact (require_realizes limit n).bind fun _ =>
      byChunks_realizes (fun word _ _ small => readBelow_realizes roomy word small) 0 n

/-- Reads a chunk into the high end of a byte, behind those already read. -/
def readBehind (bytes : List UInt8) (n : Nat) : Attempt ReadFault Cursor (List UInt8) := do
  pure (bytes ++ [← Cursor.readHigh n])

theorem foldlM_readBehind (widths : List Nat) (bytes : List UInt8) :
    widths.foldlM readBehind bytes =
      widths.mapM Cursor.readHigh >>= fun read => pure (bytes ++ read) := by
  induction widths generalizing bytes with
  | nil => simp
  | cons width widths ih =>
    rw [List.foldlM_cons, List.mapM_cons]
    simp only [readBehind, ih, bind_assoc, pure_bind, List.append_assoc, List.singleton_append]

theorem readHigh_realizes (roomy : 64 < limit) (bytes : List UInt8) (positive : 0 < n)
    (small : n ≤ 8) : Realizes limit (readHigh limit bytes n) (readBehind bytes n) := by
  have shift : Halt.shiftBy 8 (8 - n) = .ok (8 - n) := Halt.shiftBy_of_lt (by omega)
  rw [readHigh, Halt.subtract_of_le small, readBehind, Cursor.readHigh, bind_assoc]
  refine (read_realizes roomy n).bind fun low => ?_
  simp only [Attempt.ofExcept, pure_bind, shift]
  exact .pure _

theorem capacity_of_lt (word : n < limit) : ∃ size, capacity limit n = .ok size := by
  unfold capacity
  split
  · exact ⟨_, rfl⟩
  · exact ⟨_, Halt.add_of_lt (by omega)⟩

theorem readBytes_realizes (roomy : 64 < limit) (n : Nat) :
    Realizes limit (readBytes limit n) (Cursor.readBytes n) := by
  have loop := byChunks_realizes
    (fun bytes _ positive small => readHigh_realizes roomy bytes positive small) [] n
  rw [foldlM_readBehind] at loop
  simp only [List.nil_append, bind_pure] at loop
  intro m c tracks
  by_cases h : n ≤ c.available
  · have word : n < limit := by
      have fits := tracks.fits
      unfold Cursor.available at h
      omega
    obtain ⟨size, room⟩ := capacity_of_lt word
    rw [readBytes, Attempt.bind_ok (tracks.require_of_le h), room,
      Attempt.bind_ok (Attempt.ofExcept_ok size m), Attempt.mapError, Cursor.readBytes,
      Attempt.bind_ok (Cursor.require_of_le h)]
    exact loop tracks
  · rw [readBytes, Attempt.bind_error (tracks.require_of_lt (Nat.not_le.mp h)),
      Attempt.mapError_error (Cursor.readBytes_of_not_le h)]
    exact ⟨rfl, tracks⟩

end WordCursor

end PackedRecords
