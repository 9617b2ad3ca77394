import Mathlib.Order.Bounds.Defs
import PackedRecords.Proofs.Bits.Checked

/-!
Cursors in use: requests in any order, some of which are refused. A refusal is an answer
like any other, and the run goes on behind it.

Proved here, for every buffer and every run of requests:

* `isLeast_next`: where an alignment leads;
* `Request.perform_outcome`: a request is refused and moves nothing, or it moves the cursor
  as far as it says;
* `WordCursor.run_tracks`: a machine with words for the places in the buffer gives the same
  answers and sets off no trap, by induction on the requests;
* on top of them, when each request of a run is refused, and where the cursor is after it.
-/

namespace PackedRecords

namespace Cursor

/-- What a cursor can be asked for. -/
inductive Request where
  | read (n : Nat)
  | readBytes (n : Nat)
  | readWord (n : Nat)
  | skip (n : Nat)
  | align (n : Nat)
deriving DecidableEq

inductive Reply where
  | byte (b : UInt8)
  | bytes (bs : List UInt8)
  | word (w : UInt64)
  | done
deriving DecidableEq

namespace Request

def perform : Request → Attempt ReadFault Cursor Reply
  | .read n => do pure (.byte (← Cursor.read n))
  | .readBytes n => do pure (.bytes (← Cursor.readBytes n))
  | .readWord n => do pure (.word (← Cursor.readWord n))
  | .skip n => do
    Cursor.skip n
    pure .done
  | .align n => do
    Cursor.align n
    pure .done

/-- The request as a machine performs it, with all its operations looked at. -/
def performChecked (limit : Nat) : Request → Attempt Halt WordCursor Reply
  | .read n => do pure (.byte (← WordCursor.read limit n))
  | .readBytes n => do pure (.bytes (← WordCursor.readBytes limit n))
  | .readWord n => do pure (.word (← WordCursor.readWord limit n))
  | .skip n => do
    WordCursor.skip limit n
    pure .done
  | .align n => do
    WordCursor.align limit n
    pure .done

/-- The fault that a request must be refused with. An alignment is refused if the next multiple
is out of the buffer, for the bits up to there. -/
inductive Refuses (c : Cursor) : Request → ReadFault → Prop where
  | read {n : Nat} (beyond : 8 < n ∨ c.available < n) :
      Refuses c (.read n) (.beyondEnd n c.available)
  | readBytes {n : Nat} (beyond : c.available < n) :
      Refuses c (.readBytes n) (.beyondEnd n c.available)
  | wide {n : Nat} (beyond : 64 < n) : Refuses c (.readWord n) (.tooWide n)
  | readWord {n : Nat} (small : n ≤ 64) (beyond : c.available < n) :
      Refuses c (.readWord n) (.beyondEnd n c.available)
  | skip {n : Nat} (beyond : c.available < n) : Refuses c (.skip n) (.beyondEnd n c.available)
  | align {n next : Nat} (positive : 0 < n) (off : ¬n ∣ c.position)
      (least : IsLeast {m | n ∣ m ∧ c.position ≤ m} next) (beyond : c.lengthBits < next) :
      Refuses c (.align n) (.beyondEnd (next - c.position) c.available)

/-- Where a request that is not refused leads from `p`. -/
def Leads (p q : Nat) : Request → Prop
  | .read n | .readBytes n | .readWord n | .skip n => q = p + n
  | .align n => if n = 0 then q = p else IsLeast {m | n ∣ m ∧ p ≤ m} q

end Request

/-! ## Single requests -/

theorem isLeast_of_dvd {n p : Nat} (there : n ∣ p) : IsLeast {m | n ∣ m ∧ p ≤ m} p :=
  ⟨⟨there, Nat.le_refl p⟩, fun _ above => above.2⟩

/-- The next multiple is as far ahead as the last one lacks of another step. -/
theorem isLeast_next {n p : Nat} (positive : 0 < n) (off : ¬n ∣ p) :
    IsLeast {m | n ∣ m ∧ p ≤ m} (p + (n - p % n)) := by
  have below := Nat.mod_lt p positive
  have split := Nat.div_add_mod p n
  have next : p + (n - p % n) = n * (p / n + 1) := by
    rw [Nat.mul_succ]
    omega
  rw [next]
  refine ⟨⟨Nat.dvd_mul_right _ _, by omega⟩, ?_⟩
  rintro _ ⟨⟨k, rfl⟩, above⟩
  -- The multiple at or above `p` is not the last one below it, as that is not `p` itself.
  have beyond : n * (p / n) < n * k := by
    have nonzero : p % n ≠ 0 := fun zero => off (Nat.dvd_of_mod_eq_zero zero)
    omega
  exact Nat.mul_le_mul_left n (Nat.lt_of_mul_lt_mul_left beyond)

namespace Request

variable {c : Cursor} {r : Request}

theorem Refuses.unique {e e' : ReadFault} (h : Refuses c r e) (h' : Refuses c r e') : e = e' := by
  cases h with
  | wide beyond =>
    cases h' with
    | wide => rfl
    | readWord small => omega
  | readWord small =>
    cases h' with
    | wide beyond => omega
    | readWord => rfl
  | align positive off least beyond =>
    cases h' with
    | align _ _ least' => rw [least.unique least']
  | read | readBytes | skip =>
    cases h'
    rfl

/-- An alignment stays where it is, or skips to the next multiple if the buffer goes that far. -/
theorem align_outcome (n : Nat) (c : Cursor) :
    (∃ e, Cursor.align n c = (.error e, c) ∧ Refuses c (.align n) e) ∨
      ∃ t, Cursor.align n c = (.ok (), t) ∧ t.data = c.data ∧
        Leads c.position t.position (.align n) ∧ ∀ e, ¬Refuses c (.align n) e := by
  by_cases zero : n = 0
  · refine .inr ⟨c, align_of_dvd (.inl zero), rfl, ?_, ?_⟩
    · rw [Leads, if_pos zero]
    · intro e refused
      cases refused with
      | align positive => omega
  have positive := Nat.pos_of_ne_zero zero
  by_cases there : n ∣ c.position
  · refine .inr ⟨c, align_of_dvd (.inr there), rfl, ?_, ?_⟩
    · rw [Leads, if_neg zero]
      exact isLeast_of_dvd there
    · intro e refused
      cases refused with
      | align _ off => exact off there
  have least := isLeast_next positive there
  have inside : c.position ≤ c.lengthBits := c.position_le
  have room : c.available = c.lengthBits - c.position := rfl
  rw [align_of_not_dvd positive there]
  by_cases fits : n - c.position % n ≤ c.available
  · refine .inr ⟨_, skip_of_le fits, rfl, ?_, ?_⟩
    · rw [Leads, if_neg zero]
      exact least
    · intro e refused
      cases refused with
      | align _ _ least' beyond =>
        rw [least'.unique least] at beyond
        omega
  · have refused := Refuses.align positive there least (by omega)
    rw [Nat.add_sub_cancel_left] at refused
    exact .inl ⟨_, skip_of_not_le fits, refused⟩

/-- A request is refused and the cursor stays, or it leads the cursor on. -/
theorem perform_outcome (r : Request) (c : Cursor) :
    (∃ e, r.perform c = (.error e, c) ∧ Refuses c r e) ∨
      ∃ reply t, r.perform c = (.ok reply, t) ∧ t.data = c.data ∧
        r.Leads c.position t.position ∧ ∀ e, ¬Refuses c r e := by
  cases r with
  | read n =>
    by_cases fits : n ≤ 8 ∧ n ≤ c.available
    · refine .inr ⟨_, _, Attempt.bind_ok (read_of_le fits.1 fits.2) _, rfl, rfl, ?_⟩
      rintro e (⟨beyond⟩)
      omega
    · refine .inl ⟨_, Attempt.bind_error (read_of_not_le fits) _, .read ?_⟩
      omega
  | readBytes n =>
    by_cases fits : n ≤ c.available
    · obtain ⟨bytes, run, -⟩ := readBytes_of_le fits
      refine .inr ⟨_, _, Attempt.bind_ok run _, rfl, rfl, ?_⟩
      rintro e (⟨beyond⟩)
      omega
    · exact .inl ⟨_, Attempt.bind_error (readBytes_of_not_le fits) _,
        .readBytes (Nat.not_le.mp fits)⟩
  | readWord n =>
    by_cases small : n ≤ 64
    · by_cases fits : n ≤ c.available
      · obtain ⟨word, run, -⟩ := readWord_of_le small fits
        refine .inr ⟨_, _, Attempt.bind_ok run _, rfl, rfl, ?_⟩
        rintro e (⟨beyond⟩ | ⟨-, beyond⟩)
        · omega
        · omega
      · exact .inl ⟨_, Attempt.bind_error (readWord_of_not_le small fits) _,
          .readWord small (Nat.not_le.mp fits)⟩
    · have wide := Nat.not_le.mp small
      exact .inl ⟨_, Attempt.bind_error (readWord_of_lt wide) _, .wide wide⟩
  | skip n =>
    by_cases fits : n ≤ c.available
    · refine .inr ⟨_, _, Attempt.bind_ok (skip_of_le fits) _, rfl, rfl, ?_⟩
      rintro e (⟨beyond⟩)
      omega
    · exact .inl ⟨_, Attempt.bind_error (skip_of_not_le fits) _, .skip (Nat.not_le.mp fits)⟩
  | align n =>
    rcases align_outcome n c with ⟨e, run, refused⟩ | ⟨t, run, data, leads, free⟩
    · exact .inl ⟨e, Attempt.bind_error run _, refused⟩
    · exact .inr ⟨.done, t, Attempt.bind_ok run _, data, leads, free⟩

/-- The machine performs requests as the cursor does. -/
theorem performChecked_realizes {limit : Nat} (roomy : 64 < limit) (r : Request) :
    WordCursor.Realizes limit (r.performChecked limit) r.perform := by
  cases r with
  | read n => exact (WordCursor.read_realizes roomy n).bind fun _ => .pure _
  | readBytes n => exact (WordCursor.readBytes_realizes roomy n).bind fun _ => .pure _
  | readWord n => exact (WordCursor.readWord_realizes roomy n).bind fun _ => .pure _
  | skip n => exact (WordCursor.skip_realizes limit n).bind fun _ => .pure _
  | align n => exact (WordCursor.align_realizes limit n).bind fun _ => .pure _

end Request

/-! ## Runs -/

/-- The answers to requests in turn, and where they leave the cursor. -/
def run : List Request → Cursor → List (Except ReadFault Reply) × Cursor
  | [], c => ([], c)
  | r :: rs, c =>
    ((r.perform c).1 :: (run rs (r.perform c).2).1, (run rs (r.perform c).2).2)

theorem run_concat (past : List Request) (r : Request) (c : Cursor) :
    run (past ++ [r]) c = ((run past c).1 ++ [(r.perform (run past c).2).1],
      (r.perform (run past c).2).2) := by
  induction past generalizing c with
  | nil => rfl
  | cons first past ih => simp only [List.cons_append, run, ih]

theorem data_run (requests : List Request) (c : Cursor) : (run requests c).2.data = c.data := by
  induction requests generalizing c with
  | nil => rfl
  | cons r requests ih =>
    rw [run, ih]
    rcases r.perform_outcome c with ⟨e, run, -⟩ | ⟨reply, t, run, data, -⟩
    · rw [run]
    · rw [run, data]

end Cursor

namespace WordCursor

open Cursor (Request Reply)

variable {limit : Nat} {m : WordCursor} {c : Cursor}

/-- A fault that is reported is an answer. A trap is not, and stays. -/
def answer {α : Type} (x : Attempt Halt WordCursor α) :
    Attempt Halt WordCursor (Except ReadFault α) := fun m =>
  match x m with
  | (.ok a, next) => (.ok (.ok a), next)
  | (.error (.reported e), next) => (.ok (.error e), next)
  | (.error trap, next) => (.error trap, next)

/-- The answers to requests in turn, unless one of them sets off a trap. -/
def run (limit : Nat) : List Request → Attempt Halt WordCursor (List (Except ReadFault Reply))
  | [] => pure []
  | r :: rs => do
    let first ← answer (r.performChecked limit)
    let rest ← run limit rs
    pure (first :: rest)

theorem Realizes.answer {α : Type} {x : Attempt Halt WordCursor α}
    {y : Attempt ReadFault Cursor α} (h : Realizes limit x y) (tracks : Tracks limit m c) :
    ∃ m', answer x m = (.ok (y c).1, m') ∧ Tracks limit m' (y c).2 := by
  obtain ⟨same, after⟩ := h tracks
  cases left : x m with
  | mk result m' =>
    cases right : y c with
    | mk reply c' =>
      cases reply with
      | ok a =>
        rw [left, Attempt.mapError_ok right] at same after
        cases same
        exact ⟨m', by rw [WordCursor.answer, left], after⟩
      | error e =>
        rw [left, Attempt.mapError_error right] at same after
        cases same
        exact ⟨m', by rw [WordCursor.answer, left], after⟩

/-- Whatever is asked, the words go on to track the cursor. -/
theorem run_tracks (roomy : 64 < limit) (tracks : Tracks limit m c) (requests : List Request) :
    ∃ m', run limit requests m = (.ok (Cursor.run requests c).1, m') ∧
      Tracks limit m' (Cursor.run requests c).2 := by
  induction requests generalizing m c with
  | nil => exact ⟨m, rfl, tracks⟩
  | cons r requests ih =>
    obtain ⟨next, first, between⟩ := (r.performChecked_realizes roomy).answer tracks
    obtain ⟨last, rest, after⟩ := ih between
    refine ⟨last, ?_, after⟩
    rw [run, Attempt.bind_ok first, Attempt.bind_ok rest]
    rfl

end WordCursor

namespace Cursor

/-- Whatever has been asked of a cursor over a buffer with its bits counted by a word, it is in
the buffer. The next request is refused exactly if it must be, and then moves nothing; else it
leads as far as it says. Words are enough for all of it: a machine gives the same answers and
never reads outside the buffer, overflows, goes below zero or shifts too far. -/
theorem run_discipline {limit : Nat} (roomy : 64 < limit) {bytes : List UInt8}
    (fits : 8 * bytes.length < limit) (past : List Request) (request : Request)
    {c t : Cursor} {result : Except ReadFault Reply}
    (reached : c = (run past (ofBytes bytes)).2) (performed : request.perform c = (result, t)) :
    (c.position ≤ 8 * bytes.length ∧ c.available = 8 * bytes.length - c.position) ∧
    (t.position ≤ 8 * bytes.length ∧ t.available = 8 * bytes.length - t.position) ∧
    (∀ e, result = .error e ↔ request.Refuses c e) ∧
    (∀ e, result = .error e → t = c) ∧
    (∀ reply, result = .ok reply → request.Leads c.position t.position) ∧
    ∃ m m', WordCursor.ofBytes limit bytes = .ok m ∧
      WordCursor.run limit (past ++ [request]) m =
        (.ok ((run past (ofBytes bytes)).1 ++ [result]), m') ∧
      WordCursor.Tracks limit m' t := by
  have within : ∀ d : Cursor, d.data = bytes.toArray →
      d.position ≤ 8 * bytes.length ∧ d.available = 8 * bytes.length - d.position := by
    intro d data
    have size : d.lengthBits = 8 * bytes.length := by rw [lengthBits, data, List.size_toArray]
    exact ⟨size ▸ d.position_le, by rw [available, size]⟩
  have data : c.data = bytes.toArray := by
    rw [reached]
    exact data_run past (ofBytes bytes)
  refine ⟨within c data, ?_⟩
  have machine : ∃ m m', WordCursor.ofBytes limit bytes = .ok m ∧
      WordCursor.run limit (past ++ [request]) m =
        (.ok ((run past (ofBytes bytes)).1 ++ [result]), m') ∧
      WordCursor.Tracks limit m' t := by
    obtain ⟨m, started, tracks⟩ := WordCursor.ofBytes_tracks fits
    obtain ⟨m', answered, after⟩ := WordCursor.run_tracks roomy tracks (past ++ [request])
    rw [run_concat, ← reached, performed] at answered after
    exact ⟨m, m', started, answered, after⟩
  rcases request.perform_outcome c with
    ⟨e, refusal, refused⟩ | ⟨reply, next, success, kept, leads, free⟩
  · rw [performed] at refusal
    cases refusal
    refine ⟨within c data, ?_, fun _ _ => rfl, ?_, machine⟩
    · intro e'
      constructor
      · rintro ⟨⟩
        exact refused
      · intro refused'
        rw [refused.unique refused']
    · rintro _ ⟨⟩
  · rw [performed] at success
    cases success
    refine ⟨within t (kept.trans data), ?_, ?_, ?_, machine⟩
    · intro e
      constructor
      · rintro ⟨⟩
      · intro refused
        exact absurd refused (free e)
    · rintro _ ⟨⟩
    · rintro _ ⟨⟩
      exact leads

/-- Two bytes, with requests that are refused in between, one of them for almost all bits that
a word can count. -/
theorem run_discipline_two_bytes :
    ∃ m m', WordCursor.ofBytes UInt64.size [0xA5, 0x3C] = .ok m ∧
      WordCursor.run UInt64.size
        ([.read 3, .align 8, .readWord 99, .skip 18446744073709551615, .readBytes 4] ++
          [.align 32]) m =
        (.ok [.ok (.byte 5), .ok .done, .error (.tooWide 99),
          .error (.beyondEnd 18446744073709551615 8), .ok (.bytes [0x30]),
          .error (.beyondEnd 20 4)], m') ∧
      m'.position = 12 := by
  have roomy : 64 < UInt64.size := by decide
  have fits : 8 * [(0xA5 : UInt8), 0x3C].length < UInt64.size := by decide
  obtain ⟨-, -, -, -, -, m, m', started, answered, tracks⟩ :=
    run_discipline roomy fits
      [.read 3, .align 8, .readWord 99, .skip 18446744073709551615, .readBytes 4] (.align 32)
      rfl rfl
  exact ⟨m, m', started, answered, tracks.position⟩

end Cursor

end PackedRecords
