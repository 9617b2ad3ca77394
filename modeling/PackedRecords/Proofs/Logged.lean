import PackedRecords.Catalog
import PackedRecords.Proofs.Simulation
import PackedRecords.Store

/-!
Catalogs and stores that write down every question put to them, oldest first. What a
program asks is then part of the state it ends in, and a program that cannot tell a
log from its absence asks the same without one.
-/

namespace PackedRecords

/-- A state, and what was asked of it. -/
structure Logged (Q σ : Type) where
  state : σ
  log : List Q

/-- What a catalog can be asked. -/
inductive Question where
  | kindOf (entity attr : String)
  | isIdentity (entity attr : String)
  | codeOf (enumeration literal : String)
  | literalOf (enumeration : String) (code : Int32)
deriving DecidableEq

namespace Logged

variable {Q ε σ α : Type}

def ofState (s : σ) : Logged Q σ := ⟨s, []⟩

/-- Asks, and writes the question down. -/
def ask (q : Q) (x : Attempt ε σ α) : Attempt ε (Logged Q σ) α := fun l =>
  ((x l.state).1, ⟨(x l.state).2, l.log ++ [q]⟩)

/-- A state and the same state with some log. -/
def Forgets (l : Logged Q σ) (s : σ) : Prop := l.state = s

theorem ask_simulates (q : Q) (x : Attempt ε σ α) : Attempt.Simulates Forgets (ask q x) x := by
  rintro l s rfl
  exact ⟨rfl, rfl⟩

/-- A step that cannot tell its logs from their absence gives the same without them. -/
theorem eq_of_simulates {Q' τ : Type} {x : Attempt ε (Logged Q σ × Logged Q' τ) α}
    {y : Attempt ε (σ × τ) α} (h : Attempt.Simulates (Attempt.Both Forgets Forgets) x y)
    (s : σ) (t : τ) :
    y (s, t) = ((x (ofState s, ofState t)).1, (x (ofState s, ofState t)).2.1.state,
      (x (ofState s, ofState t)).2.2.state) := by
  obtain ⟨result, first, second⟩ := h (s := (ofState s, ofState t)) (t := (s, t)) ⟨rfl, rfl⟩
  rw [result, first, second]

instance {C : Type} [Catalog C] : Catalog (Logged Question C) where
  kindOf entity attr := ask (.kindOf entity attr) (Catalog.kindOf entity attr)
  isIdentity entity attr := ask (.isIdentity entity attr) (Catalog.isIdentity entity attr)
  codeOf enumeration literal :=
    ask (.codeOf enumeration literal) (Catalog.codeOf enumeration literal)
  literalOf enumeration code :=
    ask (.literalOf enumeration code) (Catalog.literalOf enumeration code)

instance {S : Type} [Store S] : Store (Logged Submission S) where
  insert request := ask request (Store.insert request)

theorem insert_simulates {S : Type} [Store S] (request : Submission) :
    Attempt.Simulates Forgets (Store.insert request : Attempt _ (Logged Submission S) _)
      (Store.insert request) :=
  ask_simulates request _

/-! ## Questions of a step -/

variable {δ β : Type} {known : σ → Prop}

/-- From a state that `known` holds of, a step asks these questions and has this result,
and it ends in such a state. -/
def Asks (known : σ → Prop) (x : Attempt ε (Logged Q σ) α) (questions : List Q)
    (result : Except ε α) : Prop :=
  ∀ ⦃l⦄, known l.state → ∃ s, x l = (result, ⟨s, l.log ++ questions⟩) ∧ known s

namespace Asks

theorem ofExcept (result : Except ε α) :
    Asks known (Attempt.ofExcept result : Attempt ε (Logged Q σ) α) [] result := by
  intro l holds
  cases result with
  | ok a => exact ⟨l.state, by simp [Attempt.ofExcept_ok], holds⟩
  | error e => exact ⟨l.state, by simp [Attempt.ofExcept_error], holds⟩

theorem ask {x : Attempt ε σ α} {result : Except ε α} (h : Attempt.Gives known x result) (q : Q) :
    Asks known (Logged.ask q x) [q] result := by
  intro l holds
  obtain ⟨s, run, after⟩ := h holds
  exact ⟨s, by rw [Logged.ask, run], after⟩

theorem mapError {x : Attempt ε (Logged Q σ) α} {questions : List Q} {result : Except ε α}
    (h : Asks known x questions result) (f : ε → δ) :
    Asks known (x.mapError f) questions (result.mapError f) := by
  intro l holds
  obtain ⟨s, run, after⟩ := h holds
  cases result with
  | ok a => exact ⟨s, Attempt.mapError_ok run f, after⟩
  | error e => exact ⟨s, Attempt.mapError_error run f, after⟩

theorem bind {x : Attempt ε (Logged Q σ) α} {f : α → Attempt ε (Logged Q σ) β} {a : α}
    {first rest all : List Q} {result : Except ε β} (here : Asks known x first (.ok a))
    (there : Asks known (f a) rest result) (order : first ++ rest = all) :
    Asks known (x >>= f) all result := by
  intro l holds
  obtain ⟨s, run, between⟩ := here holds
  obtain ⟨t, run', after⟩ := there (l := ⟨s, l.log ++ first⟩) between
  refine ⟨t, ?_, after⟩
  rw [Attempt.bind_ok run, run', ← order, List.append_assoc]

theorem bind_error {x : Attempt ε (Logged Q σ) α} {questions : List Q} {e : ε}
    (here : Asks known x questions (.error e)) (f : α → Attempt ε (Logged Q σ) β) :
    Asks known (x >>= f) questions (.error e) := by
  intro l holds
  obtain ⟨s, run, after⟩ := here holds
  exact ⟨s, Attempt.bind_error run f, after⟩

end Asks

end Logged

end PackedRecords
