/-!
Computations that may fail and that leave a state behind either way. The state
after a failure is part of the outcome, so that "a failed step changes nothing"
is something to prove and not a convention.
-/

namespace PackedRecords

/-- A step from a state to its outcome and the state after it. -/
def Attempt (ε σ α : Type) : Type := σ → Except ε α × σ

namespace Attempt

variable {ε δ σ τ α β : Type}

/-- Goes on with the value of the first step. A failure ends the run where it stands. -/
protected def bind (x : Attempt ε σ α) (f : α → Attempt ε σ β) : Attempt ε σ β := fun s =>
  match x s with
  | (.ok a, t) => f a t
  | (.error e, t) => (.error e, t)

instance : Monad (Attempt ε σ) where
  pure a := fun s => (.ok a, s)
  bind := Attempt.bind

theorem pure_apply (a : α) (s : σ) : (pure a : Attempt ε σ α) s = (.ok a, s) := rfl

theorem bind_apply (x : Attempt ε σ α) (f : α → Attempt ε σ β) (s : σ) :
    (x >>= f) s = match x s with
      | (.ok a, t) => f a t
      | (.error e, t) => (.error e, t) := rfl

theorem bind_ok {x : Attempt ε σ α} {s t : σ} {a : α} (h : x s = (.ok a, t))
    (f : α → Attempt ε σ β) : (x >>= f) s = f a t := by
  rw [bind_apply, h]

theorem bind_error {x : Attempt ε σ α} {s t : σ} {e : ε} (h : x s = (.error e, t))
    (f : α → Attempt ε σ β) : (x >>= f) s = (.error e, t) := by
  rw [bind_apply, h]

private theorem id_map_apply (x : Attempt ε σ α) : id <$> x = x := by
  funext s
  show (x >>= fun a => pure (id a)) s = x s
  rw [bind_apply]
  split <;> simp_all [pure_apply]

private theorem bind_assoc_apply {γ : Type} (x : Attempt ε σ α) (f : α → Attempt ε σ β)
    (g : β → Attempt ε σ γ) : x >>= f >>= g = x >>= fun a => f a >>= g := by
  funext s
  simp only [bind_apply]
  rcases x s with ⟨_ | _, _⟩ <;> rfl

instance : LawfulMonad (Attempt ε σ) :=
  LawfulMonad.mk' _ id_map_apply (fun _ _ => rfl) bind_assoc_apply

def fail (e : ε) : Attempt ε σ α := fun s => (.error e, s)

/-- The state itself, as it is now. -/
def state : Attempt ε σ σ := fun s => (.ok s, s)

theorem state_apply (s : σ) : (state : Attempt ε σ σ) s = (.ok s, s) := rfl

def ofExcept : Except ε α → Attempt ε σ α
  | .ok a => pure a
  | .error e => fail e

theorem ofExcept_ok (a : α) (s : σ) : (ofExcept (.ok a) : Attempt ε σ α) s = (.ok a, s) := rfl

theorem ofExcept_error (e : ε) (s : σ) :
    (ofExcept (.error e) : Attempt ε σ α) s = (.error e, s) := rfl

/-- What a step gives is looked at once more, with the state left as it is. -/
theorem bind_ofExcept (x : Attempt ε σ α) (f : α → Except ε β) (s : σ) :
    (x >>= fun a => ofExcept (f a)) s = ((x s).1 >>= f, (x s).2) := by
  rw [bind_apply]
  cases x s with
  | mk result t =>
    cases result with
    | error e => rfl
    | ok a => cases next : f a <;> simp [next, ofExcept, pure_apply, fail, bind, Except.bind]

def mapError (f : ε → δ) (x : Attempt ε σ α) : Attempt δ σ α := fun s =>
  match x s with
  | (.ok a, t) => (.ok a, t)
  | (.error e, t) => (.error (f e), t)

theorem mapError_ok {x : Attempt ε σ α} {s t : σ} {a : α} (h : x s = (.ok a, t)) (f : ε → δ) :
    mapError f x s = (.ok a, t) := by
  rw [mapError, h]

theorem mapError_error {x : Attempt ε σ α} {s t : σ} {e : ε} (h : x s = (.error e, t))
    (f : ε → δ) : mapError f x s = (.error (f e), t) := by
  rw [mapError, h]

/-- Runs a step on the first of two states. -/
def onFirst (x : Attempt ε σ α) : Attempt ε (σ × τ) α := fun s =>
  ((x s.1).1, ((x s.1).2, s.2))

/-- Runs a step on the second of two states. -/
def onSecond (x : Attempt ε τ α) : Attempt ε (σ × τ) α := fun s =>
  ((x s.2).1, (s.1, (x s.2).2))

theorem onFirst_eq {x : Attempt ε σ α} {s s' : σ} {result : Except ε α}
    (h : x s = (result, s')) (t : τ) : onFirst x (s, t) = (result, s', t) := by
  rw [onFirst, h]

theorem onSecond_eq {x : Attempt ε τ α} {t t' : τ} {result : Except ε α}
    (h : x t = (result, t')) (s : σ) : onSecond x (s, t) = (result, s, t') := by
  rw [onSecond, h]

/-- Repeats a step and collects its values, oldest first. -/
def times : Nat → Attempt ε σ α → Attempt ε σ (List α)
  | 0, _ => pure []
  | n + 1, x => do
    let a ← x
    let as ← times n x
    pure (a :: as)

end Attempt

end PackedRecords
