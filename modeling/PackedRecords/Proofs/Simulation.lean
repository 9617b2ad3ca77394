import PackedRecords.Attempt

/-!
Steps compared with other steps, with a plain result, or with what they may give. Whatever
is built from steps that keep their states related keeps them related too, so a relation on
states is carried through a program once for all programs of its shape.
-/

namespace PackedRecords.Attempt

variable {ε δ σ σ' τ τ' α β : Type} {R : σ → τ → Prop} {R' : σ' → τ' → Prop}

/-- Steps that go on alike from whatever the first gives. -/
theorem bind_congr {x : Attempt ε σ α} {f g : α → Attempt ε σ β}
    (same : ∀ s a t, x s = (.ok a, t) → f a t = g a t) : x >>= f = x >>= g := by
  funext s
  cases run : x s with
  | mk result t =>
    cases result with
    | ok a => rw [bind_ok run, bind_ok run, same s a t run]
    | error e => rw [bind_error run, bind_error run]

/-! ## Two steps side by side -/

/-- From related states the steps have the same outcome, and end in related states. -/
def Simulates (R : σ → τ → Prop) (x : Attempt ε σ α) (y : Attempt ε τ α) : Prop :=
  ∀ ⦃s t⦄, R s t → (x s).1 = (y t).1 ∧ R (x s).2 (y t).2

/-- Pairs of states, related part by part. -/
def Both (R : σ → τ → Prop) (R' : σ' → τ' → Prop) (s : σ × σ') (t : τ × τ') : Prop :=
  R s.1 t.1 ∧ R' s.2 t.2

namespace Simulates

/-- Related states are left by both steps with one value, or by both with one error. -/
theorem cases {x : Attempt ε σ α} {y : Attempt ε τ α} (h : Simulates R x y) {s : σ} {t : τ}
    (related : R s t) :
    (∃ a s' t', x s = (.ok a, s') ∧ y t = (.ok a, t') ∧ R s' t') ∨
      ∃ e s' t', x s = (.error e, s') ∧ y t = (.error e, t') ∧ R s' t' := by
  obtain ⟨same, after⟩ := h related
  cases left : x s with
  | mk result s' =>
    cases right : y t with
    | mk result' t' =>
      rw [left, right] at same after
      cases same
      cases result with
      | ok a => exact .inl ⟨a, s', t', rfl, rfl, after⟩
      | error e => exact .inr ⟨e, s', t', rfl, rfl, after⟩

theorem pure (a : α) : Simulates R (Pure.pure a : Attempt ε σ α) (Pure.pure a) :=
  fun _ _ related => ⟨rfl, related⟩

theorem fail (e : ε) : Simulates R (Attempt.fail e : Attempt ε σ α) (Attempt.fail e) :=
  fun _ _ related => ⟨rfl, related⟩

theorem ofExcept (x : Except ε α) :
    Simulates R (Attempt.ofExcept x : Attempt ε σ α) (Attempt.ofExcept x) := by
  cases x with
  | ok a => exact pure a
  | error e => exact fail e

theorem bind {x : Attempt ε σ α} {y : Attempt ε τ α} {f : α → Attempt ε σ β}
    {g : α → Attempt ε τ β} (first : Simulates R x y) (rest : ∀ a, Simulates R (f a) (g a)) :
    Simulates R (x >>= f) (y >>= g) := by
  intro s t related
  rcases first.cases related with ⟨a, s', t', left, right, after⟩ | ⟨e, s', t', left, right, after⟩
  · rw [bind_ok left, bind_ok right]
    exact rest a after
  · rw [bind_error left, bind_error right]
    exact ⟨rfl, after⟩

theorem mapError {x : Attempt ε σ α} {y : Attempt ε τ α} (h : Simulates R x y) (f : ε → δ) :
    Simulates R (x.mapError f) (y.mapError f) := by
  intro s t related
  rcases h.cases related with ⟨a, s', t', left, right, after⟩ | ⟨e, s', t', left, right, after⟩
  · rw [mapError_ok left, mapError_ok right]
    exact ⟨rfl, after⟩
  · rw [mapError_error left, mapError_error right]
    exact ⟨rfl, after⟩

/-- A step may also follow one whose errors have other names. -/
theorem bind_mapError {x : Attempt ε σ α} {y : Attempt δ τ α} {f : α → Attempt ε σ β}
    {g : α → Attempt δ τ β} {h : δ → ε} (first : Simulates R x (y.mapError h))
    (rest : ∀ a, Simulates R (f a) ((g a).mapError h)) :
    Simulates R (x >>= f) ((y >>= g).mapError h) := by
  have distributes : (y >>= g).mapError h = y.mapError h >>= fun a => (g a).mapError h := by
    funext t
    cases run : y t with
    | mk result t' =>
      cases result with
      | ok a => rw [Attempt.bind_ok (mapError_ok run h), Attempt.mapError, bind_ok run]; rfl
      | error e => rw [bind_error (mapError_error run h), Attempt.mapError, bind_error run]
  rw [distributes]
  exact first.bind rest

theorem onFirst {x : Attempt ε σ α} {y : Attempt ε τ α} (h : Simulates R x y) :
    Simulates (Both R R') (Attempt.onFirst x) (Attempt.onFirst y) := by
  rintro ⟨s, s'⟩ ⟨t, t'⟩ ⟨related, other⟩
  obtain ⟨same, after⟩ := h related
  exact ⟨same, after, other⟩

theorem onSecond {x : Attempt ε σ' α} {y : Attempt ε τ' α} (h : Simulates R' x y) :
    Simulates (Both R R') (Attempt.onSecond x) (Attempt.onSecond y) := by
  rintro ⟨s, s'⟩ ⟨t, t'⟩ ⟨other, related⟩
  obtain ⟨same, after⟩ := h related
  exact ⟨same, other, after⟩

end Simulates

/-! ## Steps that answer the same in every state -/

/-- From a state that `known` holds of, a step has this result, and ends in such a state. -/
def Gives (known : σ → Prop) (x : Attempt ε σ α) (result : Except ε α) : Prop :=
  ∀ ⦃s⦄, known s → ∃ t, x s = (result, t) ∧ known t

namespace Gives

variable {known : σ → Prop}

theorem ofExcept (result : Except ε α) : Gives known (Attempt.ofExcept result) result := by
  intro s holds
  cases result with
  | ok a => exact ⟨s, rfl, holds⟩
  | error e => exact ⟨s, rfl, holds⟩

theorem bind {x : Attempt ε σ α} {f : α → Attempt ε σ β} {result : Except ε α}
    {next : α → Except ε β} (first : Gives known x result)
    (rest : ∀ a, Gives known (f a) (next a)) : Gives known (x >>= f) (result >>= next) := by
  intro s holds
  obtain ⟨t, run, after⟩ := first holds
  cases result with
  | error e => exact ⟨t, bind_error run f, after⟩
  | ok a =>
    rw [bind_ok run]
    exact rest a after

end Gives

/-! ## Steps that keep an invariant -/

def Keeps (known : σ → Prop) (x : Attempt ε σ α) : Prop := ∀ ⦃s⦄, known s → known (x s).2

namespace Keeps

variable {known : σ → Prop}

theorem pure (a : α) : Keeps known (Pure.pure a : Attempt ε σ α) := fun _ holds => holds

theorem fail (e : ε) : Keeps known (Attempt.fail e : Attempt ε σ α) := fun _ holds => holds

theorem bind {x : Attempt ε σ α} {f : α → Attempt ε σ β} (first : Keeps known x)
    (rest : ∀ a, Keeps known (f a)) : Keeps known (x >>= f) := by
  intro s holds
  have after := first holds
  cases run : x s with
  | mk result t =>
    rw [run] at after
    cases result with
    | ok a =>
      rw [bind_ok run]
      exact rest a after
    | error e =>
      rw [bind_error run]
      exact after

theorem mapError {x : Attempt ε σ α} (h : Keeps known x) (f : ε → δ) :
    Keeps known (x.mapError f) := by
  intro s holds
  have after := h holds
  cases run : x s with
  | mk result t =>
    rw [run] at after
    cases result with
    | ok a =>
      rw [mapError_ok run]
      exact after
    | error e =>
      rw [mapError_error run]
      exact after

theorem onFirst (x : Attempt ε τ α) :
    Keeps (fun s : τ × σ => known s.2) (Attempt.onFirst x) :=
  fun _ holds => holds

theorem onSecond {x : Attempt ε σ α} (h : Keeps known x) :
    Keeps (fun s : τ × σ => known s.2) (Attempt.onSecond x) :=
  fun _ holds => h holds

end Keeps

/-! ## What steps can give -/

/-- Whatever the step gives, `p` holds of it. -/
def Yields (p : α → Prop) (x : Attempt ε σ α) : Prop := ∀ ⦃s a t⦄, x s = (.ok a, t) → p a

namespace Yields

variable {p : α → Prop} {q : β → Prop}

theorem any (x : Attempt ε σ α) : Yields (fun _ => True) x := fun _ _ _ _ => trivial

theorem pure {a : α} (holds : p a) : Yields p (Pure.pure a : Attempt ε σ α) := by
  rintro s _ _ ⟨⟩
  exact holds

theorem fail (e : ε) : Yields p (Attempt.fail e : Attempt ε σ α) := by
  rintro s _ _ ⟨⟩

theorem bind {x : Attempt ε σ α} {f : α → Attempt ε σ β} (first : Yields p x)
    (rest : ∀ a, p a → Yields q (f a)) : Yields q (x >>= f) := by
  intro s b u run
  cases here : x s with
  | mk result t =>
    cases result with
    | ok a =>
      rw [bind_ok here] at run
      exact rest a (first here) run
    | error e =>
      rw [bind_error here] at run
      cases run

end Yields

/-- Whatever the step gives, `p` holds of it. Whatever it fails with, `q` holds of that. -/
def Ends (p : α → Prop) (q : ε → Prop) (x : Attempt ε σ α) : Prop :=
  ∀ s, match (x s).1 with
    | .ok a => p a
    | .error e => q e

namespace Ends

variable {p : α → Prop} {p' : β → Prop} {q : ε → Prop}

theorem pure {a : α} (holds : p a) : Ends p q (Pure.pure a : Attempt ε σ α) := fun _ => holds

theorem fail {e : ε} (holds : q e) : Ends p q (Attempt.fail e : Attempt ε σ α) := fun _ => holds

theorem bind {x : Attempt ε σ α} {f : α → Attempt ε σ β} (first : Ends p q x)
    (rest : ∀ a, p a → Ends p' q (f a)) : Ends p' q (x >>= f) := by
  intro s
  have ends := first s
  cases here : x s with
  | mk result t =>
    rw [here] at ends
    cases result with
    | ok a =>
      rw [bind_ok here]
      exact rest a ends t
    | error e =>
      rw [bind_error here]
      exact ends

/-- A step of which nothing is known. -/
theorem unknown (x : Attempt ε σ α) : Ends (fun _ => True) (fun _ => True) x := by
  intro s
  split <;> trivial

/-- A step of which nothing is known, with its errors under other names. -/
theorem mapError (x : Attempt δ σ α) {f : δ → ε} (holds : ∀ e, q (f e)) :
    Ends (fun _ => True) q (x.mapError f) := by
  intro s
  cases here : x s with
  | mk result t =>
    cases result with
    | ok a =>
      rw [mapError_ok here]
      trivial
    | error e =>
      rw [mapError_error here]
      exact holds e

end Ends

end PackedRecords.Attempt
