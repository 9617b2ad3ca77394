import PackedRecords.Proofs.Simulation

/-!
Steps one after the other. In a succession a step that fails is answered like any other and
the next one goes on from the state it left; a repetition ends with its first failure.

Proved here, for every list of steps:

* `inTurn_append`, `inTurn_step`: a succession cut in two, and one step of it;
* `Simulates.inTurn`: successions of steps that keep states related, by induction on the steps;
* `times_of_inTurn`, `times_of_failing`: what a repetition gives, against the same step in
  succession, by induction on the count.
-/

namespace PackedRecords.Attempt

variable {ε σ τ α β γ : Type}

/-- The answers to steps in turn, failures among them, and the state they leave. -/
def inTurn : List (Attempt ε σ α) → σ → List (Except ε α) × σ
  | [], s => ([], s)
  | x :: xs, s => ((x s).1 :: (inTurn xs (x s).2).1, (inTurn xs (x s).2).2)

theorem inTurn_append (xs ys : List (Attempt ε σ α)) (s : σ) :
    inTurn (xs ++ ys) s =
      ((inTurn xs s).1 ++ (inTurn ys (inTurn xs s).2).1, (inTurn ys (inTurn xs s).2).2) := by
  induction xs generalizing s with
  | nil => rfl
  | cons x xs ih => simp [inTurn, ih]

@[simp] theorem length_inTurn (xs : List (Attempt ε σ α)) (s : σ) :
    (inTurn xs s).1.length = xs.length := by
  induction xs generalizing s with
  | nil => rfl
  | cons x xs ih => simp [inTurn, ih]

/-- A step is answered in the state that the steps before it left. -/
theorem inTurn_step {xs : List (Attempt ε σ α)} {x : Attempt ε σ α} {i : Nat}
    (there : xs[i]? = some x) (s : σ) :
    (inTurn xs s).1[i]? = some (x (inTurn (xs.take i) s).2).1 ∧
      (inTurn (xs.take (i + 1)) s).2 = (x (inTurn (xs.take i) s).2).2 := by
  induction xs generalizing i s with
  | nil => cases there
  | cons y xs ih =>
    cases i with
    | zero =>
      cases there
      exact ⟨rfl, rfl⟩
    | succ i => exact ih there (y s).2

/-- Step by step, related states are answered alike and stay related. -/
theorem Simulates.inTurn {R : σ → τ → Prop} {x : γ → Attempt ε σ α} {y : γ → Attempt ε τ α}
    (each : ∀ call, Simulates R (x call) (y call)) (calls : List γ) {s : σ} {t : τ}
    (related : R s t) :
    (Attempt.inTurn (calls.map x) s).1 = (Attempt.inTurn (calls.map y) t).1 ∧
      R (Attempt.inTurn (calls.map x) s).2 (Attempt.inTurn (calls.map y) t).2 := by
  induction calls generalizing s t with
  | nil => exact ⟨rfl, related⟩
  | cons call calls ih =>
    obtain ⟨same, after⟩ := each call related
    obtain ⟨rest, last⟩ := ih after
    exact ⟨by simp [Attempt.inTurn, same, rest], last⟩

/-! ## Results under a function -/

section

variable {x : Attempt ε σ α} {f : α → β} {s t : σ}

theorem map_eq_ok_iff {b : β} : (f <$> x) s = (.ok b, t) ↔ ∃ a, x s = (.ok a, t) ∧ f a = b := by
  rw [← bind_pure_comp, bind_apply]
  rcases x s with ⟨_ | a, u⟩
  · simp
  · simp only [pure_apply, Prod.mk.injEq, Except.ok.injEq, and_assoc, exists_eq_left']
    exact and_comm

theorem map_eq_error_iff {e : ε} : (f <$> x) s = (.error e, t) ↔ x s = (.error e, t) := by
  rw [← bind_pure_comp, bind_apply]
  rcases x s with ⟨_ | a, u⟩ <;> simp [pure_apply]

end

/-! ## Repetition -/

theorem times_map (x : Attempt ε σ α) (f : α → β) (n : Nat) :
    times n (f <$> x) = List.map f <$> times n x := by
  induction n with
  | zero => rfl
  | succ n ih => simp [times, ih]

variable {x : Attempt ε σ α} {s t u : σ} {n i : Nat} {as : List α} {e : ε}

theorem inTurn_cons_ok (run : inTurn (x :: List.replicate n x) s = (as.map .ok, t)) :
    ∃ a rest r, as = a :: rest ∧ x s = (.ok a, r) ∧
      inTurn (List.replicate n x) r = (rest.map .ok, t) := by
  obtain ⟨answers, last⟩ := Prod.mk.inj run
  cases as with
  | nil => cases answers
  | cons a rest =>
    obtain ⟨first, others⟩ := List.cons.inj answers
    exact ⟨a, rest, (x s).2, rfl, Prod.ext first rfl, Prod.ext others last⟩

theorem times_of_inTurn (run : inTurn (List.replicate n x) s = (as.map .ok, t)) :
    times n x s = (.ok as, t) := by
  induction n generalizing s as with
  | zero =>
    obtain ⟨answers, rfl⟩ := Prod.mk.inj run
    obtain rfl : as = [] := by simpa [inTurn] using answers.symm
    rfl
  | succ n ih =>
    obtain ⟨a, rest, r, rfl, first, others⟩ := inTurn_cons_ok run
    rw [times, bind_ok first, bind_ok (ih others)]
    rfl

/-- A repetition ends with the first step to fail. -/
theorem times_of_failing (within : i < n)
    (before : inTurn (List.replicate i x) s = (as.map .ok, t)) (failing : x t = (.error e, u)) :
    times n x s = (.error e, u) := by
  induction i generalizing n s as with
  | zero =>
    obtain ⟨m, rfl⟩ := Nat.exists_eq_succ_of_ne_zero (Nat.ne_of_gt within)
    obtain ⟨-, rfl⟩ := Prod.mk.inj before
    rw [times, bind_error failing]
  | succ i ih =>
    obtain ⟨m, rfl⟩ := Nat.exists_eq_succ_of_ne_zero (Nat.ne_of_gt (Nat.zero_lt_of_lt within))
    obtain ⟨a, rest, r, rfl, first, others⟩ := inTurn_cons_ok before
    rw [times, bind_ok first, bind_error (ih (Nat.lt_of_succ_lt_succ within) others)]

end PackedRecords.Attempt
