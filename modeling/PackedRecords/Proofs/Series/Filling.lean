import Mathlib.Data.List.Induction
import PackedRecords.Proofs.Succession
import PackedRecords.Series

/-!
Series as they are filled. A value of another kind is handed back, and what is added next comes
where that value would have been.

Proved here, for every kind and every run of additions:

* `perform_push_of_kind`, `perform_push_of_other`: one value, taken or handed back;
* `Shows.perform`, `shows_fill`: the answers say what the series holds, from one addition to
  the next and then by induction on the additions;
* on top of them, that a series keeps to its kind, and has all that it took and nothing else.
-/

namespace PackedRecords.Series

variable {k : Kind} {s : Series} {v : Value} {i : Nat}

/-! ## Additions -/

/-- What can be added to a series. -/
inductive Addition where
  | push (v : Value)
  | pad
deriving DecidableEq

/-- Makes the addition in place. With a value that is handed back, the series stays as it is. -/
def Addition.perform : Addition → Attempt Value Series Unit
  | .push v => fun s =>
    match s.push v with
    | .ok t => (.ok (), t)
    | .error w => (.error w, s)
  | .pad => fun s => (.ok (), s.pad)

theorem perform_push_of_kind (same : v.kind = s.kind) :
    ∃ t, (Addition.push v).perform s = (.ok (), t) ∧
      t.kind = s.kind ∧ t.toList = s.toList ++ [v] := by
  cases push : s.push v with
  | error w => exact absurd same (push_eq_error_iff.mp push).1
  | ok t => exact ⟨t, by simp only [Addition.perform, push], toList_push push⟩

theorem perform_push_of_other (other : v.kind ≠ s.kind) :
    (Addition.push v).perform s = (.error v, s) := by
  simp only [Addition.perform, push_eq_error_iff.mpr ⟨other, rfl⟩]

/-- Additions with the answers to them, oldest first. -/
abbrev Transcript := List (Addition × Except Value Unit)

namespace Transcript

/-- What the additions put into a series of kind `k`: the values that were taken, and fillers. -/
def entries (k : Kind) (past : Transcript) : List Value :=
  past.filterMap fun
    | (.push v, .ok ()) => some v
    | (.push _, .error _) => none
    | (.pad, _) => some ⟨k, k.filler⟩

/-- The number of values that were taken. -/
def taken (past : Transcript) : Nat :=
  past.countP fun (addition, answer) => addition ≠ .pad ∧ answer.isOk

/-- The number of fillers. -/
def padded (past : Transcript) : Nat := past.countP fun (addition, _) => addition = .pad

theorem length_entries (k : Kind) (past : Transcript) :
    (past.entries k).length = past.taken + past.padded := by
  induction past with
  | nil => rfl
  | cons entry past ih =>
    -- Only a value that was handed back is counted by neither number.
    obtain ⟨_ | _, _ | _⟩ := entry <;>
      simp_all [entries, taken, padded, Except.isOk, Except.toBool] <;> omega

end Transcript

/-! ## Runs of additions -/

/-- The answers to additions to an empty series of kind `k`, and what they make of it. -/
def fill (k : Kind) (additions : List Addition) : List (Except Value Unit) × Series :=
  Attempt.inTurn (additions.map Addition.perform) (empty k)

def transcript (k : Kind) (additions : List Addition) : Transcript :=
  additions.zip (fill k additions).1

theorem fill_concat (k : Kind) (additions : List Addition) (addition : Addition) :
    fill k (additions ++ [addition]) =
      ((fill k additions).1 ++ [(addition.perform (fill k additions).2).1],
        (addition.perform (fill k additions).2).2) := by
  simp [fill, Attempt.inTurn_append, Attempt.inTurn]

theorem transcript_concat (k : Kind) (additions : List Addition) (addition : Addition) :
    transcript k (additions ++ [addition]) =
      transcript k additions ++ [(addition, (addition.perform (fill k additions).2).1)] := by
  have sizes : additions.length = (fill k additions).1.length := by simp [fill]
  rw [transcript, fill_concat, List.zip_append sizes]
  rfl

theorem fill_step {additions : List Addition} {addition : Addition}
    (there : additions[i]? = some addition) (k : Kind) :
    (fill k additions).1[i]? = some (addition.perform (fill k (additions.take i)).2).1 ∧
      (fill k (additions.take (i + 1))).2 = (addition.perform (fill k (additions.take i)).2).2 := by
  simp only [fill, List.map_take]
  exact Attempt.inTurn_step (by rw [List.getElem?_map, there]; rfl) (empty k)

/-- A series of kind `k` that holds what the transcript says. -/
structure Shows (s : Series) (k : Kind) (past : Transcript) : Prop where
  kind : s.kind = k
  toList : s.toList = past.entries k

theorem Shows.perform {past : Transcript} (shows : s.Shows k past) (addition : Addition) :
    (addition.perform s).2.Shows k (past ++ [(addition, (addition.perform s).1)]) := by
  obtain ⟨rfl, list⟩ := shows
  cases addition with
  | pad => exact ⟨rfl, by simp [Addition.perform, toList_pad, list, Transcript.entries]⟩
  | push v =>
    by_cases same : v.kind = s.kind
    · obtain ⟨t, taken, kind, longer⟩ := perform_push_of_kind same
      rw [taken]
      exact ⟨kind, by simp [longer, list, Transcript.entries]⟩
    · rw [perform_push_of_other same]
      exact ⟨rfl, by simp [list, Transcript.entries]⟩

theorem shows_fill (k : Kind) (additions : List Addition) :
    (fill k additions).2.Shows k (transcript k additions) := by
  induction additions using List.reverseRecOn with
  | nil => exact ⟨rfl, toList_empty k⟩
  | append_singleton additions addition ih =>
    rw [fill_concat, transcript_concat]
    exact ih.perform addition

/-- Whatever is added to an empty series of kind `k`, it is of that kind after each addition. A
value is taken exactly if it is of kind `k`. Else that same value is handed back, and the series
stays as it is. In the end the series holds, in the order of the additions, the values that were
taken and a filler for each time that it was padded, and nothing besides. -/
theorem fill_homogeneous (k : Kind) (additions : List Addition) :
    (∀ i, (fill k (additions.take i)).2.kind = k) ∧
    (∀ i v, additions[i]? = some (.push v) →
      ((fill k additions).1[i]? = some (.ok ()) ↔ v.kind = k) ∧
      (v.kind ≠ k → (fill k additions).1[i]? = some (.error v) ∧
        (fill k (additions.take (i + 1))).2 = (fill k (additions.take i)).2)) ∧
    (fill k additions).2.toList = (transcript k additions).entries k ∧
    (fill k additions).2.size =
      (transcript k additions).taken + (transcript k additions).padded := by
  have kind (i : Nat) : (fill k (additions.take i)).2.kind = k :=
    (shows_fill k (additions.take i)).kind
  have list := (shows_fill k additions).toList
  refine ⟨kind, fun i v there => ?_, list, ?_⟩
  · obtain ⟨answer, next⟩ := fill_step there k
    rw [answer, next]
    by_cases same : v.kind = k
    · obtain ⟨t, taken, -⟩ := perform_push_of_kind (same.trans (kind i).symm)
      rw [taken]
      exact ⟨⟨fun _ => same, fun _ => rfl⟩, fun other => absurd same other⟩
    · have refused := perform_push_of_other (mt (·.trans (kind i)) same)
      rw [refused]
      exact ⟨⟨nofun, fun kind => absurd kind same⟩, fun _ => ⟨rfl, rfl⟩⟩
  · rw [← length_toList, list, Transcript.length_entries]

private def counts : List Addition :=
  [.push ⟨.scalar .int, 5⟩, .pad, .push ⟨.scalar .enum, 7⟩, .push ⟨.scalar .int, 9⟩]

/-- A code is no integer, though their payloads are of one type: it is handed back, and the
integer that follows comes right behind the filler. -/
theorem fill_of_counts :
    (fill (.scalar .int) counts).1[2]? = some (.error ⟨.scalar .enum, 7⟩) ∧
    (fill (.scalar .int) (counts.take 3)).2 = (fill (.scalar .int) (counts.take 2)).2 ∧
    (fill (.scalar .int) counts).1[3]? = some (.ok ()) ∧
    (fill (.scalar .int) counts).2.toList =
      [⟨.scalar .int, 5⟩, ⟨.scalar .int, 0⟩, ⟨.scalar .int, 9⟩] ∧
    (fill (.scalar .int) counts).2.size = 3 := by
  obtain ⟨-, pushed, list, size⟩ := fill_homogeneous (.scalar .int) counts
  obtain ⟨answer, same⟩ := (pushed 2 _ rfl).2 (by decide)
  refine ⟨answer, same, (pushed 3 _ rfl).1.mpr rfl, ?_, ?_⟩
  · rw [list]
    rfl
  · rw [size]
    rfl

end PackedRecords.Series
