import PackedRecords.Proofs.Catalog.Steady
import PackedRecords.Proofs.Column.Cells
import PackedRecords.Proofs.Logged
import PackedRecords.Writer.Commit

/-!
The columns that a batch has to submit, over catalogs that answer by functions of the
names.

Proved here:

* `columnOf_of_passed`, `columnOf_of_taken`, `columnOf_of_refused`: the three ways an
  attribute can go, of which it goes one (`passed_or_taken_or_refused`);
* `columnsOf_of_accepted`, `columnsOf_of_refused`: attributes in turn, by induction on
  them.
-/

namespace PackedRecords.Writer

/-! ## One attribute -/

section Verdicts

variable (answers : Catalog.Answers) (entity attr : String) (cells : List Cell)

/-- Nothing is submitted of the attribute: it is null in every row, or the identity. -/
inductive Passed : Prop where
  | null (invalid : ∀ cell ∈ cells, cell.valid? = none)
  | identity {i : Nat} {d : Datum} (first : FirstValid (fun _ => True) cells i d)
      (identity : answers.identity entity attr = .ok true)

/-- The column is submitted for the attribute. -/
structure Taken (c : Column) : Prop where
  valid : ∃ i d, FirstValid (fun _ => True) cells i d
  identity : answers.identity entity attr = .ok false
  kind : answers.kind entity attr = .ok c.kind
  holds : c.Holds cells

/-- The fault keeps the attribute, and all others with it, from being submitted. -/
inductive Refused : BatchFault → Prop where
  | identity {i : Nat} {d : Datum} {e : CatalogFault}
      (first : FirstValid (fun _ => True) cells i d)
      (identity : answers.identity entity attr = .error e) : Refused (.catalog e)
  | kind {i : Nat} {d : Datum} {e : CatalogFault} (first : FirstValid (fun _ => True) cells i d)
      (identity : answers.identity entity attr = .ok false)
      (kind : answers.kind entity attr = .error e) : Refused (.catalog e)
  | mismatch {i : Nat} {d : Datum} {k : Kind} (first : FirstValid (fun _ => True) cells i d)
      (identity : answers.identity entity attr = .ok false)
      (kind : answers.kind entity attr = .ok k) (other : k ≠ d.kind) :
      Refused (.kindMismatch attr k d.kind)
  | mixed {i j : Nat} {d e : Datum} {k : Kind} (first : FirstValid (fun _ => True) cells i d)
      (identity : answers.identity entity attr = .ok false)
      (kind : answers.kind entity attr = .ok k) (same : k = d.kind)
      (misfit : FirstValid (·.kind ≠ k) cells j e) : Refused (.mixedKinds attr k e.kind j)

/-- What the catalog is asked about the attribute. -/
def questions : List Question :=
  if cells.all fun cell => cell.valid?.isNone then []
  else match answers.identity entity attr with
    | .ok false => [.isIdentity entity attr, .kindOf entity attr]
    | _ => [.isIdentity entity attr]

end Verdicts

variable {C : Type} {known : C → Prop} {answers : Catalog.Answers} {entity attr : String}
  {cells : List Cell} {c c' : Column} {e : BatchFault}

theorem questions_of_null (invalid : ∀ cell ∈ cells, cell.valid? = none) :
    questions answers entity attr cells = [] := by
  rw [questions, if_pos]
  simpa using invalid

theorem questions_of_first {i : Nat} {d : Datum} (first : FirstValid (fun _ => True) cells i d) :
    questions answers entity attr cells = match answers.identity entity attr with
      | .ok false => [.isIdentity entity attr, .kindOf entity attr]
      | _ => [.isIdentity entity attr] := by
  rw [questions, if_neg]
  intro null
  exact first.not_null (by simpa using null)

theorem passed_or_taken_or_refused (answers : Catalog.Answers) (entity attr : String)
    (cells : List Cell) :
    Passed answers entity attr cells ∨ (∃ c, Taken answers entity attr cells c) ∨
      ∃ e, Refused answers entity attr cells e := by
  rcases FirstValid.exists_or_null cells with ⟨i, d, first⟩ | null
  · cases identity : answers.identity entity attr with
    | error e => exact .inr (.inr ⟨_, .identity first identity⟩)
    | ok is =>
      cases is with
      | true => exact .inl (.identity first identity)
      | false =>
        cases kind : answers.kind entity attr with
        | error e => exact .inr (.inr ⟨_, .kind first identity kind⟩)
        | ok k =>
          by_cases same : k = d.kind
          · rcases FirstValid.exists_or_none (·.kind ≠ k) cells with ⟨j, e, misfit⟩ | fits
            · exact .inr (.inr ⟨_, .mixed first identity kind same misfit⟩)
            · obtain ⟨c, -, rfl, holds⟩ := Column.ofCells_of_fits attr fun cell mem d valid =>
                Classical.not_not.mp (fits cell mem d valid)
              exact .inr (.inl ⟨c, ⟨i, d, first⟩, identity, kind, holds⟩)
          · exact .inr (.inr ⟨_, .mismatch first identity kind same⟩)
  · exact .inl (.null null)

theorem Taken.unique (h : Taken answers entity attr cells c)
    (h' : Taken answers entity attr cells c') : c = c' :=
  h.holds.unique h'.holds (Except.ok.inj (h.kind.symm.trans h'.kind))

theorem Taken.not_passed (h : Taken answers entity attr cells c) :
    ¬Passed answers entity attr cells := by
  rintro (invalid | ⟨first, identity⟩)
  · obtain ⟨i, d, first⟩ := h.valid
    exact first.not_null invalid
  · rw [h.identity] at identity
    cases identity

/-- Cells of the declared kind give no cause for a refusal. -/
theorem not_refused_of_fits {k : Kind} (identity : answers.identity entity attr = .ok false)
    (kind : answers.kind entity attr = .ok k) (fits : ∀ cell ∈ cells, cell.Fits k) :
    ¬Refused answers entity attr cells e := by
  have same : ∀ {p i d}, FirstValid p cells i d → d.kind = k := fun first =>
    fits _ first.mem _ first.valid?_eq
  rintro (⟨-, other⟩ | ⟨-, -, other⟩ | ⟨first, -, kind', other⟩ | ⟨-, -, kind', -, misfit⟩)
  · cases identity.symm.trans other
  · cases kind.symm.trans other
  · cases kind.symm.trans kind'
    exact other (same first).symm
  · cases kind.symm.trans kind'
    exact misfit.holds (same misfit)

theorem Taken.not_refused (h : Taken answers entity attr cells c) :
    ¬Refused answers entity attr cells e :=
  not_refused_of_fits h.identity h.kind h.holds.fits

section

variable [Catalog C] (answering : Catalog.Answering C known answers entity attr)

include answering

theorem asks_isIdentity :
    Logged.Asks known
      ((Catalog.isIdentity entity attr : Attempt _ (Logged Question C) _).mapError
        BatchFault.catalog)
      [.isIdentity entity attr] ((answers.identity entity attr).mapError .catalog) :=
  (Logged.Asks.ask answering.isIdentity _).mapError _

theorem asks_kindOf :
    Logged.Asks known
      ((Catalog.kindOf entity attr : Attempt _ (Logged Question C) _).mapError
        BatchFault.catalog)
      [.kindOf entity attr] ((answers.kind entity attr).mapError .catalog) :=
  (Logged.Asks.ask answering.kindOf _).mapError _

theorem columnOf_of_passed (passed : Passed answers entity attr cells) :
    Logged.Asks known (columnOf (C := Logged Question C) entity attr cells)
      (questions answers entity attr cells) (.ok none) := by
  unfold columnOf
  cases passed with
  | null invalid =>
    rw [questions_of_null invalid, Column.firstKind_eq_none_iff.mpr invalid]
    exact .ofExcept (.ok none)
  | identity first identity =>
    have asked := asks_isIdentity answering
    rw [identity] at asked
    rw [questions_of_first first, identity, Column.firstKind_of_first first]
    exact asked.bind (.ofExcept (.ok none)) rfl

/-- Once the attribute is known not to be the identity and its kind is declared, the rest is
up to the cells. -/
theorem columnOf_of_declared {i : Nat} {d : Datum} {k : Kind} {result : Except _ (Option Column)}
    (first : FirstValid (fun _ => True) cells i d)
    (identity : answers.identity entity attr = .ok false)
    (kind : answers.kind entity attr = .ok k)
    (built : (if k = d.kind then (Column.ofCells attr k cells).map some
      else .error (.kindMismatch attr k d.kind)) = result) :
    Logged.Asks known (columnOf (C := Logged Question C) entity attr cells)
      (questions answers entity attr cells) result := by
  have asked := asks_isIdentity answering
  have asked' := asks_kindOf answering
  rw [identity] at asked
  rw [kind] at asked'
  unfold columnOf
  rw [questions_of_first first, identity, Column.firstKind_of_first first, ← built]
  refine asked.bind (asked'.bind ?_ rfl) rfl
  split
  · cases Column.ofCells attr k cells with
    | ok c => exact .ofExcept (.ok (some c))
    | error e => exact .ofExcept (.error e)
  · exact .ofExcept (.error _)

theorem columnOf_of_taken (taken : Taken answers entity attr cells c) :
    Logged.Asks known (columnOf (C := Logged Question C) entity attr cells)
      (questions answers entity attr cells) (.ok (some c)) := by
  obtain ⟨i, d, first⟩ := taken.valid
  obtain ⟨built, run, kind, holds⟩ := Column.ofCells_of_fits attr taken.holds.fits
  obtain rfl : built = c := holds.unique taken.holds kind
  refine columnOf_of_declared answering first taken.identity taken.kind ?_
  rw [if_pos (holds.fits _ first.mem d first.valid?_eq).symm, run]
  rfl

theorem columnOf_of_refused (refused : Refused answers entity attr cells e) :
    Logged.Asks known (columnOf (C := Logged Question C) entity attr cells)
      (questions answers entity attr cells) (.error e) := by
  have asked := asks_isIdentity answering
  cases refused with
  | identity first identity =>
    unfold columnOf
    rw [identity] at asked
    rw [questions_of_first first, identity, Column.firstKind_of_first first]
    exact asked.bind_error _
  | kind first identity kind =>
    have asked' := asks_kindOf answering
    unfold columnOf
    rw [identity] at asked
    rw [kind] at asked'
    rw [questions_of_first first, identity, Column.firstKind_of_first first]
    exact asked.bind (asked'.bind_error _) rfl
  | mismatch first identity kind other =>
    exact columnOf_of_declared answering first identity kind (if_neg other)
  | mixed first identity kind same misfit =>
    refine columnOf_of_declared answering first identity kind ?_
    rw [if_pos same, Column.ofCells_of_misfit attr misfit]
    rfl

end

/-! ## Attributes in turn -/

section

variable [Catalog C] {cellsOf : String → List Cell} {attrs before after : List String}

/-- If no attribute is refused, the columns are those taken. -/
theorem columnsOf_of_accepted
    (answering : ∀ attr ∈ attrs, Catalog.Answering C known answers entity attr)
    (accepted : ∀ attr ∈ attrs, ∀ e, ¬Refused answers entity attr (cellsOf attr) e) :
    ∃ columns, Logged.Asks known
        (columnsOf (C := Logged Question C) entity (attrs.map fun attr => (attr, cellsOf attr)))
        (attrs.flatMap fun attr => questions answers entity attr (cellsOf attr)) (.ok columns) ∧
      ∀ attr c, columns.get? attr = some c ↔
        attr ∈ attrs ∧ Taken answers entity attr (cellsOf attr) c := by
  induction attrs with
  | nil => exact ⟨.empty, .ofExcept (.ok NameMap.empty), by simp [NameMap.get?_empty]⟩
  | cons name attrs ih =>
    rw [List.flatMap_cons, List.map_cons]
    obtain ⟨known, knowns⟩ := List.forall_mem_cons.mp answering
    obtain ⟨here, rest⟩ := List.forall_mem_cons.mp accepted
    obtain ⟨columns, run, each⟩ := ih knowns rest
    rcases passed_or_taken_or_refused answers entity name (cellsOf name) with
      passed | ⟨column, taken⟩ | ⟨e, refused⟩
    case inr.inr => exact absurd refused (here e)
    case inl =>
      refine ⟨columns, ?_, ?_⟩
      · refine (columnOf_of_passed known passed).bind ?_ rfl
        exact run.bind (.ofExcept (.ok columns)) (List.append_nil _)
      · intro attr c
        rw [each, List.mem_cons]
        constructor
        · exact fun ⟨mem, taken⟩ => ⟨.inr mem, taken⟩
        · rintro ⟨rfl | mem, taken⟩
          · exact absurd passed taken.not_passed
          · exact ⟨mem, taken⟩
    case inr.inl =>
      refine ⟨columns.insert name column, ?_, ?_⟩
      · refine (columnOf_of_taken known taken).bind ?_ rfl
        exact run.bind (.ofExcept (.ok (columns.insert name column))) (List.append_nil _)
      · intro attr c
        rw [NameMap.get?_insert, List.mem_cons]
        by_cases same : attr = name
        · -- A later column of the same name would show the same cells.
          subst same
          simp only [if_true, Option.some.injEq, true_or, true_and]
          constructor
          · rintro rfl
            exact taken
          · exact taken.unique
        · simp only [same, false_or]
          exact each attr c

/-- The first attribute that is refused is the last that is looked at. -/
theorem columnsOf_of_refused (steady : Catalog.Steady C known answers)
    (accepted : ∀ attr ∈ before, ∀ e, ¬Refused answers entity attr (cellsOf attr) e)
    (refused : Refused answers entity attr (cellsOf attr) e) :
    Logged.Asks known
      (columnsOf (C := Logged Question C) entity
        ((before ++ attr :: after).map fun attr => (attr, cellsOf attr)))
      ((before ++ [attr]).flatMap fun attr => questions answers entity attr (cellsOf attr))
      (.error e) := by
  induction before with
  | nil =>
    rw [List.nil_append, List.nil_append, List.flatMap_cons, List.flatMap_nil, List.append_nil]
    exact (columnOf_of_refused (steady.answering entity attr) refused).bind_error _
  | cons name before ih =>
    rw [List.cons_append, List.cons_append, List.flatMap_cons]
    obtain ⟨here, rest⟩ := List.forall_mem_cons.mp accepted
    rcases passed_or_taken_or_refused answers entity name (cellsOf name) with
      passed | ⟨column, taken⟩ | ⟨e, refused⟩
    · exact (columnOf_of_passed (steady.answering entity name) passed).bind ((ih rest).bind_error _) rfl
    · exact (columnOf_of_taken (steady.answering entity name) taken).bind ((ih rest).bind_error _) rfl
    · exact absurd refused (here e)

end

end PackedRecords.Writer
