/-!
Maps from names, kept as entries in ascending order of the names. Names compare by
code points, which is the order of their UTF-8 bytes. The order makes the entries
canonical: maps that agree on every name are equal.
-/

namespace PackedRecords

structure NameMap (α : Type) where
  entries : List (String × α)
  sorted : entries.Pairwise (·.1 < ·.1)

namespace NameMap

variable {α : Type}

def empty : NameMap α := ⟨[], .nil⟩

/-- Puts an entry where the order wants it, in place of any entry of that name. -/
def place (name : String) (x : α) : List (String × α) → List (String × α)
  | [] => [(name, x)]
  | (other, y) :: rest =>
    if name < other then (name, x) :: (other, y) :: rest
    else if name = other then (name, x) :: rest
    else (other, y) :: place name x rest

theorem mem_place {name : String} {x : α} {entry : String × α} {l : List (String × α)}
    (h : entry ∈ place name x l) : entry = (name, x) ∨ entry ∈ l := by
  fun_induction place name x l <;> grind

theorem place_sorted (name : String) (x : α) {l : List (String × α)}
    (h : l.Pairwise (·.1 < ·.1)) : (place name x l).Pairwise (·.1 < ·.1) := by
  fun_induction place name x l with
  | case1 => simp
  | case2 other y rest before =>
    refine List.pairwise_cons.mpr ⟨fun entry mem => ?_, h⟩
    rcases List.mem_cons.mp mem with rfl | mem
    · exact before
    · exact String.lt_trans before ((List.pairwise_cons.mp h).1 entry mem)
  | case3 => exact List.pairwise_cons.mpr (List.pairwise_cons.mp h)
  | case4 other y rest notBefore ne ih =>
    have ⟨first, tail⟩ := List.pairwise_cons.mp h
    refine List.pairwise_cons.mpr ⟨fun entry mem => ?_, ih tail⟩
    rcases mem_place mem with rfl | mem
    · show other < name
      grind
    · exact first entry mem

def insert (m : NameMap α) (name : String) (x : α) : NameMap α :=
  ⟨place name x m.entries, place_sorted name x m.sorted⟩

def get? (m : NameMap α) (name : String) : Option α := m.entries.lookup name

def size (m : NameMap α) : Nat := m.entries.length

def isEmpty (m : NameMap α) : Bool := m.entries.isEmpty

def values (m : NameMap α) : List α := m.entries.map Prod.snd

theorem get?_empty (name : String) : (empty : NameMap α).get? name = none := rfl

theorem lookup_place (name other : String) (x : α) (l : List (String × α)) :
    (place name x l).lookup other = if other = name then some x else l.lookup other := by
  fun_induction place name x l <;> grind

theorem get?_insert (m : NameMap α) (name other : String) (x : α) :
    (m.insert name x).get? other = if other = name then some x else m.get? other :=
  lookup_place name other x m.entries

theorem lookup_eq_none_of_before {name : String} {l : List (String × α)}
    (h : ∀ entry ∈ l, name < entry.1) : l.lookup name = none := by
  induction l with
  | nil => rfl
  | cons entry rest ih =>
    have ne : name ≠ entry.1 := fun eq => by
      have before := h entry List.mem_cons_self
      rw [← eq] at before
      exact String.lt_irrefl name before
    rw [List.lookup_cons, beq_false_of_ne ne]
    exact ih fun other mem => h other (List.mem_cons_of_mem _ mem)

theorem mem_iff_lookup {name : String} {x : α} {l : List (String × α)}
    (sorted : l.Pairwise (·.1 < ·.1)) : (name, x) ∈ l ↔ l.lookup name = some x := by
  induction l with
  | nil => simp
  | cons entry rest ih =>
    obtain ⟨other, y⟩ := entry
    have ⟨first, tail⟩ := List.pairwise_cons.mp sorted
    rw [List.mem_cons, ih tail, List.lookup_cons]
    by_cases same : name = other
    · subst same
      rw [lookup_eq_none_of_before first]
      simp [eq_comm]
    · simp [same, beq_false_of_ne same]

theorem mem_entries {m : NameMap α} {name : String} {x : α} :
    (name, x) ∈ m.entries ↔ m.get? name = some x :=
  mem_iff_lookup m.sorted

theorem eq_of_lookup_eq {l m : List (String × α)} (hl : l.Pairwise (·.1 < ·.1))
    (hm : m.Pairwise (·.1 < ·.1)) (h : ∀ name, l.lookup name = m.lookup name) : l = m := by
  induction l generalizing m with
  | nil =>
    cases m with
    | nil => rfl
    | cons entry rest =>
      have there := h entry.1
      rw [List.lookup_nil, List.lookup_cons_self] at there
      cases there
  | cons entry rest ih =>
    obtain ⟨name, x⟩ := entry
    cases m with
    | nil =>
      have here := h name
      rw [List.lookup_nil, List.lookup_cons_self] at here
      cases here
    | cons other more =>
      obtain ⟨name', y⟩ := other
      have ⟨first, tail⟩ := List.pairwise_cons.mp hl
      have ⟨first', tail'⟩ := List.pairwise_cons.mp hm
      have absent := lookup_eq_none_of_before first
      have absent' := lookup_eq_none_of_before first'
      have same : name = name' := by
        have here := h name
        have there := h name'
        have later : name < name' → (more.lookup name = none) := fun before =>
          lookup_eq_none_of_before fun e mem => String.lt_trans before (first' e mem)
        have later' : name' < name → (rest.lookup name' = none) := fun before =>
          lookup_eq_none_of_before fun e mem => String.lt_trans before (first e mem)
        grind
      subst same
      have value := h name
      simp only [List.lookup_cons_self, Option.some.injEq] at value
      subst value
      refine congrArg _ (ih tail tail' fun k => ?_)
      by_cases eq : k = name
      · rw [eq, absent, absent']
      · have there := h k
        rw [List.lookup_cons, List.lookup_cons, beq_false_of_ne eq] at there
        exact there

/-- Maps that agree on every name are equal. -/
theorem ext_get? {m n : NameMap α} (h : ∀ name, m.get? name = n.get? name) : m = n := by
  obtain ⟨l, hl⟩ := m
  obtain ⟨l', hl'⟩ := n
  have : l = l' := eq_of_lookup_eq hl hl' h
  subst this
  rfl

end NameMap

end PackedRecords
