import PackedRecords.Value

/-!
Payloads of one kind in a row, as a column holds them.
-/

namespace PackedRecords

structure Series where
  kind : Kind
  payloads : Array kind.Payload

namespace Series

def empty (k : Kind) : Series := ⟨k, #[]⟩

def size (s : Series) : Nat := s.payloads.size

def isEmpty (s : Series) : Bool := s.payloads.isEmpty

/-- The values held, each with the kind of the series. -/
def toList (s : Series) : List Value := s.payloads.toList.map fun x => ⟨s.kind, x⟩

/-- Adds a value at the end. A value of another kind is handed back. -/
def push (s : Series) (v : Value) : Except Value Series :=
  match v.as? s.kind with
  | some x => .ok ⟨s.kind, s.payloads.push x⟩
  | none => .error v

/-- Adds the filler of the series' kind. -/
def pad (s : Series) : Series := ⟨s.kind, s.payloads.push s.kind.filler⟩

theorem toList_empty (k : Kind) : (empty k).toList = [] := rfl

theorem length_toList (s : Series) : s.toList.length = s.size := by
  rw [toList, List.length_map, Array.length_toList, size]

theorem toList_pad (s : Series) :
    s.pad.toList = s.toList ++ [⟨s.kind, s.kind.filler⟩] := by
  simp [pad, toList]

theorem push_eq_error_iff {s : Series} {v w : Value} :
    s.push v = .error w ↔ v.kind ≠ s.kind ∧ w = v := by
  unfold push
  split
  · rename_i x hx
    rw [Value.as?_eq_some_iff] at hx
    simp [hx]
  · rename_i hx
    rw [Value.as?_eq_none_iff] at hx
    simp [hx, eq_comm]

theorem toList_push {s t : Series} {v : Value} (h : s.push v = .ok t) :
    t.kind = s.kind ∧ t.toList = s.toList ++ [v] := by
  unfold push at h
  split at h
  · rename_i x hx
    rw [Value.as?_eq_some_iff] at hx
    cases h
    simp [toList, hx]
  · cases h

/-- Series of one kind that hold the same values are the same. -/
theorem eq_of_toList_eq {s t : Series} (kind : s.kind = t.kind) (list : s.toList = t.toList) :
    s = t := by
  obtain ⟨k, xs⟩ := s
  obtain ⟨_, ys⟩ := t
  cases kind
  have injective : ∀ x y, Value.mk k x = Value.mk k y → x = y := fun _ _ same => by
    cases same
    rfl
  have same : xs.toList = ys.toList := (List.map_inj_right injective).mp list
  rw [Array.toList_inj.mp same]

end Series

end PackedRecords
