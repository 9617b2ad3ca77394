import PackedRecords.Layout
import PackedRecords.Proofs.Field.Decoding

/-!
Which fields make a layout. Fields are added one at a time to those before them, so
what decides over a field is the prefix that ends with it.

Proved here:

* `add_of_acceptable`, `add_of_refused`: one field behind the fields before it;
* `ofFields_of_acceptable`, `ofFields_of_refused`: from there all fields, by induction
  on them with the last field taken off;
* `acceptable_or_refused`: one of the two is the case for every list of fields;
* `ofFields_eq_ok_iff`, `ofFields_eq_error_iff`: when fields make a layout, which layout it is,
  and the error otherwise.
-/

namespace PackedRecords.Layout

variable {fields before : List Field} {f : Field} {l : Layout} {e : LayoutFault}

/-- The bits of all the fields, their gaps included, with no limit to them. -/
def size (fields : List Field) : Nat := (fields.map fun f => f.gap + f.format.size).sum

theorem size_append_singleton (before : List Field) (f : Field) :
    size (before ++ [f]) = size before + (f.gap + f.format.size) := by
  simp [size]

/-- Fields that can be told apart by their names, each of a format that makes sense, and of a
size that a word can hold. -/
structure Acceptable (fields : List Field) : Prop where
  named : ∀ f ∈ fields, f.name ≠ ""
  distinct : (fields.map Field.name).Nodup
  checked : ∀ f ∈ fields, f.format.check = .ok ()
  fits : size fields < sizeLimit

/-- The name of a field is empty, or one of the fields before it has the same. -/
def BadName (before : List Field) (f : Field) : Prop :=
  f.name = "" ∨ f.name ∈ before.map Field.name

/-- Why a field cannot follow the fields before it. A bad name counts first, then a format that
makes no sense, then the size. -/
inductive Refused (before : List Field) (f : Field) : LayoutFault → Prop
  | name (bad : BadName before f) : Refused before f (.badName f.name)
  | format (good : ¬BadName before f) {cause : FieldFault} (wrong : f.format.check = .error cause) :
      Refused before f (.badFormat f.name cause)
  | size (good : ¬BadName before f) (checked : f.format.check = .ok ())
      (large : sizeLimit ≤ size (before ++ [f])) :
      Refused before f (.badFormat f.name (.badWidth f.format.bits))

theorem acceptable_nil : Acceptable [] :=
  ⟨by simp, by simp, by simp, by decide⟩

/-- A field can follow acceptable fields if none of the three conditions breaks with it. -/
theorem acceptable_append_singleton_iff :
    Acceptable (before ++ [f]) ↔
      Acceptable before ∧ ¬BadName before f ∧ f.format.check = .ok () ∧
        size (before ++ [f]) < sizeLimit := by
  constructor
  · rintro ⟨named, distinct, checked, fits⟩
    have apart := List.nodup_append.mp (List.map_append ▸ distinct)
    refine ⟨⟨fun g there => named g (by simp [there]), apart.1,
      fun g there => checked g (by simp [there]), ?_⟩, ?_, checked f (by simp), fits⟩
    · rw [size_append_singleton] at fits
      omega
    · rintro (empty | taken)
      · exact named f (by simp) empty
      · exact apart.2.2 _ taken f.name (by simp) rfl
  · rintro ⟨⟨named, distinct, checked, -⟩, good, check, fits⟩
    rw [BadName, not_or] at good
    refine ⟨?_, ?_, ?_, fits⟩
    · simpa [or_imp, forall_and] using ⟨named, good.1⟩
    · rw [List.map_append, List.nodup_append]
      refine ⟨distinct, by simp, fun name taken other there same => ?_⟩
      obtain rfl : other = f.name := by simpa using there
      exact good.2 (same ▸ taken)
    · simpa [or_imp, forall_and] using ⟨checked, check⟩

theorem Refused.not_acceptable (refused : Refused before f e) : ¬Acceptable (before ++ [f]) := by
  rw [acceptable_append_singleton_iff]
  rintro ⟨-, good, checked, fits⟩
  cases refused with
  | name bad => exact good bad
  | format good wrong => cases checked.symm.trans wrong
  | size good checked large => omega

/-! ## One field -/

/-- A sum that is too large for a word stays so, whatever is added to it. -/
theorem sum?_bind (m n k : Nat) : (sum? m n).bind (sum? · k) = sum? (m + n) k := by
  unfold sum?
  by_cases fits : m + n < sizeLimit
  · rw [if_pos fits, Option.bind_some]
  · rw [if_neg fits, Option.bind_none, if_neg (by omega)]

/-- Both sums that the size of a field goes through are one, of exact sizes. -/
theorem sum?_of_check (checked : f.format.check = .ok ()) (before : List Field) :
    (sum? f.gap f.format.extent).bind (sum? · (size before)) =
      if size (before ++ [f]) < sizeLimit then some (size (before ++ [f])) else none := by
  have width : f.format.extent = f.format.size := FieldFormat.extent_of_check checked
  rw [sum?_bind, sum?, width, size_append_singleton, Nat.add_comm (size before)]

theorem badName_iff : f.name.isEmpty ∨ f.name ∈ (Layout.mk before (size before)).names ↔
    BadName before f := by
  rw [String.isEmpty_iff, names, BadName]

theorem add_of_acceptable (acceptable : Acceptable (before ++ [f])) :
    add ⟨before, size before⟩ f = .ok ⟨before ++ [f], size (before ++ [f])⟩ := by
  obtain ⟨-, good, checked, fits⟩ := acceptable_append_singleton_iff.mp acceptable
  simp only [add, if_neg (mt badName_iff.mp good), checked, sum?_of_check checked, if_pos fits]

theorem add_of_refused (refused : Refused before f e) :
    add ⟨before, size before⟩ f = .error e := by
  cases refused with
  | name bad => simp only [add, if_pos (badName_iff.mpr bad)]
  | format good wrong => simp only [add, if_neg (mt badName_iff.mp good), wrong]
  | size good checked large =>
    simp only [add, if_neg (mt badName_iff.mp good), checked, sum?_of_check checked,
      if_neg (Nat.not_lt.mpr large)]

/-! ## All fields -/

theorem ofFields_append (before after : List Field) :
    ofFields (before ++ after) = ofFields before >>= fun l => after.foldlM add l :=
  List.foldlM_append

theorem ofFields_of_acceptable (acceptable : Acceptable fields) :
    ofFields fields = .ok ⟨fields, size fields⟩ := by
  -- A layout grows at its end, so the last field is the one that is taken off.
  induction fields using List.reverseRecOn with
  | nil => rfl
  | append_singleton before f ih =>
    have first := ih (acceptable_append_singleton_iff.mp acceptable).1
    rw [ofFields_append, first]
    show [f].foldlM add _ = _
    rw [List.foldlM_cons, add_of_acceptable acceptable]
    rfl

/-- Whatever comes behind a field that is refused is not looked at. -/
theorem ofFields_of_refused (acceptable : Acceptable before) (refused : Refused before f e)
    (after : List Field) : ofFields (before ++ f :: after) = .error e := by
  rw [ofFields_append, ofFields_of_acceptable acceptable]
  show (f :: after).foldlM add _ = _
  rw [List.foldlM_cons, add_of_refused refused]
  rfl

/-- A field that cannot follow acceptable fields is refused for one of the three reasons. -/
theorem exists_refused (acceptable : Acceptable before) (not : ¬Acceptable (before ++ [f])) :
    ∃ e, Refused before f e := by
  by_cases bad : BadName before f
  · exact ⟨_, .name bad⟩
  cases checked : f.format.check with
  | error cause => exact ⟨_, .format bad checked⟩
  | ok =>
    refine ⟨_, .size bad checked ?_⟩
    by_contra fits
    exact not (acceptable_append_singleton_iff.mpr
      ⟨acceptable, bad, checked, Nat.lt_of_not_le fits⟩)

theorem acceptable_or_refused (fields : List Field) :
    Acceptable fields ∨ ∃ before f after e,
      fields = before ++ f :: after ∧ Acceptable before ∧ Refused before f e := by
  induction fields using List.reverseRecOn with
  | nil => exact .inl acceptable_nil
  | append_singleton fields last ih =>
    rcases ih with acceptable | ⟨before, f, after, e, rfl, acceptable, refused⟩
    · by_cases all : Acceptable (fields ++ [last])
      · exact .inl all
      · obtain ⟨e, refused⟩ := exists_refused acceptable all
        exact .inr ⟨fields, last, [], e, rfl, acceptable, refused⟩
    · exact .inr ⟨before, f, after ++ [last], e, by simp, acceptable, refused⟩

theorem ofFields_eq_ok_iff :
    ofFields fields = .ok l ↔ Acceptable fields ∧ l = ⟨fields, size fields⟩ := by
  constructor
  · intro made
    rcases acceptable_or_refused fields with
      acceptable | ⟨before, f, after, e, rfl, acceptable, refused⟩
    · cases (ofFields_of_acceptable acceptable).symm.trans made
      exact ⟨acceptable, rfl⟩
    · cases (ofFields_of_refused acceptable refused after).symm.trans made
  · rintro ⟨acceptable, rfl⟩
    exact ofFields_of_acceptable acceptable

theorem ofFields_eq_error_iff :
    ofFields fields = .error e ↔ ∃ before f after,
      fields = before ++ f :: after ∧ Acceptable before ∧ Refused before f e := by
  constructor
  · intro failed
    rcases acceptable_or_refused fields with
      acceptable | ⟨before, f, after, e', rfl, acceptable, refused⟩
    · cases (ofFields_of_acceptable acceptable).symm.trans failed
    · cases (ofFields_of_refused acceptable refused after).symm.trans failed
      exact ⟨before, f, after, rfl, acceptable, refused⟩
  · rintro ⟨before, f, after, rfl, acceptable, refused⟩
    exact ofFields_of_refused acceptable refused after

/-- Fields make a layout exactly if they are acceptable. It has these fields, in this order, and
their exact size. Otherwise there is a first field at which the prefix that ends with it is not
acceptable any more, and the error is why this field cannot follow those before it. -/
theorem ofFields_outcome (fields : List Field) :
    (∀ l, ofFields fields = .ok l ↔ Acceptable fields ∧ l = ⟨fields, size fields⟩) ∧
    (∀ e, ofFields fields = .error e ↔ ∃ before f after,
      fields = before ++ f :: after ∧ Acceptable before ∧ ¬Acceptable (before ++ [f]) ∧
        Refused before f e) := by
  refine ⟨fun l => ofFields_eq_ok_iff, fun e => ofFields_eq_error_iff.trans ⟨?_, ?_⟩⟩
  · rintro ⟨before, f, after, split, acceptable, refused⟩
    exact ⟨before, f, after, split, acceptable, refused.not_acceptable, refused⟩
  · rintro ⟨before, f, after, split, acceptable, -, refused⟩
    exact ⟨before, f, after, split, acceptable, refused⟩

private def half : FieldFormat := { kind := .blob, bits := 1 <<< 63 }

/-- With the second field no word can hold the size, and the name of the third is taken. The
second comes first. -/
example : ofFields [⟨"low", 0, half⟩, ⟨"high", 0, half⟩, ⟨"low", 0, half⟩] =
    .error (.badFormat "high" (.badWidth (1 <<< 63))) := by
  rfl

end PackedRecords.Layout
