import Mathlib.Data.List.Nodup
import PackedRecords.Proofs.Layout.Fieldwise
import PackedRecords.Proofs.Simulation

/-!
What the records of a layout have in common. The entries of a record are its fields, in
order and each under a name of its own; their kinds and units are in the layout and not
in the data.

Proved here:

* `FieldFormat.decode_yields`: whatever a field decodes to has the kind and the unit of
  its format;
* `names_nodup`: no two fields of an accepted layout share a name;
* `fits_of_readRecord`: both, for the entries of a record.
-/

namespace PackedRecords

namespace FieldFormat

/-- The kind of the data that a field gives: the kind of an element, or that of sequences
of such elements. -/
def resultKind (f : FieldFormat) : Kind :=
  match f.count with
  | none => f.kind
  | some _ => f.kind.sequence?.getD f.kind

theorem readElements_yields (f : FieldFormat) :
    Attempt.Yields (fun d => d.kind = f.resultKind) f.readElements := by
  unfold readElements resultKind
  cases f.count with
  | none =>
    refine (Attempt.Yields.any _).bind fun (x, valid) _ => .pure ?_
    cases valid
    · rfl
    · rfl
  | some n =>
    cases f.kind with
    | scalar e => exact (Attempt.Yields.any _).bind fun xs _ => .pure rfl
    | blob => exact .fail _
    | sequence e => exact .fail _

/-- The bits of a field decide its payload and whether it is valid, but nothing else. -/
theorem decode_yields (f : FieldFormat) :
    Attempt.Yields (fun d => d.kind = f.resultKind ∧ d.unit = f.unit) f.decode := by
  unfold decode
  refine (Attempt.Yields.any _).bind fun _ _ => (Attempt.Yields.any _).bind fun _ _ => ?_
  exact f.readElements_yields.bind fun d kind => .pure ⟨kind, rfl⟩

end FieldFormat

namespace Layout

variable {fields : List Field} {l : Layout} {record : Record} {c : Cursor}

theorem names_nodup (accepted : ofFields fields = .ok l) : (fields.map Field.name).Nodup :=
  (ofFields_eq_ok_iff.mp accepted).1.distinct

theorem eq_of_name_eq {f g : Field} (distinct : (fields.map Field.name).Nodup) (there : f ∈ fields)
    (also : g ∈ fields) (same : f.name = g.name) : f = g :=
  List.inj_on_of_nodup_map distinct there also same

/-- The record has an entry for each field, of the kind and in the unit of the field. -/
structure Fits (fields : List Field) (record : Record) : Prop where
  names : record.map Prod.fst = fields.map Field.name
  entries : ∀ f ∈ fields, ∀ d, (f.name, d) ∈ record →
    d.kind = f.format.resultKind ∧ d.unit = f.format.unit

theorem fits_of_readRecord (accepted : ofFields fields = .ok l)
    (read : (l.readRecord c).1 = .ok record) : Fits fields record := by
  obtain ⟨kept, size, checked⟩ := ofFields_eq_ok accepted
  have enough : l.extent ≤ c.available := by
    apply Nat.not_lt.mp
    intro short
    rw [readRecord_of_lt short] at read
    cases read
  rw [readRecord_of_le enough, kept] at read
  rw [size] at enough
  obtain ⟨length, entries⟩ := entries_of_readFields checked enough read
  constructor
  case names =>
    apply List.ext_getElem?
    intro k
    cases there : fields[k]? with
    | none =>
      have outside := List.getElem?_eq_none_iff.mp there
      simp [length, outside]
    | some f =>
      obtain ⟨d, -, entry⟩ := entries k f there
      simp [there, entry]
  case entries =>
    intro f there d mem
    obtain ⟨k, inside, here⟩ := List.getElem_of_mem mem
    have field : fields[k]? = some fields[k] := List.getElem?_eq_getElem (length ▸ inside)
    obtain ⟨d', alone, entry⟩ := entries k _ field
    rw [List.getElem?_eq_getElem inside, here, Option.some.injEq, Prod.mk.injEq] at entry
    obtain ⟨name, rfl⟩ := entry
    rw [eq_of_name_eq (names_nodup accepted) there (List.getElem_mem _) name]
    cases outcome : lone fields c k fields[k] with
    | mk result t =>
      rw [outcome] at alone
      cases alone
      exact fields[k].format.decode_yields outcome

namespace Fits

variable {name : String} {d : Datum}

theorem mem_names (fits : Fits fields record) :
    name ∈ record.map Prod.fst ↔ ∃ f ∈ fields, f.name = name := by
  rw [fits.names, List.mem_map]

theorem exists_entry {f : Field} (fits : Fits fields record) (there : f ∈ fields) :
    ∃ d, (f.name, d) ∈ record := by
  obtain ⟨⟨name, d⟩, mem, rfl⟩ := List.mem_map.mp (fits.mem_names.mpr ⟨f, there, rfl⟩)
  exact ⟨d, mem⟩

/-- An entry is found from either end, as no other has its name. -/
theorem lookup_reverse_iff (fits : Fits fields record) (distinct : (fields.map Field.name).Nodup) :
    record.reverse.lookup name = some d ↔ (name, d) ∈ record := by
  have held : ∀ e, record.reverse.lookup name = some e → (name, e) ∈ record := by
    intro e found
    obtain ⟨before, after, split, -⟩ := List.lookup_eq_some_iff.mp found
    apply List.mem_reverse.mp
    simp [split]
  refine ⟨held d, fun mem => ?_⟩
  cases found : record.reverse.lookup name with
  | none =>
    have absent := List.lookup_eq_none_iff.mp found (name, d) (List.mem_reverse.mpr mem)
    simp at absent
  | some e =>
    cases List.inj_on_of_nodup_map (fits.names ▸ distinct) mem (held e found) rfl
    rfl

end Fits

end Layout

end PackedRecords
