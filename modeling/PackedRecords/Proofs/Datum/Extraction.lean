import Mathlib.Logic.ExistsUnique
import PackedRecords.Datum.Accessors
import PackedRecords.Datum.Nullable

/-!
Data as they are made and as they are read. An accessor gives out the payloads of the kinds that
it serves, and nothing of any other datum, so what is made from a present input is read back by
one accessor alone.

Proved here:

* `read_of_free`: an accessor that finds none of its kinds gives zero;
* `accessor_serves`, `read_of_ne`: a valid datum, read by the accessor of its kind and by others;
* `serves_iff`: the accessor of a kind is the only one that serves it;
* `ofOption_makes`: data from inputs that may be missing, for every kind;
* on top of them, every accessor on every datum, and every constructor on every input.
-/

namespace PackedRecords

/-! ## Accessors -/

/-- The accessors, one for an element and one for its sequences. There is none for dates, which
are read as text, so they are twenty-six. -/
inductive Accessor where
  | one (e : Element) (text : e ≠ .date)
  | many (e : Element) (text : e ≠ .date)

namespace Accessor

/-- The kind that an accessor is named for. -/
def kind : Accessor → Kind
  | one e _ => .scalar e
  | many e _ => .sequence e

def read : (a : Accessor) → Datum → a.kind.Payload
  | one .boolean _ => Datum.asBool
  | one .byte _ => Datum.asByte
  | one .short _ => Datum.asShort
  | one .int _ => Datum.asInt
  | one .long _ => Datum.asLong
  | one .float _ => Datum.asFloat
  | one .double _ => Datum.asDouble
  | one .string _ => Datum.asText
  | one .enum _ => Datum.asEnum
  | one .byteString _ => Datum.asBytes
  | one .complex _ => Datum.asComplex
  | one .doubleComplex _ => Datum.asDoubleComplex
  | one .externalReference _ => Datum.asReference
  | many .boolean _ => Datum.asBools
  | many .byte _ => Datum.asByteSequence
  | many .short _ => Datum.asShorts
  | many .int _ => Datum.asInts
  | many .long _ => Datum.asLongs
  | many .float _ => Datum.asFloats
  | many .double _ => Datum.asDoubles
  | many .string _ => Datum.asTexts
  | many .enum _ => Datum.asEnums
  | many .byteString _ => Datum.asByteStrings
  | many .complex _ => Datum.asComplexes
  | many .doubleComplex _ => Datum.asDoubleComplexes
  | many .externalReference _ => Datum.asReferences

/-- What an accessor gives where it finds nothing: zero, false or empty. -/
def zero (a : Accessor) : a.kind.Payload := a.kind.filler

/-- Whatever payload of the kind is valid, the accessor gives it out as it is. -/
def Serves (a : Accessor) (k : Kind) : Prop :=
  ∀ (x : k.Payload) (unit : Option String), HEq (a.read ⟨⟨k, x⟩, true, unit⟩) x

end Accessor

namespace Kind

/-- The accessor for the payloads of a kind. -/
def accessor : Kind → Accessor
  | .scalar e => if text : e = .date then .one .string nofun else .one e text
  | .blob => .one .byteString nofun
  | .sequence e => if text : e = .date then .many .string nofun else .many e text

end Kind

variable {a : Accessor} {k : Kind} {d : Datum}

namespace Datum

theorem get?_of_invalid (invalid : d.valid = false) (k : Kind) : d.get? k = none := by
  simp [get?, invalid]

theorem get?_of_kind_ne (other : d.kind ≠ k) : d.get? k = none := by
  rw [get?]
  split
  · exact Value.as?_eq_none_iff.mpr other
  · rfl

end Datum

namespace Accessor

/-- An accessor looks for data of its kinds only. -/
theorem read_of_free (free : ∀ k : Kind, k.accessor = a → d.get? k = none) :
    a.read d = a.zero := by
  -- Text and bytes are for two kinds each, so the datum must be free of both.
  cases a with
  | one e text =>
    have own : d.get? (.scalar e) = none := free (.scalar e) (dif_neg text)
    cases e with
    | date => exact absurd rfl text
    | string =>
      show ((d.get? (.scalar .string)).or (d.get? (.scalar .date))).getD "" = ""
      rw [own, free (.scalar .date) rfl]
      rfl
    | byteString =>
      show ((d.get? (.scalar .byteString)).or (d.get? .blob)).getD [] = []
      rw [own, free .blob rfl]
      rfl
    | boolean | byte | short | int | long | float | double | enum | complex | doubleComplex
    | externalReference =>
      show (d.get? (.scalar _)).getD _ = _
      rw [own]
      rfl
  | many e text =>
    have own : d.get? (.sequence e) = none := free (.sequence e) (dif_neg text)
    cases e with
    | date => exact absurd rfl text
    | string =>
      show ((d.get? (.sequence .string)).or (d.get? (.sequence .date))).getD [] = []
      rw [own, free (.sequence .date) rfl]
      rfl
    | boolean | byte | short | int | long | float | double | enum | byteString | complex
    | doubleComplex | externalReference =>
      show (d.get? (.sequence _)).getD [] = []
      rw [own]
      rfl

theorem read_of_invalid (a : Accessor) (invalid : d.valid = false) : a.read d = a.zero :=
  read_of_free fun k _ => Datum.get?_of_invalid invalid k

/-- A datum of another accessor's kind is as good as none. -/
theorem read_of_ne (other : a ≠ d.kind.accessor) : a.read d = a.zero := by
  apply read_of_free
  rintro k rfl
  apply Datum.get?_of_kind_ne
  intro same
  exact other (congrArg Kind.accessor same.symm)

theorem accessor_serves (k : Kind) : k.accessor.Serves k := by
  intro x unit
  rcases k with e | _ | e
  · cases e <;> rfl
  · rfl
  · cases e <;> rfl

end Accessor

theorem Element.exists_ne_filler (e : Element) : ∃ x : e.Carrier, x ≠ e.filler := by
  cases e with
  | boolean => exact ⟨true, by decide⟩
  | byte => exact ⟨1, by decide⟩
  | short => exact ⟨1, by decide⟩
  | int => exact ⟨1, by decide⟩
  | long => exact ⟨1, by decide⟩
  | float => exact ⟨⟨1⟩, by decide⟩
  | double => exact ⟨⟨1⟩, by decide⟩
  | string => exact ⟨"-", by decide⟩
  | date => exact ⟨"-", by decide⟩
  | enum => exact ⟨1, by decide⟩
  | byteString => exact ⟨[0], by decide⟩
  | complex => exact ⟨⟨⟨1⟩, ⟨0⟩⟩, by decide⟩
  | doubleComplex => exact ⟨⟨⟨1⟩, ⟨0⟩⟩, by decide⟩
  | externalReference => exact ⟨⟨"-", "", ""⟩, by decide⟩

theorem Kind.exists_ne_filler (k : Kind) : ∃ x : k.Payload, x ≠ k.filler := by
  cases k with
  | scalar e => exact e.exists_ne_filler
  | blob => exact ⟨[0], List.cons_ne_nil 0 []⟩
  | sequence e => exact ⟨[e.filler], List.cons_ne_nil e.filler []⟩

/-- No other accessor serves the kind: it would give one and the same for two payloads. -/
theorem Accessor.serves_iff : a.Serves k ↔ a = k.accessor := by
  constructor
  · intro serves
    obtain ⟨x, distinct⟩ := k.exists_ne_filler
    apply Classical.byContradiction
    intro other
    have zero (y : k.Payload) : HEq a.zero y := by
      have given := serves y none
      rwa [read_of_ne (d := ⟨⟨k, y⟩, true, none⟩) other] at given
    exact distinct (eq_of_heq ((zero x).symm.trans (zero k.filler)))
  · rintro rfl
    exact accessor_serves k

/-! ## Inputs that may be missing -/

namespace Kind

/-- The payloads that count as no value though they are there. -/
inductive Blank : (k : Kind) → k.Payload → Prop where
  | string : Blank (.scalar .string) ""
  | date : Blank (.scalar .date) ""
  | byteString : Blank (.scalar .byteString) []
  | blob : Blank .blob []

theorem isBlank_eq_true_iff {x : k.Payload} : k.isBlank x = true ↔ k.Blank x := by
  constructor
  · intro blank
    unfold isBlank at blank
    split at blank
    · cases String.isEmpty_iff.mp blank
      exact .string
    · cases String.isEmpty_iff.mp blank
      exact .date
    · cases List.isEmpty_iff.mp blank
      exact .byteString
    · cases List.isEmpty_iff.mp blank
      exact .blob
    · cases blank
  · rintro (_ | _ | _ | _) <;> rfl

end Kind

/-- A constructor of data of a kind from inputs that may be missing. What is missing or blank
becomes the null of the kind. Anything else becomes valid and of the kind, and is read back as it
is. -/
structure Makes (k : Kind) {α : Type} (carrier : k.Payload = α) (make : Option α → Datum) :
    Prop where
  missing : make none = .null k
  blank : ∀ x : α, k.Blank (cast carrier.symm x) → make (some x) = .null k
  present : ∀ x : α, ¬k.Blank (cast carrier.symm x) →
    (make (some x)).valid = true ∧ (make (some x)).kind = k ∧
      ∀ a : Accessor, a.Serves k → HEq (a.read (make (some x))) x

theorem ofOption_makes (k : Kind) : Makes k rfl (Datum.ofOption k) where
  missing := rfl
  blank x blank := if_pos (Kind.isBlank_eq_true_iff.mpr blank)
  present x there := by
    have made : Datum.ofOption k (some x) = .ofValue ⟨k, x⟩ :=
      if_neg (mt Kind.isBlank_eq_true_iff.mp there)
    rw [made]
    exact ⟨rfl, rfl, fun a serves => serves x none⟩

/-- A type only gives the payloads of its kind another name. -/
theorem nullable_makes (α : Type) [Plain α] :
    Makes (Plain.kind α) Plain.carrier (Datum.nullable : Option α → Datum) where
  missing := (ofOption_makes _).missing
  blank x blank := (ofOption_makes _).blank (Plain.payload x) blank
  present x there := by
    obtain ⟨valid, kind, given⟩ := (ofOption_makes _).present (Plain.payload x) there
    exact ⟨valid, kind, fun a serves => (given a serves).trans (cast_heq _ x)⟩

/-- Each kind has exactly one accessor that gives out its valid payloads. The others give zero for
them, and all give zero for what is not valid, so that no placeholder is told from the null of its
kind. What a constructor of nullable data makes is that null, if its input is missing or blank, and
is else read back as it was. The types that stand for kinds are those of all elements but dates,
codes and byte strings, alone and in sequences, each for the kind of its element. -/
theorem extraction_of_construction :
    (∀ k : Kind, ∃! a : Accessor, a.Serves k) ∧
    (∀ (a : Accessor) (d : Datum),
      (d.valid = true → a.Serves d.kind → HEq (a.read d) d.value.payload) ∧
      (d.valid = true → ¬a.Serves d.kind → a.read d = a.zero) ∧
      (d.valid = false → a.read d = a.zero ∧ a.read d = a.read (.null d.kind))) ∧
    (∀ (α : Type) [Plain α],
      Makes (Plain.kind α) Plain.carrier (Datum.nullable : Option α → Datum)) ∧
    Plain.table = (Element.all.filter Element.isPlain).map (fun e => (e.Carrier, .scalar e)) ++
      (Element.all.filter Element.isPlain).map (fun e => (List e.Carrier, .sequence e)) ∧
    Makes (.scalar .date) rfl Datum.nullableDate ∧
    Makes (.scalar .enum) rfl Datum.nullableCode ∧
    Makes (.scalar .byteString) rfl Datum.nullableBytes ∧
    Makes .blob rfl Datum.nullableBlob := by
  refine ⟨fun k => ?one, fun a d => ⟨?served, ?other, ?invalid⟩, nullable_makes,
    Plain.table_eq, ofOption_makes _, ofOption_makes _, ofOption_makes _, ofOption_makes _⟩
  case one => exact ⟨k.accessor, Accessor.accessor_serves k, fun _ => Accessor.serves_iff.mp⟩
  case served =>
    obtain ⟨⟨k, x⟩, valid, unit⟩ := d
    rintro rfl serves
    exact serves x unit
  case other =>
    intro _ other
    exact Accessor.read_of_ne (mt Accessor.serves_iff.mpr other)
  case invalid =>
    intro invalid
    have zero := a.read_of_invalid invalid
    exact ⟨zero, zero.trans (a.read_of_invalid rfl).symm⟩

/-- A date is read as text. No bytes are a null, but a sequence of none of them is not. A number
that is not valid is not given out, nor is a code as a number. -/
theorem extraction_of_dates :
    (Datum.nullableDate (some "20240101")).asText = "20240101" ∧
    Datum.nullableBytes (some []) = .null (.scalar .byteString) ∧
    (Datum.nullable (some ([] : List UInt8))).valid = true ∧
    (Datum.mk ⟨.scalar .long, 42⟩ false none).asLong = 0 ∧
    (Datum.nullableCode (some 3)).asInt = 0 := by
  obtain ⟨-, reads, types, -, dates, -, bytes, -⟩ := extraction_of_construction
  have there : ¬Kind.Blank (.scalar .date) "20240101" :=
    mt Kind.isBlank_eq_true_iff.mpr (by decide)
  have serves : (Accessor.one .string nofun).Serves (.scalar .date) := Accessor.serves_iff.mpr rfl
  have foreign : ¬(Accessor.one .int nofun).Serves (.scalar .enum) :=
    mt Accessor.serves_iff.mp nofun
  refine ⟨?_, bytes.blank [] .byteString, ?_, ?_, ?_⟩
  · exact eq_of_heq ((dates.present "20240101" there).2.2 _ serves)
  · exact ((types (List UInt8)).present [] nofun).1
  · exact ((reads (.one .long nofun) ⟨⟨.scalar .long, 42⟩, false, none⟩).2.2 rfl).1
  · exact (reads (.one .int nofun) (.nullableCode (some 3))).2.1 rfl foreign

end PackedRecords
