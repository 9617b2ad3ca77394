import PackedRecords.Proofs.Field.Decoding
import PackedRecords.Proofs.Text.Spelling

/-!
Text fields. What such a field gives is a matter of its bytes only: which of them count, what
these spell, and what of it is left to show.

Proved here, for every format of text that is accepted:

* `counted_iff`: the bytes that count are those before the first zero, or all;
* `textOf_eq_error_iff`, `textOf_eq_ok_iff`: when bytes are refused and for what, and what they
  show if they are not;
* `decode_of_ascii`: what is text in ASCII is the same text in any encoding;
* on top of them, the datum that a text field decodes to.
-/

namespace PackedRecords.FieldFormat

open Bits

variable {f : FieldFormat} {c : Cursor} {all bytes : List UInt8} {s t : String} {e : FieldFault}

/-! ## The bytes that count -/

/-- Of all the bytes of a text field, those that count: the ones before the first zero byte if
the text ends there, or else every one. -/
inductive Counted (f : FieldFormat) : List UInt8 → List UInt8 → Prop
  | endless (all : List UInt8) (endless : f.zeroTerminated ≠ some true) : Counted f all all
  | unended (all : List UInt8) (ends : f.zeroTerminated = some true) (free : 0 ∉ all) :
    Counted f all all
  | ended (head tail : List UInt8) (ends : f.zeroTerminated = some true) (free : 0 ∉ head) :
    Counted f (head ++ 0 :: tail) head

private theorem getD_false_iff {choice : Option Bool} :
    choice.getD false = true ↔ choice = some true := by
  cases choice <;> simp

theorem textBytes_of_ends (ends : f.zeroTerminated = some true) (all : List UInt8) :
    f.textBytes all = all.takeWhile (· ≠ 0) :=
  if_pos (getD_false_iff.mpr ends)

theorem textBytes_of_endless (endless : f.zeroTerminated ≠ some true) (all : List UInt8) :
    f.textBytes all = all :=
  if_neg (mt getD_false_iff.mp endless)

theorem textBytes_of_free (ends : f.zeroTerminated = some true) (free : 0 ∉ all) :
    f.textBytes all = all := by
  rw [textBytes_of_ends ends, List.takeWhile_eq_self_iff]
  exact fun b there => decide_eq_true fun zero : b = 0 => free (zero ▸ there)

/-- What comes before a zero byte decides what counts. -/
theorem textBytes_of_zero (ends : f.zeroTerminated = some true) (head tail : List UInt8) :
    f.textBytes (head ++ 0 :: tail) = f.textBytes head := by
  rw [textBytes_of_ends ends, textBytes_of_ends ends, List.takeWhile_append]
  split
  · rename_i free
    rw [List.takeWhile_cons_of_neg (by simp), List.append_nil]
    exact ((List.takeWhile_prefix _).eq_of_length free).symm
  · rfl

theorem counted_textBytes (f : FieldFormat) (all : List UInt8) :
    f.Counted all (f.textBytes all) := by
  by_cases ends : f.zeroTerminated = some true
  · by_cases zero : 0 ∈ all
    · obtain ⟨head, tail, rfl, free⟩ := List.eq_append_cons_of_mem zero
      rw [textBytes_of_zero ends, textBytes_of_free ends free]
      exact .ended head tail ends free
    · rw [textBytes_of_free ends zero]
      exact .unended all ends zero
  · rw [textBytes_of_endless ends]
    exact .endless all ends

theorem counted_iff : f.Counted all bytes ↔ bytes = f.textBytes all := by
  constructor
  · rintro (⟨_, endless⟩ | ⟨_, ends, free⟩ | ⟨_, tail, ends, free⟩)
    · exact (textBytes_of_endless endless _).symm
    · exact (textBytes_of_free ends free).symm
    · rw [textBytes_of_zero ends, textBytes_of_free ends free]
  · rintro rfl
    exact counted_textBytes f all

/-! ## What they spell -/

/-- The bytes are refused as text for `e`: in ASCII for the first of them that is not, in UTF-8
if no text has them for its encoding. -/
inductive Refuses (f : FieldFormat) : List UInt8 → FieldFault → Prop
  | notAscii (before after : List UInt8) (b : UInt8) (ascii : f.encoding = some .ascii)
    (low : ∀ x ∈ before, x ≤ 0x7F) (high : 0x7F < b) :
    Refuses f (before ++ b :: after) (.notAscii b)
  | notText (bytes : List UInt8) (utf8 : f.encoding ≠ some .ascii)
    (foreign : ∀ s, Text.bytes s ≠ bytes) : Refuses f bytes .notText

/-- The bytes show `t`: they are the encoding of a text, all of it in ASCII if the field is, and
`t` is that text, trimmed if the field is. -/
structure Shows (f : FieldFormat) (bytes : List UInt8) (t : String) : Prop where
  ascii : f.encoding = some .ascii → ∀ b ∈ bytes, b ≤ 0x7F
  text : ∃ s, Text.bytes s = bytes ∧ if f.trim = some true then Text.Trims s t else t = s

theorem encoding_eq_ascii_iff : f.encoding.getD .utf8 = .ascii ↔ f.encoding = some .ascii := by
  cases encoding : f.encoding <;> simp

theorem spell_of_text {encoding : TextEncoding}
    (ascii : encoding = .ascii → ∀ b ∈ bytes, b ≤ 0x7F) (text : Text.bytes s = bytes) :
    spell encoding bytes = .ok s := by
  have read : String.fromUTF8? ⟨bytes.toArray⟩ = some s := Text.fromUTF8?_eq_some_iff.mpr text
  unfold spell
  split
  · rename_i b found
    have high := List.find?_some found
    have low := ascii rfl b (List.mem_of_find?_eq_some found)
    exact absurd (of_decide_eq_true high) (UInt8.not_lt.mpr low)
  · rw [read]

theorem spell_of_refuses (refuses : f.Refuses bytes e) :
    spell (f.encoding.getD .utf8) bytes = .error e := by
  cases refuses with
  | notAscii before after b ascii low high =>
    have found : (before ++ b :: after).find? (0x7F < ·) = some b :=
      List.find?_eq_some_iff_append.mpr ⟨decide_eq_true high, before, after, rfl,
        fun x there => by simpa using low x there⟩
    simp [spell, ascii, found]
  | notText _ utf8 foreign =>
    have read : String.fromUTF8? ⟨bytes.toArray⟩ = none := Text.fromUTF8?_eq_none_iff.mpr foreign
    unfold spell
    split
    · rename_i ascii _
      exact absurd (encoding_eq_ascii_iff.mp ascii) utf8
    · rw [read]

theorem textOf_of_shows (shows : f.Shows (f.textBytes all) t) : f.textOf all = .ok t := by
  obtain ⟨s, text, trimmed⟩ := shows.text
  have spelled : spell (f.encoding.getD .utf8) (f.textBytes all) = .ok s :=
    spell_of_text (fun ascii => shows.ascii (encoding_eq_ascii_iff.mp ascii)) text
  rw [textOf, spelled]
  by_cases trims : f.trim = some true
  · rw [if_pos trims, Text.trims_iff] at trimmed
    rw [trimmed]
    exact congrArg Except.ok (if_pos (getD_false_iff.mpr trims))
  · rw [if_neg trims] at trimmed
    rw [trimmed]
    exact congrArg Except.ok (if_neg (mt getD_false_iff.mp trims))

theorem textOf_of_refuses (refuses : f.Refuses (f.textBytes all) e) :
    f.textOf all = .error e := by
  rw [textOf, spell_of_refuses refuses]

theorem refuses_or_shows (f : FieldFormat) (bytes : List UInt8) :
    (∃ e, f.Refuses bytes e) ∨ ∃ t, f.Shows bytes t := by
  have shown (ascii : f.encoding = some .ascii → ∀ b ∈ bytes, b ≤ 0x7F)
      (text : ∃ s, Text.bytes s = bytes) : ∃ t, f.Shows bytes t := by
    obtain ⟨s, text⟩ := text
    by_cases trims : f.trim = some true
    · exact ⟨Text.trim s, ascii, s, text, by rw [if_pos trims]; exact Text.trim_trims s⟩
    · exact ⟨s, ascii, s, text, by rw [if_neg trims]⟩
  by_cases ascii : f.encoding = some .ascii
  · cases found : bytes.find? (0x7F < ·) with
    | none =>
      have low : ∀ b ∈ bytes, b ≤ 0x7F := fun b there => by
        simpa using List.find?_eq_none.mp found b there
      exact .inr (shown (fun _ => low) (Text.exists_bytes_eq low))
    | some b =>
      obtain ⟨high, before, after, rfl, low⟩ := List.find?_eq_some_iff_append.mp found
      exact .inl ⟨_, .notAscii before after b ascii (fun x there => by simpa using low x there)
        (of_decide_eq_true high)⟩
  · by_cases text : ∃ s, Text.bytes s = bytes
    · exact .inr (shown (fun yes => absurd yes ascii) text)
    · exact .inl ⟨_, .notText bytes ascii (not_exists.mp text)⟩

theorem textOf_eq_error_iff : f.textOf all = .error e ↔ f.Refuses (f.textBytes all) e := by
  refine ⟨fun refused => ?_, textOf_of_refuses⟩
  rcases f.refuses_or_shows (f.textBytes all) with ⟨e', refuses⟩ | ⟨t, shows⟩
  · cases refused.symm.trans (textOf_of_refuses refuses)
    exact refuses
  · cases refused.symm.trans (textOf_of_shows shows)

theorem textOf_eq_ok_iff : f.textOf all = .ok t ↔ f.Shows (f.textBytes all) t := by
  refine ⟨fun shown => ?_, textOf_of_shows⟩
  rcases f.refuses_or_shows (f.textBytes all) with ⟨e, refuses⟩ | ⟨t', shows⟩
  · cases shown.symm.trans (textOf_of_refuses refuses)
  · cases shown.symm.trans (textOf_of_shows shows)
    exact shows

/-! ## Fields -/

/-- A text as a value of a kind of text. -/
def textValue : Kind → String → Value
  | .scalar .date, t => ⟨.scalar .date, t⟩
  | _, t => ⟨.scalar .string, t⟩

/-- What a field that shows `t` holds: the text itself, or a null if there is nothing to see. -/
def textDatum (f : FieldFormat) (t : String) : Datum :=
  if t = "" then f.nullDatum else ⟨textValue f.kind t, true, f.unit⟩

/-- The bytes of the field at the cursor, whether a byte starts there or not. -/
def fieldBytes (f : FieldFormat) (c : Cursor) : List UInt8 :=
  octets c.data c.position (f.bits / 8)

theorem decode_eq_of_text (checked : f.check = .ok ()) (single : f.count = none)
    (text : f.kind.isText) (enough : f.bits ≤ c.available) :
    f.decode c = ((f.textOf (f.fieldBytes c)).map f.textDatum, c.advance f.bits enough) := by
  have width := (check_eq_ok_iff.mp checked).2.2.2.2.2.2
  have run := readText_of_le (whole_of_text width text) enough
  rw [spelling, Nat.zero_mul, Nat.add_zero] at run
  rw [decode_of_check checked (extent_of_single checked single ▸ enough), readElements, single,
    fieldBytes]
  rcases isText_iff.mp text with kind | kind
  all_goals
    rw [kind]
    cases shown : f.textOf (octets c.data c.position (f.bits / 8)) with
    | error e =>
      rw [shown] at run
      exact Attempt.bind_error (Attempt.bind_error run _) _
    | ok t =>
      rw [shown] at run
      refine (Attempt.bind_ok (Attempt.bind_ok run _) _).trans ?_
      by_cases empty : t = ""
      · simp [Attempt.pure_apply, Except.map, textDatum, nullDatum, empty, kind]
      · simp [Attempt.pure_apply, Except.map, textDatum, empty, kind, textValue, Datum.ofValue]

/-- Text may be in any encoding. -/
theorem check_of_encoding (checked : f.check = .ok ()) (text : f.kind.isText)
    (encoding : Option TextEncoding) : { f with encoding := encoding }.check = .ok () := by
  obtain ⟨nonzero, fits, sequence, finite, scaled, -, width⟩ := check_eq_ok_iff.mp checked
  exact check_eq_ok_iff.mpr ⟨nonzero, fits, sequence, finite, scaled, fun _ => text, width⟩

/-- What is text in ASCII is the same text in any encoding. -/
theorem decode_of_ascii (checked : f.check = .ok ()) (single : f.count = none)
    (text : f.kind.isText) (ascii : f.encoding = some .ascii) {d : Datum} {u : Cursor}
    (decoded : f.decode c = (.ok d, u)) (encoding : Option TextEncoding) :
    { f with encoding := encoding }.decode c = (.ok d, u) := by
  have enough : f.bits ≤ c.available :=
    extent_of_single checked single ▸ (enough_of_decode decoded).2
  rw [decode_eq_of_text checked single text enough] at decoded
  cases shown : f.textOf (f.fieldBytes c) with
  | error e =>
    rw [shown] at decoded
    cases decoded
  | ok t =>
    have shows := textOf_eq_ok_iff.mp shown
    have also : { f with encoding := encoding }.textOf (f.fieldBytes c) = .ok t :=
      textOf_of_shows ⟨fun _ => shows.ascii ascii, shows.text⟩
    calc { f with encoding := encoding }.decode c
        = (({ f with encoding := encoding }.textOf (f.fieldBytes c)).map f.textDatum,
            c.advance f.bits enough) :=
          decode_eq_of_text (check_of_encoding checked text encoding) single text enough
      _ = ((f.textOf (f.fieldBytes c)).map f.textDatum, c.advance f.bits enough) := by
          rw [also, shown]
      _ = (.ok d, u) := decoded

/-- The cursor passes a single text field that is all there, whatever comes of it, and that is a
matter of the bytes that count. They are refused for the first that is not in ASCII, or as the
encoding of no text, but never for what the encoding of the field does not ask for. Otherwise the
field holds what they show, and is null if that is empty. So it does not matter what comes behind
a zero byte that ends the text; and whatever is text in ASCII is the same text in any encoding. -/
theorem decode_of_text (checked : f.check = .ok ()) (single : f.count = none)
    (text : f.kind.isText) :
    (∀ (c : Cursor) (enough : f.bits ≤ c.available), ∃ bytes,
      (∀ counted, f.Counted (f.fieldBytes c) counted ↔ counted = bytes) ∧
      (f.decode c).2 = c.advance f.bits enough ∧
      (∀ e, (f.decode c).1 = .error e ↔ f.Refuses bytes e) ∧
      ∀ d, (f.decode c).1 = .ok d ↔ ∃ t, f.Shows bytes t ∧ d = f.textDatum t) ∧
    (f.zeroTerminated = some true → ∀ (c c' : Cursor) (head tail tail' : List UInt8),
      f.bits ≤ c.available → f.bits ≤ c'.available →
      f.fieldBytes c = head ++ 0 :: tail → f.fieldBytes c' = head ++ 0 :: tail' →
      (f.decode c).1 = (f.decode c').1) ∧
    (f.encoding = some .ascii → ∀ (c u : Cursor) (d : Datum) (encoding : Option TextEncoding),
      f.decode c = (.ok d, u) → { f with encoding := encoding }.decode c = (.ok d, u)) := by
  refine ⟨fun c enough => ⟨f.textBytes (f.fieldBytes c), fun _ => counted_iff, ?_, ?_, ?_⟩,
    fun ends c c' head tail tail' enough enough' here there => ?_,
    fun ascii c u d encoding decoded =>
      decode_of_ascii checked single text ascii decoded encoding⟩
  · rw [decode_eq_of_text checked single text enough]
  · intro e
    rw [decode_eq_of_text checked single text enough, ← textOf_eq_error_iff]
    cases f.textOf (f.fieldBytes c) <;> simp [Except.map]
  · intro d
    rw [decode_eq_of_text checked single text enough]
    simp only [← textOf_eq_ok_iff]
    cases f.textOf (f.fieldBytes c) <;> simp [Except.map, eq_comm]
  · have same : f.textOf (f.fieldBytes c) = f.textOf (f.fieldBytes c') := by
      rw [textOf, textOf, here, there, textBytes_of_zero ends, textBytes_of_zero ends]
    rw [decode_eq_of_text checked single text enough, decode_eq_of_text checked single text enough',
      same]

private def station : FieldFormat :=
  { kind := .scalar .date, bits := 48, encoding := some .ascii, zeroTerminated := some true,
    trim := some true }

private def platform : Cursor := ⟨#[0xF2, 0x05, 0x36, 0x60, 0x0C, 0x32, 0x8F], 4, by decide⟩

/-- A name between a blank and a zero byte, which starts within a byte and has bytes behind it
that are text in no encoding. -/
theorem decode_of_station : ∃ behind : 48 ≤ platform.available,
    station.decode platform =
        (.ok ⟨⟨.scalar .date, "Sf"⟩, true, none⟩, platform.advance 48 behind) ∧
      { station with encoding := none }.decode platform =
        (.ok ⟨⟨.scalar .date, "Sf"⟩, true, none⟩, platform.advance 48 behind) := by
  obtain ⟨outcome, -, otherwise⟩ := decode_of_text (f := station) (by rfl) rfl (by rfl)
  obtain ⟨bytes, counted, behind, -, shown⟩ := outcome platform (by decide)
  have all : station.fieldBytes platform = [0x20, 0x53, 0x66] ++ 0 :: [0xC3, 0x28] := by decide
  obtain rfl : [0x20, 0x53, 0x66] = bytes :=
    (counted _).mp (all ▸ .ended _ _ rfl (by decide))
  have trims : Text.Trims " Sf" "Sf" := Text.trims_iff.mpr (by rfl)
  have shows : station.Shows [0x20, 0x53, 0x66] "Sf" :=
    ⟨fun _ => by simp, " Sf", by decide, trims⟩
  have enough : 48 ≤ platform.available := by decide
  have decoded : station.decode platform =
      (.ok ⟨⟨.scalar .date, "Sf"⟩, true, none⟩, platform.advance 48 enough) :=
    Prod.ext ((shown _).mpr ⟨"Sf", shows, rfl⟩) behind
  exact ⟨enough, decoded, otherwise rfl _ _ _ none decoded⟩

end PackedRecords.FieldFormat
