import PackedRecords.Proofs.Catalog.Loads

/-!
Enumerations in both directions. The last declaration of a literal says which code it has,
and the last declaration of a code which literal names it. Nothing keeps the two in step.

Proved here, for every sequence of declarations:

* `code?_declare`, `literal?_declare`: one declaration, which changes each direction at one
  place and leaves it otherwise;
* `consistent_declare_iff`, `consistent_of_single`: which declaration puts the directions out of
  step, and from there, by induction, that they stay in step if no literal moves;
* `lookup_ofItems`: in each direction, after any declarations, the last one counts, by induction
  on them; `code?_of_split` and `literal?_eq_some_iff` are what follows for either;
* `held_run`: a cached catalog does not let go of an enumeration, by induction on the calls;
* on top of them, what becomes of a code that is looked up as a literal and back.
-/

namespace PackedRecords

namespace Enumeration

variable {name literal : String} {code : Int32} {e : Enumeration}
  {items before after : List (String × Int32)}

/-- Who looks up the literal of a code, and then the code of that, is back where they began. -/
def Consistent (e : Enumeration) : Prop :=
  ∀ code literal, e.literal? code = some literal → e.code? literal = some code

/-- The enumeration of these declarations, in this order. -/
def ofItems (name : String) (items : List (String × Int32)) : Enumeration :=
  items.foldl (fun e item => e.declare item.1 item.2) (ofName name)

/-- The literal was the last to be declared with the code, and has been declared again since,
with another. -/
def Superseded (items : List (String × Int32)) (literal : String) (code : Int32) : Prop :=
  ∃ before after, items = before ++ (literal, code) :: after ∧
    (∀ item ∈ after, item.2 ≠ code) ∧ ∃ item ∈ after, item.1 = literal

/-! ## One declaration -/

theorem code?_declare (e : Enumeration) (literal : String) (code : Int32) (other : String) :
    (e.declare literal code).code? other =
      if other = literal then some code else e.code? other :=
  NameMap.get?_insert e.codes literal other code

theorem literal?_declare (e : Enumeration) (literal : String) (code other : Int32) :
    (e.declare literal code).literal? other =
      if other = code then some literal else e.literal? other := by
  rw [declare, literal?, literal?, List.lookup_cons]
  by_cases same : other = code
  · simp [same]
  · simp [same, beq_false_of_ne same]

/-- The directions stay in step exactly if the literal does not name another code. -/
theorem consistent_declare_iff (consistent : e.Consistent) (literal : String) (code : Int32) :
    (e.declare literal code).Consistent ↔
      ∀ former, e.literal? former = some literal → former = code := by
  constructor
  · intro next former named
    by_contra moved
    have kept : (e.declare literal code).literal? former = some literal := by
      rw [literal?_declare, if_neg moved, named]
    have given := next former literal kept
    rw [code?_declare, if_pos rfl] at given
    cases given
    exact moved rfl
  · intro own former named there
    rw [literal?_declare] at there
    rw [code?_declare]
    by_cases same : former = code
    · rw [if_pos same] at there
      cases there
      rw [if_pos rfl, same]
    · rw [if_neg same] at there
      have different : named ≠ literal := by
        rintro rfl
        exact same (own former there)
      rw [if_neg different, consistent former named there]

/-! ## Any declarations -/

theorem ofItems_concat (name : String) (items : List (String × Int32)) (item : String × Int32) :
    ofItems name (items ++ [item]) = (ofItems name items).declare item.1 item.2 :=
  List.foldl_append

/-- In either direction: if a declaration answers some lookups and leaves the others as they are,
the last to answer counts. -/
theorem lookup_ofItems {β : Type} (look : Enumeration → Option β) {hit : String × Int32 → Bool}
    {answer : String × Int32 → β} (start : look (ofName name) = none)
    (step : ∀ (e : Enumeration) (item : String × Int32),
      look (e.declare item.1 item.2) = if hit item then some (answer item) else look e)
    (items : List (String × Int32)) :
    look (ofItems name items) = (items.reverse.find? hit).map answer := by
  induction items using List.reverseRecOn with
  | nil => exact start
  | append_singleton items item ih =>
    rw [ofItems_concat, step, ih, List.reverse_append, List.reverse_singleton,
      List.singleton_append, List.find?_cons]
    cases hit item <;> rfl

theorem code?_ofItems (name : String) (items : List (String × Int32)) (literal : String) :
    (ofItems name items).code? literal = (items.reverse.find? (·.1 = literal)).map Prod.snd :=
  lookup_ofItems (code? · literal) rfl
    (fun e item => by simp [code?_declare, eq_comm (a := literal)]) items

theorem literal?_ofItems (name : String) (items : List (String × Int32)) (code : Int32) :
    (ofItems name items).literal? code = (items.reverse.find? (·.2 = code)).map Prod.fst :=
  lookup_ofItems (literal? · code) rfl
    (fun e item => by simp [literal?_declare, eq_comm (a := code)]) items

theorem code?_eq_none_iff :
    (ofItems name items).code? literal = none ↔ ∀ item ∈ items, item.1 ≠ literal := by
  simp [code?_ofItems]

theorem mem_of_code? (found : (ofItems name items).code? literal = some code) :
    (literal, code) ∈ items := by
  rw [code?_ofItems, Option.map_eq_some_iff] at found
  obtain ⟨item, last, rfl⟩ := found
  obtain rfl : item.1 = literal := by simpa using List.find?_some last
  exact List.mem_reverse.mp (List.mem_of_find?_eq_some last)

/-- Behind a declaration of a literal only others of the same literal count. -/
theorem code?_of_split (name literal : String) (code : Int32)
    (before after : List (String × Int32)) :
    (ofItems name (before ++ (literal, code) :: after)).code? literal =
      some (((ofItems name after).code? literal).getD code) := by
  rw [code?_ofItems, code?_ofItems, List.reverse_append, List.reverse_cons, List.append_assoc,
    List.find?_append]
  cases after.reverse.find? (·.1 = literal) with
  | none => simp
  | some item => rfl

/-- The last declaration of a code says which literal names it. -/
theorem literal?_eq_some_iff :
    (ofItems name items).literal? code = some literal ↔
      ∃ before after, items = before ++ (literal, code) :: after ∧
        ∀ item ∈ after, item.2 ≠ code := by
  rw [literal?_ofItems, Option.map_eq_some_iff]
  constructor
  · rintro ⟨⟨literal, code'⟩, last, rfl⟩
    obtain ⟨here, newer, older, split, others⟩ := List.find?_eq_some_iff_append.mp last
    obtain rfl : code' = code := by simpa using here
    refine ⟨older.reverse, newer.reverse, ?_, by simpa using others⟩
    rw [← List.reverse_reverse items, split]
    simp
  · rintro ⟨before, after, rfl, others⟩
    refine ⟨(literal, code), List.find?_eq_some_iff_append.mpr ⟨by simp, after.reverse,
      before.reverse, by simp, by simpa using others⟩, rfl⟩

theorem mem_of_literal? (named : (ofItems name items).literal? code = some literal) :
    (literal, code) ∈ items := by
  obtain ⟨before, after, rfl, -⟩ := literal?_eq_some_iff.mp named
  simp

theorem consistent_of_single
    (single : ∀ literal code code', (literal, code) ∈ items → (literal, code') ∈ items →
      code = code') : (ofItems name items).Consistent := by
  induction items using List.reverseRecOn with
  | nil => exact fun code literal found => nomatch found
  | append_singleton items item ih =>
    have before : (ofItems name items).Consistent :=
      ih fun literal code code' there there' =>
        single literal code code' (by simp [there]) (by simp [there'])
    rw [ofItems_concat, consistent_declare_iff before]
    intro former named
    exact single item.1 former item.2 (by simp [mem_of_literal? named]) (by simp)

/-- Behind the last declaration of a code, a declaration of its literal gives that another. -/
theorem code?_of_last (others : ∀ item ∈ after, item.2 ≠ code) :
    (ofItems name (before ++ (literal, code) :: after)).code? literal = some code ↔
      ¬∃ item ∈ after, item.1 = literal := by
  rw [code?_of_split]
  cases later : (ofItems name after).code? literal with
  | none =>
    have untouched := code?_eq_none_iff.mp later
    simpa using fun code mem => untouched (literal, code) mem rfl
  | some last =>
    have there := mem_of_code? later
    have moved : last ≠ code := others _ there
    simpa [moved] using ⟨last, there⟩

/-- A literal that names a code was declared with it, and with others since if it does not have
the code any more. -/
theorem code?_of_literal? (named : (ofItems name items).literal? code = some literal) :
    ∃ last, (ofItems name items).code? literal = some last ∧
      (last = code ↔ ¬Superseded items literal code) := by
  obtain ⟨before, after, rfl, others⟩ := literal?_eq_some_iff.mp named
  refine ⟨_, code?_of_split name literal code before after, ?_⟩
  rw [← Option.some_inj, ← code?_of_split name literal code before after]
  constructor
  · rintro back ⟨before', after', split, others', again⟩
    rw [split, code?_of_last others'] at back
    exact back again
  · intro current
    exact (code?_of_last others).mpr fun again => current ⟨before, after, rfl, others, again⟩

theorem consistent_iff :
    (ofItems name items).Consistent ↔ ∀ literal code, ¬Superseded items literal code := by
  constructor
  · rintro consistent literal code ⟨before, after, rfl, others, again⟩
    refine (code?_of_last others).mp (consistent code literal ?_) again
    exact literal?_eq_some_iff.mpr ⟨before, after, rfl, others⟩
  · intro current code literal named
    obtain ⟨last, found, back⟩ := code?_of_literal? named
    rw [found, back.mpr (current literal code)]

end Enumeration

/-! ## Cached catalogs -/

namespace CachedCatalog

variable {L : Type} [CatalogSource L] {c t : CachedCatalog L} {name literal : String}
  {code : Int32} {e : Enumeration}

theorem held_of_enumeration (loaded : enumeration name c = (.ok e, t)) :
    t.enumerations.get? name = some e := by
  cases there : c.enumerations.get? name with
  | some held =>
    rw [enumeration_of_held there] at loaded
    cases loaded
    exact there
  | none =>
    rw [enumeration_of_missing there, Prod.mk.injEq] at loaded
    obtain ⟨gave, rfl⟩ := loaded
    show (keep name c.enumerations _).get? name = _
    rw [get?_keep, if_pos rfl, gave]
    rfl

theorem held_perform (held : c.enumerations.get? name = some e) (call : Call) :
    (call.perform c).2.enumerations.get? name = some e := by
  cases call with
  | entity other q =>
    rw [Call.perform_entity]
    cases there : c.entities.get? other with
    | some found =>
      rw [entity_of_held there]
      exact held
    | none =>
      rw [entity_of_missing there]
      exact held
  | enumeration other q =>
    rw [Call.perform_enumeration]
    cases there : c.enumerations.get? other with
    | some found =>
      rw [enumeration_of_held there]
      exact held
    | none =>
      have different : name ≠ other := by
        rintro rfl
        cases held.symm.trans there
      rw [enumeration_of_missing there]
      show (keep other c.enumerations _).get? name = _
      rw [get?_keep, if_neg different, held]

theorem held_run (held : c.enumerations.get? name = some e) (calls : List Call) :
    (run calls c).enumerations.get? name = some e := by
  induction calls generalizing c with
  | nil => exact held
  | cons call calls ih => exact ih (held_perform held call)

theorem literal?_of_literalOf (loaded : (enumeration name c).1 = .ok e)
    (found : literalOf name code c = (.ok literal, t)) :
    e.literal? code = some literal ∧ t.enumerations.get? name = some e := by
  cases step : enumeration name c with
  | mk result next =>
    rw [step] at loaded
    cases loaded
    rw [literalOf, Attempt.bind_ok step] at found
    cases named : e.literal? code with
    | none =>
      rw [named] at found
      cases found
    | some other =>
      rw [named] at found
      cases found
      exact ⟨rfl, held_of_enumeration step⟩

theorem codeOf_of_held (held : c.enumerations.get? name = some e)
    (found : e.code? literal = some code) : codeOf name literal c = (.ok code, c) := by
  rw [codeOf, Attempt.bind_ok (enumeration_of_held held), found]
  rfl

end CachedCatalog

namespace Enumeration

/-- A literal that an enumeration gives for a code has a code itself. It is the same one, unless
the literal has been declared again, with another code, since it was the last to be declared with
this one. So the directions are in step exactly if there is no such literal; for one, if each
literal is only ever declared with one code. Through a cached catalog nothing is different,
whatever it is asked in between. -/
theorem code?_after_literal? (name : String) (items : List (String × Int32)) :
    (∀ code literal, (ofItems name items).literal? code = some literal →
      ∃ last, (ofItems name items).code? literal = some last ∧
        (last = code ↔ ¬Superseded items literal code)) ∧
    ((ofItems name items).Consistent ↔ ∀ literal code, ¬Superseded items literal code) ∧
    ((∀ literal code code', (literal, code) ∈ items → (literal, code') ∈ items → code = code') →
      (ofItems name items).Consistent) ∧
    ∀ {L : Type} [CatalogSource L] (c t : CachedCatalog L) (named : String) (code : Int32)
      (literal : String),
      (CachedCatalog.enumeration named c).1 = .ok (ofItems name items) →
      CachedCatalog.literalOf named code c = (.ok literal, t) →
      ∀ calls, ∃ last,
        (CachedCatalog.codeOf named literal (CachedCatalog.run calls t)).1 = .ok last ∧
        (last = code ↔ ¬Superseded items literal code) := by
  refine ⟨fun code literal => code?_of_literal?, consistent_iff, consistent_of_single, ?_⟩
  intro L _ c t named code literal loaded found calls
  obtain ⟨given, held⟩ := CachedCatalog.literal?_of_literalOf loaded found
  obtain ⟨last, back, same⟩ := code?_of_literal? given
  exact ⟨last, by rw [CachedCatalog.codeOf_of_held (CachedCatalog.held_run held calls) back], same⟩

private def served (items : List (String × Int32)) : CachedCatalog Dictionary :=
  .ofSource (Dictionary.empty.addEnumeration (ofItems "grade" items))

/-- The literal of a former code has another: the directions of this enumeration are not in
step, nor are they through a cached catalog. -/
theorem literal_of_former_code :
    (ofItems "grade" [("a", 1), ("a", 2)]).literal? 1 = some "a" ∧
    (ofItems "grade" [("a", 1), ("a", 2)]).code? "a" = some 2 ∧
    ¬(ofItems "grade" [("a", 1), ("a", 2)]).Consistent ∧
    ∃ t, CachedCatalog.literalOf "grade" 1 (served [("a", 1), ("a", 2)]) = (.ok "a", t) ∧
      (CachedCatalog.codeOf "grade" "a" t).1 = .ok 2 := by
  have named : (ofItems "grade" [("a", 1), ("a", 2)]).literal? 1 = some "a" := by decide
  have moved : (ofItems "grade" [("a", 1), ("a", 2)]).code? "a" = some 2 := by decide
  refine ⟨named, moved, fun consistent => ?_, _, rfl, by rfl⟩
  exact absurd (moved.symm.trans (consistent 1 "a" named)) (by decide)

/-- Two literals that share a code, of which the second names it; and a literal that has left a
code, which the other has taken over. -/
theorem literal_of_shared_code :
    (ofItems "grade" [("a", 1), ("b", 1), ("a", 2)]).literal? 1 = some "b" ∧
    (∃ t, CachedCatalog.literalOf "grade" 1 (served [("a", 1), ("b", 1), ("a", 2)]) = (.ok "b", t) ∧
      ∃ last, (CachedCatalog.codeOf "grade" "b" (CachedCatalog.run
        [.enumeration "grade" (.codeOf "a"), .entity "x" .declaration] t)).1 = .ok last ∧
      (last = 1 ↔ ¬Superseded [("a", 1), ("b", 1), ("a", 2)] "b" 1)) ∧
    (ofItems "grade" [("a", 1), ("b", 1)]).Consistent := by
  refine ⟨by decide, ⟨_, rfl, ?_⟩, ?_⟩
  · exact (code?_after_literal? "grade" [("a", 1), ("b", 1), ("a", 2)]).2.2.2
      (served [("a", 1), ("b", 1), ("a", 2)]) _ "grade" 1 "b" (by rfl) rfl _
  · refine (code?_after_literal? "grade" [("a", 1), ("b", 1)]).2.2.1 fun literal code code' => ?_
    simp only [List.mem_cons, List.not_mem_nil, or_false, Prod.mk.injEq]
    rintro (⟨-, rfl⟩ | ⟨-, rfl⟩) (⟨-, rfl⟩ | ⟨-, rfl⟩) <;> rfl

end Enumeration

end PackedRecords
