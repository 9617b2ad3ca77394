import PackedRecords.Catalog.Cached
import PackedRecords.Catalog.Dictionary
import PackedRecords.Proofs.Simulation

/-!
Catalogs whose answers are functions of what they are asked. Such a catalog may change
as it is used, as one that loads declarations does, but not so that an answer changes.

Proved here:

* `CachedCatalog.faithful_steady`: a cached catalog over a fixed dictionary is one, with
  "whatever is held is what the dictionary declares" as the invariant.
-/

namespace PackedRecords

namespace Catalog

/-- Answers about attributes, as functions of the names. -/
structure Answers where
  kind (entity attr : String) : Except CatalogFault Kind
  identity (entity attr : String) : Except CatalogFault Bool

/-- A catalog that gives these answers while `known` holds of its state, which no question
ends. -/
structure Steady (C : Type) [Catalog C] (known : C → Prop) (answers : Answers) : Prop where
  kindOf : ∀ entity attr,
    Attempt.Gives known (Catalog.kindOf (C := C) entity attr) (answers.kind entity attr)
  isIdentity : ∀ entity attr,
    Attempt.Gives known (Catalog.isIdentity (C := C) entity attr) (answers.identity entity attr)
  codeOf : ∀ enumeration literal,
    Attempt.Keeps known (Catalog.codeOf (C := C) enumeration literal)

/-- A catalog that gives these answers about one attribute, whatever it says of others. -/
structure Answering (C : Type) [Catalog C] (known : C → Prop) (answers : Answers)
    (entity attr : String) : Prop where
  kindOf :
    Attempt.Gives known (Catalog.kindOf (C := C) entity attr) (answers.kind entity attr)
  isIdentity :
    Attempt.Gives known (Catalog.isIdentity (C := C) entity attr) (answers.identity entity attr)

theorem Steady.answering {C : Type} [Catalog C] {known : C → Prop} {answers : Answers}
    (steady : Steady C known answers) (entity attr : String) :
    Answering C known answers entity attr :=
  ⟨steady.kindOf entity attr, steady.isIdentity entity attr⟩

end Catalog

/-! ## A cached dictionary -/

namespace Dictionary

def attributeOf (d : Dictionary) (entity attr : String) : Except CatalogFault Attribute := do
  let e ← d.entity entity
  match e.attribute? attr with
  | some a => pure a
  | none => .error (.unknownAttribute entity attr)

/-- What the dictionary declares. -/
def answers (d : Dictionary) : Catalog.Answers where
  kind entity attr := do pure (← d.attributeOf entity attr).kind
  identity entity attr := do pure (← d.attributeOf entity attr).identity

end Dictionary

namespace CachedCatalog

/-- The catalog is over this dictionary, and has its entities from there. -/
structure Faithful (d : Dictionary) (c : CachedCatalog Dictionary) : Prop where
  source : c.source = d
  entities : ∀ name e, c.entities.get? name = some e → d.entity name = .ok e

theorem ofSource_faithful (d : Dictionary) : Faithful d (.ofSource d) :=
  ⟨rfl, fun _ _ held => nomatch held⟩

theorem entity_gives (d : Dictionary) (name : String) :
    Attempt.Gives (Faithful d) (entity name) (d.entity name) := by
  intro c faithful
  cases held : c.entities.get? name with
  | some e => exact ⟨c, by rw [entity_of_held held, faithful.entities name e held], faithful⟩
  | none =>
    have loaded : CatalogSource.entityNamed name c.source = (d.entity name, d) := by
      rw [faithful.source]
      rfl
    refine ⟨_, by rw [entity_of_missing held, loaded], rfl, ?_⟩
    intro other e there
    rw [get?_keep] at there
    split at there
    · rename_i same
      subst same
      cases declared : d.entity other with
      | ok e' =>
        rw [declared] at there
        cases there
        rfl
      | error fault =>
        rw [declared] at there
        exact absurd (held.symm.trans there) (by simp)
    · exact faithful.entities other e there

theorem attributeOf_gives (d : Dictionary) (entity attr : String) :
    Attempt.Gives (Faithful d) (attributeOf entity attr) (d.attributeOf entity attr) := by
  apply (entity_gives d entity).bind
  intro e
  cases e.attribute? attr with
  | some a => exact Attempt.Gives.ofExcept (.ok a)
  | none => exact Attempt.Gives.ofExcept (.error _)

theorem enumeration_keeps (d : Dictionary) (name : String) :
    Attempt.Keeps (Faithful d) (enumeration name) := by
  intro c faithful
  cases held : c.enumerations.get? name with
  | some e =>
    rw [enumeration_of_held held]
    exact faithful
  | none =>
    rw [enumeration_of_missing held]
    refine ⟨?_, faithful.entities⟩
    show (CatalogSource.enumerationNamed name c.source).2 = d
    rw [faithful.source]
    rfl

theorem faithful_steady (d : Dictionary) :
    Catalog.Steady (CachedCatalog Dictionary) (Faithful d) d.answers where
  kindOf entity attr := (attributeOf_gives d entity attr).bind fun a => .ofExcept (.ok a.kind)
  isIdentity entity attr :=
    (attributeOf_gives d entity attr).bind fun a => .ofExcept (.ok a.identity)
  codeOf name literal := by
    apply (enumeration_keeps d name).bind
    intro e
    cases e.code? literal with
    | some code => exact .pure code
    | none => exact .fail _

end CachedCatalog

end PackedRecords
