import PackedRecords.Catalog

/-!
A catalog over a source that asks for each declaration until it gets it, and never
again: what has once been loaded answers every later question.
-/

namespace PackedRecords

structure CachedCatalog (L : Type) where
  source : L
  entities : NameMap Entity
  enumerations : NameMap Enumeration

namespace CachedCatalog

variable {L : Type}

def ofSource (source : L) : CachedCatalog L := ⟨source, .empty, .empty⟩

/-- The number of entities held. -/
def entityCount (c : CachedCatalog L) : Nat := c.entities.size

section Memory

variable {α : Type} {name : String} {held : NameMap α}

/-- What was loaded is held from then on. A failure is not. -/
def keep (name : String) (held : NameMap α) : Except CatalogFault α → NameMap α
  | .ok x => held.insert name x
  | .error _ => held

/-- What is held under a name, or else what is loaded for it. -/
def memoize (name : String) (load : Attempt CatalogFault L α) :
    Attempt CatalogFault (L × NameMap α) α := fun (source, held) =>
  match held.get? name with
  | some x => (.ok x, source, held)
  | none =>
    match load source with
    | (result, source) => (result, source, keep name held result)

theorem get?_keep (result : Except CatalogFault α) (other : String) :
    (keep name held result).get? other =
      if other = name then result.toOption.or (held.get? other) else held.get? other := by
  cases result with
  | ok x => simp [keep, NameMap.get?_insert, Except.toOption]
  | error e => simp [keep, Except.toOption]

theorem memoize_of_held {x : α} (there : held.get? name = some x)
    (load : Attempt CatalogFault L α) (source : L) :
    memoize name load (source, held) = (.ok x, source, held) := by
  simp only [memoize, there]

theorem memoize_of_missing (missing : held.get? name = none) (load : Attempt CatalogFault L α)
    (source : L) :
    memoize name load (source, held) =
      ((load source).1, (load source).2, keep name held (load source).1) := by
  simp only [memoize, missing]

end Memory

variable [CatalogSource L]

def entity (name : String) : Attempt CatalogFault (CachedCatalog L) Entity := fun c =>
  match memoize name (CatalogSource.entityNamed name) (c.source, c.entities) with
  | (result, source, entities) => (result, { c with source, entities })

def enumeration (name : String) : Attempt CatalogFault (CachedCatalog L) Enumeration := fun c =>
  match memoize name (CatalogSource.enumerationNamed name) (c.source, c.enumerations) with
  | (result, source, enumerations) => (result, { c with source, enumerations })

section Declarations

variable {c : CachedCatalog L} {name : String}

theorem entity_of_held {e : Entity} (there : c.entities.get? name = some e) :
    entity name c = (.ok e, c) := by
  simp only [entity, memoize_of_held there]

theorem entity_of_missing (missing : c.entities.get? name = none) :
    entity name c = ((CatalogSource.entityNamed name c.source).1, { c with
      source := (CatalogSource.entityNamed name c.source).2
      entities := keep name c.entities (CatalogSource.entityNamed name c.source).1 }) := by
  simp only [entity, memoize_of_missing missing]

theorem enumeration_of_held {e : Enumeration} (there : c.enumerations.get? name = some e) :
    enumeration name c = (.ok e, c) := by
  simp only [enumeration, memoize_of_held there]

theorem enumeration_of_missing (missing : c.enumerations.get? name = none) :
    enumeration name c = ((CatalogSource.enumerationNamed name c.source).1, { c with
      source := (CatalogSource.enumerationNamed name c.source).2
      enumerations :=
        keep name c.enumerations (CatalogSource.enumerationNamed name c.source).1 }) := by
  simp only [enumeration, memoize_of_missing missing]

end Declarations

def attributeOf (entityName name : String) : Attempt CatalogFault (CachedCatalog L) Attribute := do
  let e ← entity entityName
  match e.attribute? name with
  | some a => pure a
  | none => Attempt.fail (.unknownAttribute entityName name)

def codeOf (enumerationName literal : String) : Attempt CatalogFault (CachedCatalog L) Int32 := do
  let e ← enumeration enumerationName
  match e.code? literal with
  | some code => pure code
  | none => Attempt.fail (.unknownLiteral enumerationName literal)

def literalOf (enumerationName : String) (code : Int32) :
    Attempt CatalogFault (CachedCatalog L) String := do
  let e ← enumeration enumerationName
  match e.literal? code with
  | some literal => pure literal
  | none => Attempt.fail (.unknownCode enumerationName code)

instance : Catalog (CachedCatalog L) where
  kindOf entity name := do pure (← attributeOf entity name).kind
  isIdentity entity name := do pure (← attributeOf entity name).identity
  codeOf := codeOf
  literalOf := literalOf

end CachedCatalog

end PackedRecords
