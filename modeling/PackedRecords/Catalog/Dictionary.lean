import PackedRecords.Catalog

/-! A source that holds all its declarations in memory. -/

namespace PackedRecords

structure Dictionary where
  entities : NameMap Entity
  enumerations : NameMap Enumeration

namespace Dictionary

def empty : Dictionary := ⟨.empty, .empty⟩

def addEntity (d : Dictionary) (e : Entity) : Dictionary :=
  { d with entities := d.entities.insert e.name e }

def addEnumeration (d : Dictionary) (e : Enumeration) : Dictionary :=
  { d with enumerations := d.enumerations.insert e.name e }

def entity (d : Dictionary) (name : String) : Except CatalogFault Entity :=
  match d.entities.get? name with
  | some e => .ok e
  | none => .error (.unknownEntity name)

def enumeration (d : Dictionary) (name : String) : Except CatalogFault Enumeration :=
  match d.enumerations.get? name with
  | some e => .ok e
  | none => .error (.unknownEnumeration name)

instance : CatalogSource Dictionary where
  entityNamed name := fun d => (d.entity name, d)
  enumerationNamed name := fun d => (d.enumeration name, d)

end Dictionary

end PackedRecords
