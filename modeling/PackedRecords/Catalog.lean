import PackedRecords.Attempt
import PackedRecords.Catalog.Fault
import PackedRecords.Kind
import PackedRecords.NameMap

/-!
What a store declares: the attributes of its entities, and the literals of its
enumerations. A catalog answers questions about them; a source hands out whole
declarations, and either may fail and may change as it is used.
-/

namespace PackedRecords

structure Attribute where
  name : String
  kind : Kind
  /-- Assigned by the store, and never submitted to it. -/
  identity : Bool
deriving DecidableEq

structure Entity where
  name : String
  attributes : NameMap Attribute

/-- The literals of an enumeration and their codes, with a map for each direction. -/
structure Enumeration where
  name : String
  codes : NameMap Int32
  /-- Literals by code. The first entry of a code is the one that counts. -/
  literals : List (Int32 × String)

namespace Entity

def ofName (name : String) : Entity := ⟨name, .empty⟩

/-- Declares an attribute, in place of any of the same name. -/
def declare (e : Entity) (a : Attribute) : Entity :=
  { e with attributes := e.attributes.insert a.name a }

def attribute? (e : Entity) (name : String) : Option Attribute := e.attributes.get? name

def identity? (e : Entity) : Option Attribute := e.attributes.values.find? (·.identity)

end Entity

namespace Enumeration

def ofName (name : String) : Enumeration := ⟨name, .empty, []⟩

def declare (e : Enumeration) (literal : String) (code : Int32) : Enumeration :=
  { e with
    codes := e.codes.insert literal code
    literals := (code, literal) :: e.literals }

/-- The code that a literal was last declared with. -/
def code? (e : Enumeration) (literal : String) : Option Int32 := e.codes.get? literal

/-- The literal that a code was last declared for. -/
def literal? (e : Enumeration) (code : Int32) : Option String := e.literals.lookup code

end Enumeration

/-- Answers the questions that a writer asks. -/
class Catalog (C : Type) where
  kindOf (entity attr : String) : Attempt CatalogFault C Kind
  isIdentity (entity attr : String) : Attempt CatalogFault C Bool
  codeOf (enumeration literal : String) : Attempt CatalogFault C Int32
  literalOf (enumeration : String) (code : Int32) : Attempt CatalogFault C String

/-- Hands out declarations by name. -/
class CatalogSource (L : Type) where
  entityNamed (name : String) : Attempt CatalogFault L Entity
  enumerationNamed (name : String) : Attempt CatalogFault L Enumeration

end PackedRecords
