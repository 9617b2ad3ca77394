import PackedRecords.Store

/-!
A store in memory. It looks at every column before it takes anything, numbers the rows
of each entity from 1 on, and keeps what it has accepted.
-/

namespace PackedRecords

structure MemoryStore where
  unsupported : List Kind
  /-- The identifier that the next row of an entity gets. -/
  nextIds : NameMap Nat
  /-- What was accepted, oldest first. -/
  accepted : List Submission

namespace MemoryStore

def empty : MemoryStore := ⟨[], .empty, []⟩

/-- A store that refuses columns of a kind. -/
def without (s : MemoryStore) (kind : Kind) : MemoryStore :=
  { s with unsupported := kind :: s.unsupported }

/-- What keeps a column from being stored. -/
def fault? (s : MemoryStore) (rowCount : Nat) (attr : String) (c : Column) :
    Option StoreFault :=
  if c.kind ∈ s.unsupported then some (.unsupportedKind attr c.kind)
  else if c.values.kind ≠ c.kind then
    some (.rejected ("column " ++ Text.quote attr ++ " declares " ++ c.kind.name ++
      " but holds " ++ c.values.kind.name))
  else if c.validity.size ≠ rowCount ∨ c.values.size ≠ rowCount then
    some (.rejected ("column " ++ Text.quote attr ++ " has " ++
      toString c.values.size ++ " values for " ++ toString rowCount ++ " rows"))
  else none

/-- The fault of the first faulty column, in the order of the names. -/
def check (s : MemoryStore) (request : Submission) : Option StoreFault :=
  request.columns.entries.findSome? fun (attr, c) => s.fault? request.rowCount attr c

def nextId (s : MemoryStore) (entity : String) : Nat := (s.nextIds.get? entity).getD 1

def insert (request : Submission) : Attempt StoreFault MemoryStore (List Nat) := fun s =>
  match s.check request with
  | some e => (.error e, s)
  | none =>
    let first := s.nextId request.entity
    (.ok (List.range' first request.rowCount), { s with
      nextIds := s.nextIds.insert request.entity (first + request.rowCount)
      accepted := s.accepted ++ [request] })

instance : Store MemoryStore := ⟨insert⟩

end MemoryStore

end PackedRecords
