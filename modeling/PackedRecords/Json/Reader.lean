import PackedRecords.Json.Parse

/-!
Getting typed parts out of a JSON value. A reader gives nothing for a value of another
shape; what may be absent is read from an optional value.
-/

namespace PackedRecords.Json

/-- How deep arrays and objects are nested. -/
def depth : Json → Nat
  | .array items => depthItems items + 1
  | .object members => depthMembers members + 1
  | _ => 0
where
  depthItems : List Json → Nat
    | [] => 0
    | item :: rest => max item.depth (depthItems rest)
  depthMembers : List (Option String × Json) → Nat
    | [] => 0
    | (_, item) :: rest => max item.depth (depthMembers rest)

/-- Whether every string is text and every number has a finite double. -/
def isSound : Json → Bool
  | .string s => s.isSome
  | .number n => n.toBinary64?.isSome
  | .array items => allItems items
  | .object members => allMembers members
  | _ => true
where
  allItems : List Json → Bool
    | [] => true
    | item :: rest => item.isSound && allItems rest
  allMembers : List (Option String × Json) → Bool
    | [] => true
    | (key, item) :: rest => key.isSome && item.isSound && allMembers rest

def bool? : Json → Option Bool
  | .bool b => some b
  | _ => none

def text? : Json → Option String
  | .string s => s
  | _ => none

def word? : Json → Option Nat
  | .number n => n.toWord?
  | _ => none

def binary32? : Json → Option Binary32
  | .number n => n.toBinary32?
  | _ => none

def binary64? : Json → Option Binary64
  | .number n => n.toBinary64?
  | _ => none

/-- Reads a part that must be there. -/
def required {α : Type} (read : Json → Option α) (part : Option Json) : Option α :=
  part.bind read

/-- Reads a part that may be absent or null. -/
def optional {α : Type} (read : Json → Option α) : Option Json → Option (Option α)
  | none => some none
  | some .null => some none
  | some j => (read j).map some

/-- Reads a part that may be absent, but not null. -/
def orElse {α : Type} (fallback : α) (read : Json → Option α) : Option Json → Option α
  | none => some fallback
  | some j => read j

/-- The members of an object by key. Every key must be text, and no known key may
come twice. -/
def distinct? (known : List String) (members : List (Option String × Json)) :
    Option (List (String × Json)) := do
  let named ← members.mapM fun (key, item) => key.map (·, item)
  if known.all fun key => named.countP (·.1 = key) ≤ 1 then some named else none

/-- The parts of a structure: an object by its keys, or an array in the same order
of which the end may be missing. -/
def parts? (keys : List String) : Json → Option (List (Option Json))
  | .object members => (distinct? keys members).map fun named =>
    keys.map fun key => named.lookup key
  | .array items =>
    if items.length ≤ keys.length then
      some (items.map some ++ List.replicate (keys.length - items.length) none)
    else none
  | _ => none

end PackedRecords.Json
