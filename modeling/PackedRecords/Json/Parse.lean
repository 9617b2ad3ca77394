import PackedRecords.Json.Token

/-!
Reading a JSON text: its tokens, one after the other, drive a machine whose state
says what may come next and which arrays and objects are still open.
-/

namespace PackedRecords.Json

/-- An array or object that is still open, its newest part first. An object waits for
the value of the key it has just read. -/
inductive Unfinished where
  | array (items : List Json)
  | object (members : List (Option String × Json)) (key : Option String)

/-- What may come next. -/
inductive Expect where
  /-- A value. -/
  | value (outer : List Unfinished)
  /-- The first item of an array, or its end. -/
  | item (outer : List Unfinished)
  /-- The first key of an object, or its end. -/
  | firstKey (outer : List Unfinished)
  /-- A further key. -/
  | key (members : List (Option String × Json)) (outer : List Unfinished)
  | colon (members : List (Option String × Json)) (key : Option String)
      (outer : List Unfinished)
  /-- Whatever continues or closes the innermost open array or object. -/
  | next (last : Json) (outer : List Unfinished)

/-- Takes the first token of a value. -/
def Expect.enter (outer : List Unfinished) : Token → Option Expect
  | .atom v => some (.next v outer)
  | .string s => some (.next (.string s) outer)
  | .openArray => some (.item outer)
  | .openObject => some (.firstKey outer)
  | _ => none

def Expect.step : Expect → Token → Option Expect
  | .value outer, t => enter outer t
  | .item outer, .closeArray => some (.next (.array []) outer)
  | .item outer, t => enter (.array [] :: outer) t
  | .firstKey outer, .closeObject => some (.next (.object []) outer)
  | .firstKey outer, .string k => some (.colon [] k outer)
  | .key members outer, .string k => some (.colon members k outer)
  | .colon members k outer, .colon => some (.value (.object members k :: outer))
  | .next v (.array items :: outer), .comma => some (.value (.array (v :: items) :: outer))
  | .next v (.array items :: outer), .closeArray =>
    some (.next (.array (v :: items).reverse) outer)
  | .next v (.object members k :: outer), .comma => some (.key ((k, v) :: members) outer)
  | .next v (.object members k :: outer), .closeObject =>
    some (.next (.object ((k, v) :: members).reverse) outer)
  | _, _ => none

/-- Reads one value with nothing but blanks around it. -/
def parse? (text : String) : Option Json := do
  match ← (← tokens text.toList).foldlM Expect.step (.value []) with
  | .next v [] => some v
  | _ => none

end PackedRecords.Json
