import PackedRecords.Json.Number

/-!
JSON values, and the tokens that a JSON text is made of. Object members keep their
order and repetitions: which keys may repeat is for the reader of an object to say.
-/

namespace PackedRecords

/-- A JSON value. A string is absent when an escape in it names one half of a
surrogate pair alone: such a string is no sequence of characters. -/
inductive Json where
  | null
  | bool (b : Bool)
  | number (n : Json.Number)
  | string (s : Option String)
  | array (items : List Json)
  | object (members : List (Option String × Json))

namespace Json

inductive Token where
  | openArray | closeArray | openObject | closeObject | comma | colon
  | string (s : Option String)
  | atom (value : Json)

def isSpace (c : Char) : Bool := c = ' ' || c = '\t' || c = '\n' || c = '\r'

def punctuation : Char → Option Token
  | '[' => some .openArray
  | ']' => some .closeArray
  | '{' => some .openObject
  | '}' => some .closeObject
  | ',' => some .comma
  | ':' => some .colon
  | _ => none

/-! ## Strings -/

/-- What a string is written as: a character, or a 16-bit code unit in an escape. -/
inductive Piece where
  | char (c : Char)
  | unit (u : Nat)

def hexDigit (c : Char) : Option Nat :=
  if '0' ≤ c ∧ c ≤ '9' then some (c.toNat - '0'.toNat)
  else if 'a' ≤ c ∧ c ≤ 'f' then some (c.toNat - 'a'.toNat + 10)
  else if 'A' ≤ c ∧ c ≤ 'F' then some (c.toNat - 'A'.toNat + 10)
  else none

def hexUnit (a b c d : Char) : Option Nat := do
  some ((((← hexDigit a) * 16 + (← hexDigit b)) * 16 + (← hexDigit c)) * 16 + (← hexDigit d))

def escaped : Char → Option Char
  | '"' => some '"'
  | '\\' => some '\\'
  | '/' => some '/'
  | 'b' => some '\x08'
  | 'f' => some '\x0c'
  | 'n' => some '\n'
  | 'r' => some '\r'
  | 't' => some '\t'
  | _ => none

/-- The pieces of a string up to its closing quote, and the text after that. -/
def splitString : List Char → Option (List Piece × List Char)
  | '"' :: rest => some ([], rest)
  | '\\' :: 'u' :: a :: b :: c :: d :: rest =>
    match hexUnit a b c d, splitString rest with
    | some u, some (pieces, after) => some (.unit u :: pieces, after)
    | _, _ => none
  | '\\' :: e :: rest =>
    match escaped e, splitString rest with
    | some c, some (pieces, after) => some (.char c :: pieces, after)
    | _, _ => none
  | c :: rest =>
    if c = '\\' ∨ c.toNat < 0x20 then none
    else
      match splitString rest with
      | some (pieces, after) => some (.char c :: pieces, after)
      | none => none
  | [] => none

theorem splitString_length {s after : List Char} {pieces : List Piece}
    (h : splitString s = some (pieces, after)) : after.length < s.length := by
  fun_induction splitString s generalizing pieces <;>
    simp only [List.length_cons, List.length_nil] <;> grind

def isHighUnit (u : Nat) : Bool := 0xD800 ≤ u && u < 0xDC00

def isLowUnit (u : Nat) : Bool := 0xDC00 ≤ u && u < 0xE000

/-- Joins code units into characters. -/
def joinPieces : List Piece → Option (List Char)
  | [] => some []
  | .char c :: rest => (joinPieces rest).map (c :: ·)
  | .unit u :: .unit v :: rest =>
    if isHighUnit u then
      if isLowUnit v then
        (joinPieces rest).map (Char.ofNat (0x10000 + (u - 0xD800) * 0x400 + (v - 0xDC00)) :: ·)
      else none
    else if isLowUnit u then none
    else (joinPieces (.unit v :: rest)).map (Char.ofNat u :: ·)
  | .unit u :: rest =>
    if isHighUnit u || isLowUnit u then none
    else (joinPieces rest).map (Char.ofNat u :: ·)

/-! ## Words and numbers -/

def isWordChar (c : Char) : Bool := c.isAlphanum || c = '+' || c = '-' || c = '.'

def atom? (word : List Char) : Option Json :=
  if word = "null".toList then some .null
  else if word = "true".toList then some (.bool true)
  else if word = "false".toList then some (.bool false)
  else (Number.ofChars? word).map .number

/-! ## The whole text -/

theorem dropWhile_length_le (p : Char → Bool) (s : List Char) :
    (s.dropWhile p).length ≤ s.length := by
  induction s with
  | nil => exact Nat.le_refl _
  | cons c s ih =>
    rw [List.dropWhile_cons]
    split
    · exact Nat.le_succ_of_le ih
    · exact Nat.le_refl _

/-- The tokens of a text. -/
def tokens : List Char → Option (List Token)
  | [] => some []
  | c :: rest =>
    if isSpace c then tokens rest
    else
      match punctuation c with
      | some t => (tokens rest).map (t :: ·)
      | none =>
        if c = '"' then
          match h : splitString rest with
          | some (pieces, after) =>
            have := splitString_length h
            (tokens after).map (.string ((joinPieces pieces).map String.ofList) :: ·)
          | none => none
        else
          have := dropWhile_length_le isWordChar rest
          match atom? (c :: rest.takeWhile isWordChar) with
          | some value => (tokens (rest.dropWhile isWordChar)).map (.atom value :: ·)
          | none => none
termination_by s => s.length

end Json

end PackedRecords
