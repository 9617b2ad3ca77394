import PackedRecords.Binary

/-!
Numbers as JSON writes them. A literal is kept exactly; what it means is decided by
whoever asks for a word or for a floating-point number.
-/

namespace PackedRecords.Json

/-- A number literal: all its digits as one natural number, and the power of ten that
puts the point where it was written. -/
structure Number where
  negative : Bool
  digits : Nat
  exponent : Int
  /-- Neither a fraction nor an exponent was written. -/
  integral : Bool
deriving DecidableEq, Repr

namespace Number

def digitsValue (cs : List Char) : Nat :=
  cs.foldl (fun n c => 10 * n + (c.toNat - '0'.toNat)) 0

def splitSign : List Char → Bool × List Char
  | '-' :: rest => (true, rest)
  | cs => (false, cs)

/-- One digit, or several of which the first is not zero. -/
def isWhole : List Char → Bool
  | [] => false
  | ['0'] => true
  | c :: _ => c != '0'

/-- The digits of a fraction, which may be absent but not empty. -/
def splitFraction : List Char → Option (List Char × List Char)
  | '.' :: rest =>
    let (digits, rest) := rest.span Char.isDigit
    if digits.isEmpty then none else some (digits, rest)
  | cs => some ([], cs)

/-- The value of an exponent, which may be absent but not empty. -/
def readExponent : List Char → Option (Option Int)
  | [] => some none
  | e :: rest =>
    if e = 'e' ∨ e = 'E' then
      let (negative, digits) := match rest with
        | '+' :: ds => (false, ds)
        | cs => splitSign cs
      if digits.isEmpty ∨ !digits.all Char.isDigit then none
      else
        let n : Int := digitsValue digits
        some (some (if negative then -n else n))
    else none

def ofChars? (cs : List Char) : Option Number := do
  let (negative, cs) := splitSign cs
  let (whole, cs) := cs.span Char.isDigit
  if !isWhole whole then none
  let (fraction, cs) ← splitFraction cs
  let exponent ← readExponent cs
  some {
    negative
    digits := digitsValue (whole ++ fraction)
    exponent := exponent.getD 0 - fraction.length
    integral := fraction.isEmpty && exponent.isNone }

/-- The literal as a 64-bit unsigned word. Only a plain integer is one: neither `8.0`
nor `-0` is. -/
def toWord? (n : Number) : Option Nat :=
  if n.integral && !n.negative && n.digits < UInt64.size then some n.digits else none

/-- Beyond these powers of ten every literal overflows, or vanishes. -/
def exponentLimit : Nat := 400

/-- The nearest double precision number, unless the literal is too large for one. -/
def toBinary64? (n : Number) : Option Binary64 :=
  if n.digits = 0 then some (.ofRatio n.negative 0 1)
  else if (exponentLimit : Int) < n.exponent then none
  else if n.exponent < -((exponentLimit + Nat.log2 n.digits : Nat) : Int) then
    some (.ofRatio n.negative 0 1)
  else
    let x := match n.exponent with
      | .ofNat e => Binary64.ofRatio n.negative (n.digits * Nat.pow 10 e) 1
      | .negSucc e => Binary64.ofRatio n.negative n.digits (Nat.pow 10 (e + 1))
    if x.isFinite then some x else none

/-- The nearest single precision number. An integer that fits 64 bits is rounded once;
every other literal is first rounded to double precision, and may then become
infinite. -/
def toBinary32? (n : Number) : Option Binary32 :=
  let limit := if n.negative then UInt64.size / 2 + 1 else UInt64.size
  if n.integral && n.digits < limit then some (.ofRatio n.negative n.digits 1)
  else n.toBinary64?.map Binary64.toBinary32

end Number

end PackedRecords.Json
