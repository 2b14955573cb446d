import TableGateway.Text.Blank
import TableGateway.Text.DecimalDigit

namespace TableGateway.Number

open Text

def takeSign : List Char → Bool × List Char
  | '-' :: rest => (true, rest)
  | '+' :: rest => (false, rest)
  | text => (false, text)

def signed (negative : Bool) (n : Nat) : Int :=
  if negative then -(n : Int) else n

structure IntegerNumeral where
  negative : Bool
  digits : List Nat
  deriving Repr, DecidableEq

def IntegerNumeral.value (numeral : IntegerNumeral) : Int :=
  signed numeral.negative (digitsValue numeral.digits)

def IntegerNumeral.read? (text : List Char) : Option IntegerNumeral :=
  match takeDigits (takeSign text).2 with
  | ([], _) => none
  | (_, _ :: _) => none
  | (digits, []) => some ⟨(takeSign text).1, digits⟩

structure DecimalNumeral where
  negative : Bool
  whole : List Nat
  fraction : List Nat
  exponent : Int
  deriving Repr, DecidableEq

/-- The value is `coefficient · 10 ^ scale`, up to the sign. -/
def DecimalNumeral.coefficient (numeral : DecimalNumeral) : Nat :=
  digitsValue (numeral.whole ++ numeral.fraction)

def DecimalNumeral.scale (numeral : DecimalNumeral) : Int :=
  numeral.exponent - numeral.fraction.length

def readExponent? : List Char → Option Int
  | [] => some 0
  | c :: rest =>
    if c = 'e' ∨ c = 'E' then (IntegerNumeral.read? rest).map IntegerNumeral.value else none

/-- Reads a decimal: at least one digit, with a point before, between or after the digits or
none. -/
def DecimalNumeral.read? (text : List Char) : Option DecimalNumeral :=
  let (negative, body) := takeSign text
  match takeDigits body with
  | (whole, '.' :: rest) =>
    let (fraction, rest) := takeDigits rest
    if whole.isEmpty && fraction.isEmpty then none
    else (readExponent? rest).map (⟨negative, whole, fraction, ·⟩)
  | (whole, rest) =>
    if whole.isEmpty then none else (readExponent? rest).map (⟨negative, whole, [], ·⟩)

def DecimalNumeral.toFloat (numeral : DecimalNumeral) : Float :=
  let size := Float.ofScientific numeral.coefficient (numeral.scale < 0) numeral.scale.natAbs
  if numeral.negative then -size else size

end TableGateway.Number
