import TableGateway.Number.Layout
import TableGateway.Number.Numeral
import TableGateway.Text.LowerCase

namespace TableGateway

open Text Number

/-- A decimal number. Infinity and what is no number at all have a sign too; what is no number may
carry a code, and it may be meant to raise an alarm. -/
inductive Decimal
  | finite (negative : Bool) (coefficient : Nat) (exponent : Int)
  | infinite (negative : Bool)
  | missing (negative alarming : Bool) (code : Nat)
  deriving Repr, DecidableEq

namespace Decimal

def isZero : Decimal → Bool
  | .finite _ coefficient _ => coefficient == 0
  | _ => false

def placePoint (digits : List Char) (place : Int) : List Char :=
  if place ≤ 0 then '0' :: '.' :: (List.replicate place.natAbs '0' ++ digits)
  else
    let whole := place.toNat
    let fraction := digits.drop whole
    digits.take whole ++ List.replicate (whole - digits.length) '0' ++
      if fraction.isEmpty then [] else '.' :: fraction

/-- How far a first digit may stand behind the point in a number without an exponent part. -/
def leastPlain : Int := -6

def finiteChars (digits : List Char) (exponent : Int) : List Char :=
  let left := exponent + digits.length
  if exponent ≤ 0 ∧ leastPlain < left then placePoint digits left
  else
    placePoint digits 1 ++
      if left = 1 then []
      else 'E' :: (if left < 1 then '-' else '+') :: Nat.toDigits 10 (left - 1).natAbs

def signChars (negative : Bool) : List Char :=
  if negative then ['-'] else []

def chars : Decimal → List Char
  | .finite negative coefficient exponent =>
    signChars negative ++ finiteChars (Nat.toDigits 10 coefficient) exponent
  | .infinite negative => signChars negative ++ "Infinity".toList
  | .missing negative alarming code =>
    signChars negative ++ (if alarming then "sNaN" else "NaN").toList ++
      if code = 0 then [] else Nat.toDigits 10 code

def text (d : Decimal) : String :=
  String.ofList d.chars

def readCode? (text : List Char) : Option Nat :=
  match takeDigits text with
  | (digits, []) => some (digitsValue digits)
  | _ => none

def readNamed? (negative : Bool) (name : List Char) : Option Decimal :=
  match (lower (String.ofList name)).toList with
  | ['i', 'n', 'f'] => some (.infinite negative)
  | ['i', 'n', 'f', 'i', 'n', 'i', 't', 'y'] => some (.infinite negative)
  | 'n' :: 'a' :: 'n' :: code => (readCode? code).map (.missing negative false ·)
  | 's' :: 'n' :: 'a' :: 'n' :: code => (readCode? code).map (.missing negative true ·)
  | _ => none

/-- Reads a decimal, with blanks around it and underscores anywhere inside. -/
def read? (s : String) : Option Decimal :=
  let text := (trim s.toList).filter (· ≠ '_')
  match DecimalNumeral.read? text with
  | some numeral => some (.finite numeral.negative numeral.coefficient numeral.scale)
  | none => readNamed? (takeSign text).1 (takeSign text).2

end Decimal

end TableGateway
