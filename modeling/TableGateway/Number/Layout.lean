import TableGateway.Number.Shortest

namespace TableGateway.Number

/-- How digits are laid out: which decimal exponents are written without an exponent part, and the
least number of digits of an exponent. -/
structure Layout where
  leastPlain : Int
  plainEnd : Int
  exponentWidth : Nat

def Layout.standard : Layout := ⟨-4, 16, 2⟩

def digitChars (digits : List Nat) : List Char :=
  digits.map Nat.digitChar

def padded (width n : Nat) : List Char :=
  let digits := Nat.toDigits 10 n
  List.replicate (width - digits.length) '0' ++ digits

def Digits.plain (d : Digits) : List Char :=
  if d.point ≤ 0 then
    '0' :: '.' :: (List.replicate d.point.natAbs '0' ++ digitChars d.digits)
  else
    let whole := d.point.toNat
    let fraction := d.digits.drop whole
    digitChars (d.digits.take whole) ++ List.replicate (whole - d.digits.length) '0' ++
      '.' :: (if fraction.isEmpty then ['0'] else digitChars fraction)

def Digits.scientific (layout : Layout) (d : Digits) : List Char :=
  let exponent := d.point - 1
  let fraction := d.digits.drop 1
  digitChars (d.digits.take 1) ++ (if fraction.isEmpty then [] else '.' :: digitChars fraction) ++
    'e' :: (if exponent < 0 then '-' else '+') :: padded layout.exponentWidth exponent.natAbs

def Digits.write (layout : Layout) (d : Digits) : List Char :=
  if layout.leastPlain ≤ d.point - 1 ∧ d.point - 1 < layout.plainEnd then d.plain
  else d.scientific layout

def hasMinus (x : Float) : Bool :=
  twoTo 63 ≤ x.toBits.toNat

/-- A floating-point number with the fewest digits that read back as the same number. -/
def writeFloat (x : Float) : String :=
  if x.isNaN then "nan"
  else
    let size :=
      if x.isInf then "inf".toList
      else if x == 0 then "0.0".toList
      else (shortestDigits x).write Layout.standard
    String.ofList (if hasMinus x then '-' :: size else size)

def writeInt (n : Int) : String :=
  String.ofList (if n < 0 then '-' :: Nat.toDigits 10 n.natAbs else Nat.toDigits 10 n.natAbs)

end TableGateway.Number
