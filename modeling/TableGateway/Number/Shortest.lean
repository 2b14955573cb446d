/-!
# Shortest decimal digits

A floating-point number stands for every real number that is rounded to it. Among the decimals in
that interval one with the fewest digits is chosen, and of these the nearest to the number itself.
For a given number of digits only the two decimals around the number have to be tried, because the
interval holds the number.
-/

namespace TableGateway.Number

def twoTo (k : Nat) : Nat :=
  Nat.pow 2 k

def tenTo (k : Nat) : Nat :=
  Nat.pow 10 k

/-- A positive decimal `0.d₁d₂… · 10 ^ point`. -/
structure Digits where
  digits : List Nat
  point : Int
  deriving Repr, DecidableEq

structure BinarySize where
  significand : Nat
  exponent : Int
  deriving Repr, DecidableEq

def sizeBits (x : Float) : Nat :=
  x.toBits.toNat % twoTo 63

def BinarySize.ofFloat (x : Float) : BinarySize :=
  let field : Nat := sizeBits x / twoTo 52
  let low : Nat := sizeBits x % twoTo 52
  { significand := if field = 0 then low else low + twoTo 52
    exponent := (if field = 0 then 1 else (field : Int)) - 1075 }

/-- A positive floating-point number with the half-way points around it, over a common denominator.
The ends of the interval belong to it when `closed` holds. -/
structure RoundingInterval where
  below : Nat
  value : Nat
  above : Nat
  denominator : Nat
  closed : Bool
  deriving Repr

def RoundingInterval.ofFloat (x : Float) : RoundingInterval :=
  let ⟨significand, exponent⟩ := BinarySize.ofFloat x
  -- below a power of two the neighbour is only half as far away
  let gapBelow := if significand = twoTo 52 ∧ -1074 < exponent then 1 else 2
  let scale := if 2 ≤ exponent then twoTo (exponent - 2).toNat else 1
  { below := (4 * significand - gapBelow) * scale
    value := 4 * significand * scale
    above := (4 * significand + 2) * scale
    denominator := if exponent < 2 then twoTo (2 - exponent).toNat else 1
    closed := significand % 2 = 0 }

def RoundingInterval.holds (interval : RoundingInterval) (n d : Nat) : Bool :=
  let scaled := n * interval.denominator
  if interval.closed then interval.below * d ≤ scaled && scaled ≤ interval.above * d
  else interval.below * d < scaled && scaled < interval.above * d

def decimalDigits (n : Nat) : List Nat :=
  (Nat.toDigits 10 n).map fun c => c.toNat - '0'.toNat

/-- The least `k` with `value < 10 ^ k`. -/
def RoundingInterval.magnitude (interval : RoundingInterval) : Int :=
  if interval.denominator ≤ interval.value then
    (Nat.toDigits 10 (interval.value / interval.denominator)).length
  else
    match (List.range 330).find? fun j => interval.denominator ≤ interval.value * tenTo (j + 1) with
    | some shift => -(shift : Int)
    | none => 0

/-- The decimal with `count` digits that the interval holds and that is nearest to its value, as a
whole number of units `10 ^ (magnitude - count)`. -/
def RoundingInterval.decimal? (interval : RoundingInterval) (magnitude : Int) (count : Nat) :
    Option Nat :=
  let unit : Int := magnitude - count
  let (up, down) := (tenTo unit.toNat, tenTo (-unit).toNat)
  let lower := interval.value * down / (interval.denominator * up)
  let holds (n : Nat) := interval.holds (n * up) down
  match holds lower, holds (lower + 1) with
  | false, false => none
  | true, false => some lower
  | false, true => some (lower + 1)
  | true, true =>
    let twice := 2 * interval.value * down
    let middle := (2 * lower + 1) * (interval.denominator * up)
    if twice < middle then some lower
    else if middle < twice then some (lower + 1)
    else some (if lower % 2 = 0 then lower else lower + 1)

/-- The shortest digits of a positive finite number. Seventeen digits always suffice. -/
def shortestDigits (x : Float) : Digits :=
  let interval := RoundingInterval.ofFloat x
  let magnitude := interval.magnitude
  let found := (List.range 17).findSome? fun i =>
    (interval.decimal? magnitude (i + 1)).map fun n => (i + 1, n)
  let (count, n) := found.getD (17, 0)
  let digits := decimalDigits n
  { digits := (digits.reverse.dropWhile (· == 0)).reverse
    point := magnitude + ((digits.length : Int) - count) }

end TableGateway.Number
