import TableGateway.Number.Read

namespace TableGateway.Number

def toFloat : Number → Except Error Float
  | .int n => ofInt n
  | .real x => .ok x

def minus : Number → Number → Except Error Number
  | .int a, .int b => .ok (.int (a - b))
  | a, b => do
    let x ← a.toFloat
    let y ← b.toFloat
    pure (.real (x - y))

def isIntBelow (n : Int) (x : Float) : Bool :=
  if x.isNaN then false
  else if x.isInf then 0 < x
  else
    let size := BinarySize.ofFloat x
    let value : Int := signed (hasMinus x) size.significand
    if 0 ≤ size.exponent then n < value * twoTo size.exponent.toNat
    else n * twoTo (-size.exponent).toNat < value

def isBelow : Number → Float → Bool
  | .int n, x => isIntBelow n x
  | .real y, x => y < x

end TableGateway.Number
