import TableGateway.Text.Hex

/-!
# Code points

A text that was spelled in units of sixteen bits can hold half of a character. Such a text has no
UTF-8 form and is no `String`.
-/

namespace TableGateway.Text

def isHighUnit (unit : Nat) : Bool :=
  0xd800 ≤ unit && unit < 0xdc00

def isLowUnit (unit : Nat) : Bool :=
  0xdc00 ≤ unit && unit < 0xe000

def joinUnits (high low : Nat) : Char :=
  Char.ofNat (0x10000 + (high - 0xd800) * 0x400 + (low - 0xdc00))

structure Half where
  unit : Nat
  isHalf : isHighUnit unit || isLowUnit unit
  deriving Repr, DecidableEq

inductive CodePoint
  | char (c : Char)
  | half (h : Half)
  deriving Repr, DecidableEq

instance : Coe Char CodePoint := ⟨.char⟩

namespace CodePoint

def ofUnit (unit : Nat) : CodePoint :=
  if h : isHighUnit unit || isLowUnit unit then .half ⟨unit, h⟩ else .char (Char.ofNat unit)

def toNat : CodePoint → Nat
  | .char c => c.toNat
  | .half h => h.unit

def char? : CodePoint → Option Char
  | .char c => some c
  | .half _ => none

/-- A code point where only characters can be shown: half of one shows as a replacement mark. -/
def shown (point : CodePoint) : Char :=
  point.char?.getD '\ufffd'

end CodePoint

def shownPoints (text : List CodePoint) : String :=
  String.ofList (text.map CodePoint.shown)

def points (text : List Char) : List CodePoint :=
  text.map .char

/-- Each item with its name; an item for which there is no name left has an empty one. -/
def withNames {α : Type} : (names : List (List CodePoint)) → List α → List (List CodePoint × α)
  | _, [] => []
  | names, item :: rest => (names.headD [], item) :: withNames names.tail rest

def chars? : List CodePoint → Option (List Char)
  | [] => some []
  | .char c :: rest => (chars? rest).map (c :: ·)
  | .half _ :: _ => none

/-- A text with half of a character in it. -/
structure HalvedText where
  points : List CodePoint
  isHalved : chars? points = none
  deriving Repr, DecidableEq

namespace HalvedText

def position (text : HalvedText) : Nat :=
  (text.points.takeWhile fun point => point.char?.isSome).length

def halves (text : HalvedText) : List CodePoint :=
  (text.points.drop text.position).takeWhile fun point => point.char?.isNone

end HalvedText

end TableGateway.Text
