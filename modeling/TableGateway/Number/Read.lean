import TableGateway.Number.Numeral
import TableGateway.Number.Layout
import TableGateway.Text.Quoted
import TableGateway.Text.LowerCase

/-!
# Reading numbers

`Number.read?` decides whether a text is a number at all; `readInt` and `readFloat` insist on one
and also allow an underscore between two digits. An integer with too many digits is refused,
whatever its value.
-/

namespace TableGateway

open Text

inductive Number
  | int (n : Int)
  | real (x : Float)
  deriving Repr, DecidableEq

namespace Number

/-- The greatest number of digits that are read as an integer, leading zeros counted. -/
def maxDigits : Nat := 4300

def isWritable (n : Int) : Bool :=
  (Nat.toDigits 10 n.natAbs).length ≤ maxDigits

inductive Error
  | tooLong (digits : Nat)
  | notAnInteger (text : String)
  | notAFloat (shown : String)
  | tooLarge
  | notNumeric (kind : String)
  deriving Repr, DecidableEq

/-- The longest part of a text that is shown where an integer was expected, quotes included. -/
def maxShown : Nat := 200

def clipped (size : Nat) (s : String) : String :=
  String.ofList (s.toList.take size)

def Error.message : Error → String
  | .tooLong digits =>
    "Exceeds the limit (4300 digits) for integer string conversion: value has " ++
      writeInt digits ++ " digits; use sys.set_int_max_str_digits() to increase the limit"
  | .notAnInteger text =>
    "invalid literal for int() with base 10: " ++ clipped maxShown (quoted text)
  | .notAFloat shown => "could not convert string to float: " ++ shown
  | .tooLarge => "int too large to convert to float"
  | .notNumeric kind => "float() argument must be a string or a real number, not '" ++ kind ++ "'"

def IntegerNumeral.value? (numeral : IntegerNumeral) : Except Error Int :=
  if numeral.digits.length ≤ maxDigits then .ok numeral.value
  else .error (.tooLong numeral.digits.length)

def read? (text : List Char) : Except Error (Option Number) :=
  let candidate := trim text
  match IntegerNumeral.read? candidate with
  | some numeral => do
    let n ← numeral.value?
    pure (some (.int n))
  | none => .ok ((DecimalNumeral.read? candidate).map fun numeral => .real numeral.toFloat)

/-- Takes out the underscores that stand between two digits; any other underscore is a mistake. -/
def joinDigits? : List Char → Option (List Char)
  | [] => some []
  | c :: rest =>
    match c, rest with
    | '_', _ => none
    | c, '_' :: d :: rest =>
      if isDigit c && isDigit d then (joinDigits? (d :: rest)).map (c :: ·) else none
    | c, rest => (joinDigits? rest).map (c :: ·)

def joinedValues? (row : List Char) : Option (List Nat) :=
  let parts := row.splitOnP (· = '_')
  if parts.any List.isEmpty then none else some (parts.flatten.filterMap digitValue?)

/-- The integer that a text spells. The digits in front are counted before what follows them is
looked at. -/
def readInt (s : String) : Except Error Int :=
  let (negative, body) := takeSign (trimPadding s.toList)
  let isInRow (c : Char) : Bool := isDigit c || c = '_'
  match joinedValues? (body.takeWhile isInRow) with
  | none => .error (.notAnInteger s)
  | some digits => do
    let n ← (IntegerNumeral.mk negative digits).value?
    if (body.dropWhile isInRow).isEmpty then pure n else throw (.notAnInteger s)

def readSpecial? (text : List Char) : Option Float :=
  let (negative, name) := takeSign text
  match (lower (String.ofList name)) with
  | "inf" | "infinity" => some (if negative then -(1.0 / 0.0) else 1.0 / 0.0)
  | "nan" => some (0.0 / 0.0)
  | _ => none

def readFloat (s : String) : Except Error Float :=
  let candidate := trimPadding s.toList
  match readSpecial? candidate with
  | some x => .ok x
  | none =>
    match (joinDigits? candidate).bind DecimalNumeral.read? with
    | some numeral => .ok numeral.toFloat
    | none => .error (.notAFloat (quoted s))

def ofInt (n : Int) : Except Error Float :=
  let x := Float.ofInt n
  if x.isInf then .error .tooLarge else .ok x

end Number

end TableGateway
