import TableGateway.Value.Basic
import TableGateway.Text.Find
import TableGateway.Text.Hex

/-!
# Reading JSON

The grammar is strict: no trailing commas, no comments, no control characters inside strings. The
names `NaN`, `Infinity` and `-Infinity` are numbers. A number without point and exponent is an
integer. When an object names a member twice, the first place and the last value count. Arrays and
objects may nest only as deep as the reader allows, which is noticed where one opens too many.
-/

namespace TableGateway.Json

open Text Number

/-- Why a text cannot be read: what comes first in it is told. -/
inductive ReadError
  | malformed
  | tooDeep
  deriving Repr, DecidableEq

def skipBlanks : List CodePoint → List CodePoint
  | [] => []
  | point :: rest =>
    if point = ' ' ∨ point = '\t' ∨ point = '\n' ∨ point = '\r' then skipBlanks rest
    else point :: rest

def readUnit? : List CodePoint → Option (Nat × List CodePoint)
  | .char a :: .char b :: .char c :: .char d :: rest => do
    let digits ← [a, b, c, d].mapM hexValue?
    some (digits.foldl (fun unit digit => 16 * unit + digit) 0, rest)
  | _ => none

def readUnitEscape? : List CodePoint → Option (Nat × List CodePoint)
  | .char '\\' :: .char 'u' :: rest => readUnit? rest
  | _ => none

/-- Reads what follows `\u`: one unit, or two that belong together. -/
def readPoint? (text : List CodePoint) : Option (CodePoint × List CodePoint) := do
  let (unit, rest) ← readUnit? text
  match readUnitEscape? rest with
  | some (low, after) =>
    if isHighUnit unit && isLowUnit low then some (joinUnits unit low, after)
    else some (.ofUnit unit, rest)
  | none => some (.ofUnit unit, rest)

def readEscape? : List CodePoint → Option (CodePoint × List CodePoint)
  | .char '"' :: rest => some ('"', rest)
  | .char '\\' :: rest => some ('\\', rest)
  | .char '/' :: rest => some ('/', rest)
  | .char 'b' :: rest => some ('\x08', rest)
  | .char 'f' :: rest => some ('\x0c', rest)
  | .char 'n' :: rest => some ('\n', rest)
  | .char 'r' :: rest => some ('\r', rest)
  | .char 't' :: rest => some ('\t', rest)
  | .char 'u' :: rest => readPoint? rest
  | _ => none

def readString? : (fuel : Nat) → List CodePoint → Option (List CodePoint × List CodePoint)
  | 0, _ => none
  | _ + 1, [] => none
  | _ + 1, .char '"' :: rest => some ([], rest)
  | fuel + 1, .char '\\' :: rest => do
    let (point, rest) ← readEscape? rest
    let (s, rest) ← readString? fuel rest
    some (point :: s, rest)
  | fuel + 1, point :: rest => do
    if point.toNat < ' '.toNat then none
    let (s, rest) ← readString? fuel rest
    some (point :: s, rest)

def spanDigits (text : List Char) : List Char × List Char :=
  text.span Char.isDigit

def digitsOf (text : List Char) : List Nat :=
  text.map fun c => c.toNat - '0'.toNat

def takeFraction (text : List Char) : List Char × List Char :=
  match text with
  | '.' :: rest =>
    let (digits, after) := spanDigits rest
    if digits.isEmpty then ([], text) else (digits, after)
  | _ => ([], text)

def takeExponent (text : List Char) : Option Int × List Char :=
  match text with
  | c :: rest =>
    if c = 'e' ∨ c = 'E' then
      let (negative, rest) := takeSign rest
      let (digits, after) := spanDigits rest
      if digits.isEmpty then (none, text)
      else (some (signed negative (digitsValue (digitsOf digits))), after)
    else (none, text)
  | [] => (none, [])

def readNumber? (negative : Bool) (text : List Char) : Option (Value × List Char) := do
  let (whole, rest) ← match text with
    | '0' :: rest => some (['0'], rest)
    | _ =>
      let (digits, rest) := spanDigits text
      if digits.isEmpty then none else some (digits, rest)
  let (fraction, rest) := takeFraction rest
  let (exponent, rest) := takeExponent rest
  if fraction.isEmpty && exponent.isNone then
    match (IntegerNumeral.mk negative (digitsOf whole)).value? with
    | .ok n => some (.int n, rest)
    | .error _ => none
  else
    let numeral : DecimalNumeral :=
      ⟨negative, digitsOf whole, digitsOf fraction, exponent.getD 0⟩
    some (.real numeral.toFloat, rest)

def words : List (List Char × Value) :=
  [("null".toList, .null), ("true".toList, .bool true), ("false".toList, .bool false),
   ("NaN".toList, .real (0.0 / 0.0)), ("Infinity".toList, .real (1.0 / 0.0)),
   ("-Infinity".toList, .real (-(1.0 / 0.0)))]

def readWord? (text : List Char) : Option (Value × List Char) :=
  words.findSome? fun (word, value) => (dropFront? word text).map fun rest => (value, rest)

def wholeFront : List CodePoint → List Char × List CodePoint
  | .char c :: rest => (c :: (wholeFront rest).1, (wholeFront rest).2)
  | text => ([], text)

def readPlain? (text : List Char) : Option (Value × List Char) :=
  match readWord? text, text with
  | some found, _ => some found
  | none, '-' :: rest => readNumber? true rest
  | none, text => readNumber? false text

/-- Reads a value that is not put together from others. Half of a character can stand in a string
only. -/
def readSimple? : List CodePoint → Option (Value × List CodePoint)
  | .char '"' :: rest => (readString? (rest.length + 1) rest).map fun (s, rest) =>
      (.ofPoints s, rest)
  | text =>
    let (front, behind) := wholeFront text
    (readPlain? front).map fun (value, rest) => (value, points rest ++ behind)

/-- A reading that fails only because the text is malformed. -/
def wellFormed {α : Type} : Option α → Except ReadError α
  | some a => .ok a
  | none => .error .malformed

mutual

/-- Reads a value at the front of a text, with at most `fuel` steps. Arrays and objects may nest
`room` deep. -/
def readValue : (fuel room : Nat) → List CodePoint → Except ReadError (Value × List CodePoint)
  | 0, _, _ => .error .malformed
  | _ + 1, 0, .char '[' :: _ => .error .tooDeep
  | _ + 1, 0, .char '\x7b' :: _ => .error .tooDeep
  | fuel + 1, room + 1, .char '[' :: rest =>
    match skipBlanks rest with
    | .char ']' :: rest => .ok (.list [], rest)
    | rest => (readItems fuel room rest).map fun (items, rest) => (.list items, rest)
  | fuel + 1, room + 1, .char '\x7b' :: rest =>
    match skipBlanks rest with
    | .char '\x7d' :: rest => .ok (.record [], rest)
    | rest => (readMembers fuel room [] rest).map fun (members, rest) => (.ofMembers members, rest)
  | _ + 1, _, text => wellFormed (readSimple? text)

def readItems : (fuel room : Nat) → List CodePoint →
    Except ReadError (List Value × List CodePoint)
  | 0, _, _ => .error .malformed
  | fuel + 1, room, text => do
    let (item, rest) ← readValue fuel room text
    match skipBlanks rest with
    | .char ']' :: rest => .ok ([item], rest)
    | .char ',' :: rest => do
      let (items, rest) ← readItems fuel room (skipBlanks rest)
      .ok (item :: items, rest)
    | _ => .error .malformed

def readMembers : (fuel room : Nat) → (before : List (List CodePoint × Value)) →
    List CodePoint → Except ReadError (List (List CodePoint × Value) × List CodePoint)
  | 0, _, _, _ => .error .malformed
  | fuel + 1, room, before, .char '"' :: rest => do
    let (name, rest) ← wellFormed (readString? (rest.length + 1) rest)
    match skipBlanks rest with
    | .char ':' :: rest => do
      let (value, rest) ← readValue fuel room (skipBlanks rest)
      let members := putNamed before name value
      match skipBlanks rest with
      | .char '\x7d' :: rest => .ok (members, rest)
      | .char ',' :: rest => readMembers fuel room members (skipBlanks rest)
      | _ => .error .malformed
    | _ => .error .malformed
  | _ + 1, _, _, _ => .error .malformed

end

def readPoints (maxNesting : Nat) (text : List CodePoint) : Except ReadError Value := do
  let (value, rest) ← readValue (2 * text.length + 2) maxNesting (skipBlanks text)
  if (skipBlanks rest).isEmpty then .ok value else .error .malformed

def read (maxNesting : Nat) (text : List Char) : Except ReadError Value :=
  readPoints maxNesting (points text)

end TableGateway.Json
