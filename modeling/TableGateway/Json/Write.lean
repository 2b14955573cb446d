import TableGateway.Value.Basic
import TableGateway.Text.Hex

/-!
# Writing JSON

Compact, with the members of an object sorted by name and every character outside printable ASCII
escaped. A decimal is written as a text, a day or a moment as the text of a web header. Bytes have
no written form, nor has a moment that lies outside the calendar in universal time or an integer
with too many digits.
-/

namespace TableGateway.Json

open Text Number

def escapeUnit (unit : Nat) : List Char :=
  '\\' :: 'u' :: hexPadded 4 unit

/-- A character by its code point: in two units if one cannot hold it. -/
def escapePoint (point : Nat) : List Char :=
  if point < 0x10000 then escapeUnit point
  else
    let rest := point - 0x10000
    escapeUnit (0xd800 + rest / 0x400) ++ escapeUnit (0xdc00 + rest % 0x400)

def escapeChar (c : Char) : List Char :=
  if c = '"' ∨ c = '\\' then ['\\', c]
  else if c = '\n' then ['\\', 'n']
  else if c = '\r' then ['\\', 'r']
  else if c = '\t' then ['\\', 't']
  else if c = '\x08' then ['\\', 'b']
  else if c = '\x0c' then ['\\', 'f']
  else if ' ' ≤ c ∧ c ≤ '~' then [c]
  else escapePoint c.toNat

def writeString (s : String) : String :=
  String.ofList ('"' :: (s.toList.flatMap escapeChar ++ ['"']))

/-- A text in code points. Half of a character is written as its unit. -/
def writePoints (text : List CodePoint) : String :=
  let escape : CodePoint → List Char
    | .char c => escapeChar c
    | .half h => escapeUnit h.unit
  String.ofList ('"' :: (text.flatMap escape ++ ['"']))

/-- A floating-point number, with the names of infinity and of the missing number spelled out. -/
def writeReal (x : Float) : String :=
  if x.isNaN then "NaN"
  else if x.isInf then (if x < 0 then "-Infinity" else "Infinity")
  else writeFloat x

abbrev Member := String × String

def writeObject {ν : Type} (le : ν → ν → Bool) (writeName : ν → String)
    (members : List (ν × String)) : String :=
  let sorted := members.mergeSort fun a b => le a.1 b.1
  "\x7b" ++ ",".intercalate (sorted.map fun (name, value) => writeName name ++ ":" ++ value) ++
    "\x7d"

def writeMembers (members : List Member) : String :=
  writeObject (fun name other => name ≤ other) writeString members

def pointsLe (text other : List CodePoint) : Bool :=
  !List.lex (other.map CodePoint.toNat) (text.map CodePoint.toNat) Nat.blt

def writePointMembers (members : List (List CodePoint × String)) : String :=
  writeObject pointsLe writePoints members

mutual

def write? : Value → Option String
  | .null => some "null"
  | .bool true => some "true"
  | .bool false => some "false"
  | .int n => if isWritable n then some (writeInt n) else none
  | .real x => some (writeReal x)
  | .text s => some (writeString s)
  | .halved s => some (writePoints s.points)
  | .list items => (writeItems? items).map fun written => "[" ++ ",".intercalate written ++ "]"
  | .record fields => (writeFields? fields).map writeMembers
  | .mangled names values => (writeItems? values).map fun written =>
    writePointMembers (withNames names written)
  | .decimal d => some (writeString d.text)
  | .bytes _ => none
  | .date d => some (writeString d.header)
  | .moment m => m.header?.map writeString

def writeItems? : List Value → Option (List String)
  | [] => some []
  | item :: rest =>
    match write? item, writeItems? rest with
    | some written, some others => some (written :: others)
    | _, _ => none

def writeFields? : List (String × Value) → Option (List Member)
  | [] => some []
  | (name, value) :: rest =>
    match write? value, writeFields? rest with
    | some written, some others => some ((name, written) :: others)
    | _, _ => none

end

end TableGateway.Json
