import TableGateway.Calendar
import TableGateway.Number.Decimal
import TableGateway.Number.Read

namespace TableGateway

open Text

inductive Value
  | null
  | bool (b : Bool)
  | int (n : Int)
  | real (x : Float)
  | text (s : String)
  | halved (text : HalvedText)
  | list (items : List Value)
  | record (fields : List (String × Value))
  /-- A record with half of a character in a name: its names, and the values under them. -/
  | mangled (names : List (List CodePoint)) (values : List Value)
  | decimal (d : Decimal)
  | bytes (data : List UInt8)
  | date (d : Date)
  | moment (m : Moment)
  deriving Repr, Inhabited

/-- Sets the value under a name: in its place if the name is there, else at the end. -/
def putNamed {ν : Type} [DecidableEq ν] (members : List (ν × Value)) (name : ν) (value : Value) :
    List (ν × Value) :=
  match members with
  | [] => [(name, value)]
  | member :: rest =>
    if member.1 = name then (name, value) :: rest else member :: putNamed rest name value

abbrev Record := List (String × Value)

namespace Record

def get? (r : Record) (name : String) : Option Value :=
  (r.find? fun field => field.1 = name).map Prod.snd

def get (r : Record) (name : String) : Value :=
  (r.get? name).getD .null

def has (r : Record) (name : String) : Bool :=
  r.any fun field => field.1 = name

def names (r : Record) : List String :=
  r.map Prod.fst

def put (r : Record) (name : String) (value : Value) : Record :=
  putNamed r name value

def putAll (r changes : Record) : Record :=
  changes.foldl (fun r field => r.put field.1 field.2) r

def erase (r : Record) (name : String) : Record :=
  r.filter fun field => field.1 ≠ name

def sorted (r : Record) : Record :=
  r.mergeSort fun a b => a.1 ≤ b.1

end Record

/-- Whether a value counts as given: null, zero and what is empty do not. -/
def Value.isTruthy : Value → Bool
  | .null => false
  | .bool b => b
  | .int n => n != 0
  | .real x => !(x == 0)
  | .text s => !s.isEmpty
  | .halved _ => true
  | .list items => !items.isEmpty
  | .record fields => !fields.isEmpty
  | .mangled .. => true
  | .decimal d => !d.isZero
  | .bytes data => !data.isEmpty
  | .date _ => true
  | .moment _ => true

def Value.ofPoints (text : List CodePoint) : Value :=
  match h : chars? text with
  | some chars => .text (String.ofList chars)
  | none => .halved ⟨text, h⟩

def wholeFields? : List (List CodePoint × Value) → Option Record
  | [] => some []
  | (name, value) :: rest => do
    let name ← chars? name
    let rest ← wholeFields? rest
    some ((String.ofList name, value) :: rest)

def Value.ofMembers (members : List (List CodePoint × Value)) : Value :=
  match wholeFields? members with
  | some fields => .record fields
  | none => .mangled (members.map Prod.fst) (members.map Prod.snd)

def Number.toValue : Number → Value
  | .int n => .int n
  | .real x => .real x

def Value.kindName : Value → String
  | .null => "NoneType"
  | .bool _ => "bool"
  | .int _ => "int"
  | .real _ => "float"
  | .text _ => "str"
  | .halved _ => "str"
  | .list _ => "list"
  | .record _ => "dict"
  | .mangled .. => "dict"
  | .decimal _ => "decimal.Decimal"
  | .bytes _ => "bytes"
  | .date _ => "datetime.date"
  | .moment _ => "datetime.datetime"

def Value.toFloat : Value → Except Number.Error Float
  | .bool b => .ok (if b then 1 else 0)
  | .int n => Number.ofInt n
  | .real x => .ok x
  | .text s => Number.readFloat s
  | .halved s => .error (.notAFloat (quotedPoints s.points))
  | .decimal d => Number.readFloat d.text
  | v => .error (.notNumeric v.kindName)

end TableGateway
