import TableGateway.Value.Basic

namespace TableGateway

open Text Number

def callText (name : String) (arguments : List String) : String :=
  name ++ "(" ++ ", ".intercalate arguments ++ ")"

def Date.literal (d : Date) : String :=
  callText "datetime.date" ([d.year, d.month, d.day].map fun (n : Nat) => writeInt n)

/-- A distance from universal time, as whole days and the seconds that are left. -/
def offsetLiteral (offset : Int) : String :=
  if offset = 0 then "datetime.timezone.utc"
  else
    let part (name : String) (n : Int) : List String :=
      if n = 0 then [] else [name ++ "=" ++ writeInt n]
    callText "datetime.timezone"
      [callText "datetime.timedelta"
        (part "days" (offset / 86400) ++ part "seconds" (offset % 86400))]

/-- A moment written out. Seconds and microseconds that are zero are left out. -/
def Moment.literal (m : Moment) : String :=
  let small : List Nat :=
    if m.microsecond ≠ 0 then [m.second, m.microsecond]
    else if m.second ≠ 0 then [m.second] else []
  let numbers : List Nat := [m.date.year, m.date.month, m.date.day, m.hour, m.minute] ++ small
  callText "datetime.datetime"
    (numbers.map (fun (n : Nat) => writeInt n) ++
      (m.offset.map fun offset => "tzinfo=" ++ offsetLiteral offset).toList)

def memberLiteral (name value : String) : String :=
  name ++ ": " ++ value

mutual

def Value.literal : Value → String
  | .null => "None"
  | .bool true => "True"
  | .bool false => "False"
  | .int n => writeInt n
  | .real x => writeFloat x
  | .text s => quoted s
  | .halved s => quotedPoints s.points
  | .list items => "[" ++ ", ".intercalate (Value.literals items) ++ "]"
  | .record fields => "\x7b" ++ ", ".intercalate (Value.fieldLiterals fields) ++ "\x7d"
  | .mangled names values =>
    "\x7b" ++ ", ".intercalate ((withNames names (Value.literals values)).map fun member =>
      memberLiteral (quotedPoints member.1) member.2) ++ "\x7d"
  | .decimal d => "Decimal('" ++ d.text ++ "')"
  | .bytes data => quotedBytes data
  | .date d => d.literal
  | .moment m => m.literal

def Value.literals : List Value → List String
  | [] => []
  | item :: rest => item.literal :: Value.literals rest

def Value.fieldLiterals : List (String × Value) → List String
  | [] => []
  | (name, value) :: rest =>
    memberLiteral (quoted name) value.literal :: Value.fieldLiterals rest

end

def Value.display : Value → String
  | .text s => s
  | .halved s => shownPoints s.points
  | .decimal d => d.text
  | .date d => d.iso
  | .moment m => m.isoWith ' '
  | v => v.literal

/-- What is said about a text that has no bytes. A single half of a character is shown as it is
escaped. -/
def halvesMessage (text : HalvedText) : String :=
  let place := writeInt text.position
  let last := writeInt (text.position + text.halves.length - 1)
  "'utf-8' codec can't encode " ++
    (match text.halves with
      | [half] => "character '" ++ String.ofList (quotePoint '\'' half) ++ "' in position " ++ place
      | _ => "characters in position " ++ place ++ "-" ++ last) ++
    ": surrogates not allowed"

end TableGateway
