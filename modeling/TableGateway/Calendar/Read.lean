import TableGateway.Calendar
import TableGateway.Text.DecimalDigit

namespace TableGateway

open Calendar

def readFixed? : (count : Nat) → (value : Nat) → List Char → Option (Nat × List Char)
  | 0, value, rest => some (value, rest)
  | _ + 1, _, [] => none
  | count + 1, value, c :: rest =>
    if c.isDigit then readFixed? count (10 * value + (c.toNat - '0'.toNat)) rest else none

def dropMark (mark : Char) (text : List Char) : List Char :=
  if text.head? = some mark then text.drop 1 else text

def readWeek? (year : Nat) (text : List Char) : Option Date := do
  let (week, rest) ← readFixed? 2 0 text
  match dropMark '-' rest with
  | [] => Date.ofWeek? year week 1
  | rest => do
    let (day, rest) ← readFixed? 1 0 rest
    if rest.isEmpty then Date.ofWeek? year week day else none

def readMonthDay? (year : Nat) (text : List Char) : Option Date := do
  let (month, rest) ← readFixed? 2 0 text
  let (day, rest) ← readFixed? 2 0 (dropMark '-' rest)
  let date : Date := ⟨year, month, day⟩
  if rest.isEmpty && date.isValid then some date else none

def readDate? (text : List Char) : Option Date := do
  let (year, rest) ← readFixed? 4 0 text
  match dropMark '-' rest with
  | 'W' :: rest => readWeek? year rest
  | rest => readMonthDay? year rest

/-- How many characters of a moment name its day. A digit behind a week belongs to it unless the
digits that follow would then not pair up. -/
def dateLength (text : List Char) : Nat :=
  match text.drop 4 with
  | '-' :: 'W' :: _ =>
    if (text.drop 8).head? = some '-' && !((text.drop 10).head?.any Char.isDigit) then 10 else 8
  | '-' :: _ => 10
  | 'W' :: _ =>
    let length := 7 + ((text.drop 7).takeWhile Char.isDigit).length
    if length < 9 then length else if length % 2 = 0 then 7 else 8
  | _ => 8

structure ClockFace where
  hour : Nat
  minute : Nat := 0
  second : Nat := 0
  microsecond : Nat := 0

def ClockFace.seconds (face : ClockFace) : Int :=
  face.hour * 3600 + face.minute * 60 + face.second

/-- A fraction of a second as microseconds, behind its mark; digits after the sixth are cut off. -/
def readFraction? : List Char → Option Nat
  | [] => some 0
  | mark :: digits =>
    if mark = '.' ∨ mark = ',' then
      let kept := (digits ++ List.replicate 6 '0').take 6
      some (Text.digitsValue (kept.map fun c => c.toNat - '0'.toNat))
    else none

def readClock? (text : List Char) : Option ClockFace := do
  let (hour, rest) ← readFixed? 2 0 text
  match readFraction? rest with
  | some microsecond => some { hour, microsecond }
  | none => do
    let (minute, rest) ← readFixed? 2 0 (dropMark ':' rest)
    match readFraction? rest with
    | some microsecond => some { hour, minute, microsecond }
    | none => do
      let (second, rest) ← readFixed? 2 0 (dropMark ':' rest)
      (readFraction? rest).map fun microsecond => { hour, minute, second, microsecond }

def readOffset? : List Char → Option (Option Int)
  | [] => some none
  | 'Z' :: _ => some (some 0)
  | '-' :: rest => (readClock? rest).map fun face => some (-face.seconds)
  | _ :: rest => (readClock? rest).map fun face => some face.seconds

def isOffsetMark (c : Char) : Bool :=
  c = '+' || c = '-' || c = 'Z'

def Date.read? (s : String) : Option Date :=
  readDate? s.toList

def Moment.read? (s : String) : Option Moment := do
  let text := s.toList
  let date ← readDate? (text.take (dateLength text))
  match text.drop (dateLength text) with
  | [] => some { date }
  | _ :: rest => do
    let face ← readClock? (rest.takeWhile fun c => !isOffsetMark c)
    let offset ← readOffset? (rest.dropWhile fun c => !isOffsetMark c)
    if face.hour < 24 ∧ face.minute < 60 ∧ face.second < 60 then
      some {
        date, hour := face.hour, minute := face.minute, second := face.second
        microsecond := face.microsecond, offset }
    else none

end TableGateway
