import TableGateway.Number.Layout

namespace TableGateway

structure Date where
  year : Nat
  month : Nat
  day : Nat
  deriving Repr, DecidableEq

/-- A moment on a day. `offset` is the local time's distance from universal time in seconds, if
known. -/
structure Moment where
  date : Date
  hour : Nat := 0
  minute : Nat := 0
  second : Nat := 0
  microsecond : Nat := 0
  offset : Option Int := none
  deriving Repr, DecidableEq

namespace Calendar

def isLeap (year : Nat) : Bool :=
  year % 4 == 0 && (year % 100 != 0 || year % 400 == 0)

def monthLengths (year : Nat) : List Nat :=
  [31, if isLeap year then 29 else 28, 31, 30, 31, 30, 31, 31, 30, 31, 30, 31]

def monthLength (year month : Nat) : Nat :=
  (monthLengths year).getD (month - 1) 0

def firstYear : Nat := 1

def lastYear : Nat := 9999

def daysBeforeYear (year : Nat) : Nat :=
  let y := year - 1
  365 * y + y / 4 - y / 100 + y / 400

def daysBeforeMonth (year month : Nat) : Nat :=
  ((monthLengths year).take (month - 1)).foldl (· + ·) 0

end Calendar

open Calendar Number

def Date.isValid (d : Date) : Bool :=
  firstYear ≤ d.year && d.year ≤ lastYear && 1 ≤ d.month && d.month ≤ 12 && 1 ≤ d.day &&
    d.day ≤ monthLength d.year d.month

def Date.ordinal (d : Date) : Nat :=
  daysBeforeYear d.year + daysBeforeMonth d.year d.month + d.day

def Date.weekday (d : Date) : Nat :=
  (d.ordinal + 6) % 7

def Date.next? (d : Date) : Option Date :=
  if d.day < monthLength d.year d.month then some { d with day := d.day + 1 }
  else if d.month < 12 then some { d with month := d.month + 1, day := 1 }
  else if d.year < lastYear then some ⟨d.year + 1, 1, 1⟩
  else none

def Date.previous? (d : Date) : Option Date :=
  if 1 < d.day then some { d with day := d.day - 1 }
  else if 1 < d.month then
    some { d with month := d.month - 1, day := monthLength d.year (d.month - 1) }
  else if firstYear < d.year then some ⟨d.year - 1, 12, 31⟩
  else none

def Date.shift? (d : Date) (days : Int) : Option Date :=
  let move := if days < 0 then Date.previous? else Date.next?
  (List.range days.natAbs).foldl (fun day _ => day.bind move) (some d)

/-- The day with a place in a week of a year. The first week of a year holds the fourth of January,
and weeks begin on Mondays. -/
def Date.ofWeek? (year week day : Nat) : Option Date :=
  let fourth : Date := ⟨year, 1, 4⟩
  fourth.shift? (7 * ((week : Int) - 1) + ((day : Int) - 1) - fourth.weekday)

def Moment.secondOfDay (m : Moment) : Int :=
  m.hour * 3600 + m.minute * 60 + m.second

/-- The same moment told in universal time, unless it falls outside the calendar. A moment with no
known offset is taken to be told in universal time already. -/
def Moment.universal? (m : Moment) : Option Moment :=
  let shifted := m.secondOfDay - m.offset.getD 0
  let day :=
    if shifted < 0 then m.date.previous?
    else if 86400 ≤ shifted then m.date.next?
    else some m.date
  day.map fun date =>
    let s := (shifted % 86400).toNat
    { date, hour := s / 3600, minute := s / 60 % 60, second := s % 60,
      microsecond := m.microsecond, offset := some 0 }

def Date.isoChars (d : Date) : List Char :=
  padded 4 d.year ++ '-' :: (padded 2 d.month ++ '-' :: padded 2 d.day)

def Date.iso (d : Date) : String :=
  String.ofList d.isoChars

def offsetChars (offset : Int) : List Char :=
  let size := offset.natAbs
  (if offset < 0 then '-' else '+') ::
    (padded 2 (size / 3600) ++ ':' :: padded 2 (size / 60 % 60)) ++
    (if size % 60 = 0 then [] else ':' :: padded 2 (size % 60))

/-- Year first, with `separator` between day and time. The fraction of a second has six digits or is
left out when it is zero. -/
def Moment.isoWith (separator : Char) (m : Moment) : String :=
  String.ofList <|
    m.date.isoChars ++ separator :: (padded 2 m.hour ++ ':' :: (padded 2 m.minute ++ ':' ::
      padded 2 m.second)) ++
    (if m.microsecond = 0 then [] else '.' :: padded 6 m.microsecond) ++
    (match m.offset with
      | some offset => offsetChars offset
      | none => [])

def Moment.iso (m : Moment) : String :=
  m.isoWith 'T'

def weekdayNames : List String :=
  ["Mon", "Tue", "Wed", "Thu", "Fri", "Sat", "Sun"]

def monthNames : List String :=
  ["Jan", "Feb", "Mar", "Apr", "May", "Jun", "Jul", "Aug", "Sep", "Oct", "Nov", "Dec"]

def Moment.headerText (m : Moment) : String :=
  let two (n : Nat) := String.ofList (padded 2 n)
  weekdayNames.getD m.date.weekday "" ++ ", " ++ two m.date.day ++ " " ++
    monthNames.getD (m.date.month - 1) "" ++ " " ++ String.ofList (padded 4 m.date.year) ++ " " ++
    two m.hour ++ ":" ++ two m.minute ++ ":" ++ two m.second ++ " GMT"

def Moment.header? (m : Moment) : Option String :=
  m.universal?.map Moment.headerText

def Date.midnight (d : Date) : Moment :=
  { date := d }

def Date.header (d : Date) : String :=
  d.midnight.headerText

/-- What a header says when it is read back: whole seconds, and a year below one hundred moved into
the century around 1969 to 2068. -/
def Moment.throughHeader (m : Moment) : Moment :=
  let year :=
    if m.date.year < 69 then m.date.year + 2000
    else if m.date.year < 100 then m.date.year + 1900
    else m.date.year
  { m with date := { m.date with year }, microsecond := 0, offset := some 0 }

end TableGateway
