import TableGateway.Calendar

/-!
# Rolling log files

A log that moves on to a new file when the current one would grow too large. The new file is named
after the time at which it was opened. A file that is already there is continued, never emptied.
-/

namespace TableGateway

open Number

/-- The texts of files by name, each name once, in the order in which they were first opened. -/
abbrev LogFiles := List (String × String)

namespace LogFiles

def text (files : LogFiles) (name : String) : String :=
  ((files.find? fun file => file.1 = name).map Prod.snd).getD ""

def append (files : LogFiles) (name text : String) : LogFiles :=
  match files with
  | [] => [(name, text)]
  | file :: rest =>
    if file.1 = name then (name, file.2 ++ text) :: rest else file :: append rest name text

def sorted (files : LogFiles) : LogFiles :=
  files.mergeSort fun a b => a.1 ≤ b.1

end LogFiles

structure RollingLog where
  name : String
  maxSize : Int
  current : String
  files : LogFiles
  deriving Repr, DecidableEq

def Moment.stamp (m : Moment) : String :=
  String.ofList <|
    padded 1 m.date.year ++ padded 2 m.date.month ++ padded 2 m.date.day ++
    '-' :: (padded 2 m.hour ++ padded 2 m.minute ++ padded 2 m.second ++
    '-' :: padded 3 (m.microsecond / 1000))

namespace RollingLog

def defaultMaxSize : Int := 1000000

def fileName (name : String) (now : Moment) : String :=
  name ++ "-" ++ now.stamp ++ ".log"

def openIn (files : LogFiles) (name : String) (maxSize : Int) (now : Moment) : RollingLog :=
  let current := fileName name now
  { name, maxSize, current, files := files.append current "" }

def rollOver (log : RollingLog) (now : Moment) : RollingLog :=
  openIn log.files log.name log.maxSize now

/-- Whether a message with its newline would fill the current file. The file is measured in bytes
and the message in characters. A limit that is not positive never stops a file from growing. -/
def isFull (log : RollingLog) (message : String) : Bool :=
  0 < log.maxSize &&
    log.maxSize ≤ (log.files.text log.current).utf8ByteSize + (message.length + 1)

/-- Writes a message behind the others, in a new file if the current one is full. A message is a
text of whole characters here; half of one, which has no UTF-8 form, would be written as a question
mark. -/
def write (log : RollingLog) (now : Moment) (message : String) : RollingLog :=
  let log := if log.isFull message then log.rollOver now else log
  { log with files := log.files.append log.current (message ++ "\n") }

end RollingLog

inductive LogStep
  | clock (now : Moment)
  | message (text : String)
  | rollOver
  deriving Repr

structure TimedLog where
  log : RollingLog
  now : Moment
  deriving Repr

namespace TimedLog

def start (name : String) (maxSize : Int) (now : Moment) : TimedLog where
  log := RollingLog.openIn [] name maxSize now
  now := now

def step (t : TimedLog) : LogStep → TimedLog
  | .clock now => { t with now }
  | .message text => { t with log := t.log.write t.now text }
  | .rollOver => { t with log := t.log.rollOver t.now }

def run (t : TimedLog) (steps : List LogStep) : TimedLog :=
  steps.foldl step t

end TimedLog

end TableGateway
