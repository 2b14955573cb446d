import TableGateway.Failure
import TableGateway.Logging.Level
import TableGateway.Logging.Rolling

namespace TableGateway

inductive LogHandler
  | file
  | console (level : Value)
  deriving Repr

structure LogStart where
  service : String := "dbrest"
  directory : Option String := none
  level : Value := .null
  toConsole : Bool := true
  toFile : Bool := true
  deriving Repr

/-- The directory of the files: the one that is asked for, the one in the environment, or a default.
There is none if nothing goes to a file. -/
def LogStart.folder? (options : LogStart) (env : Environment) : Option String :=
  if options.toFile then
    some ((options.directory.orElse fun _ => env.given? "LOG_DIR").getD "var/logs")
  else none

structure LogOrigin where
  time : String
  process : String
  deriving Repr

structure ServiceLog where
  level : Value
  handlers : List LogHandler
  file : Option RollingLog
  deriving Repr

namespace ServiceLog

/-- Whether a record of a level is written. Nothing is written at a level of zero or below. -/
def takes (log : ServiceLog) (level : Int) : Bool :=
  0 < level && levelNumber log.level ≤ level

def line (origin : LogOrigin) (level : Int) (source message : String) : String :=
  origin.time ++ " " ++ levelText (.int level) ++ " [" ++ origin.process ++ "] " ++ source ++
    ": " ++ message

def write (log : ServiceLog) (now : Moment) (origin : LogOrigin) (level : Int)
    (source message : String) : ServiceLog :=
  if log.takes level then
    { log with file := log.file.map fun file => file.write now (line origin level source message) }
  else log

def start (env : Environment) (options : LogStart) (files : LogFiles) (now : Moment)
    (origin : LogOrigin) : Except Failure ServiceLog := do
  let level := coerceLevel env options.level
  match level with
  | .text name => throw (.unknownLevel (Value.literal (.text name)))
  | _ => pure ()
  let folder := options.folder? env
  let file := folder.map fun _ =>
    RollingLog.openIn files options.service RollingLog.defaultMaxSize now
  let log : ServiceLog :=
    { level, file
      handlers := (if folder.isSome then [.file] else []) ++
        (if options.toConsole then [.console level] else []) }
  pure (log.write now origin infoLevel "root"
    ("Logging started app=" ++ options.service ++ " dir=" ++ folder.getD "-" ++
      " level=" ++ levelText level))

/-- Starts a log a number of times more; only the last one runs. -/
def startAgain (env : Environment) (options : LogStart) (now : Moment) (origin : LogOrigin) :
    (times : Nat) → ServiceLog → Except Failure ServiceLog
  | 0, log => .ok log
  | times + 1, log => do
    let log ← start env options ((log.file.map RollingLog.files).getD []) now origin
    startAgain env options now origin times log

end ServiceLog

end TableGateway
