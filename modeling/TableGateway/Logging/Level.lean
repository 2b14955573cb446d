import TableGateway.Settings.Environment
import TableGateway.Value.Display

namespace TableGateway

open Text

/-- The levels with a name, the name that is shown first. -/
def levelNames : List (String × Int) :=
  [("CRITICAL", 50), ("ERROR", 40), ("WARNING", 30), ("INFO", 20), ("DEBUG", 10), ("NOTSET", 0),
   ("FATAL", 50), ("WARN", 30)]

def infoLevel : Int := 20

def debugLevel : Int := 10

/-- The form of a record, which shares the names of levels. -/
def basicFormat : String := "%(levelname)s:%(name)s:%(message)s"

/-- A capital letter for a small one, as far as the names of levels reach: ASCII, and the two other
small letters whose capitals are in ASCII. -/
def capitalChar (c : Char) : Char :=
  if c = 'ı' then 'I' else if c = 'ſ' then 'S' else c.toUpper

def namedLevel (name : String) : Value :=
  let name := String.ofList (name.toList.map capitalChar)
  if name = "BASIC_FORMAT" then .text basicFormat
  else .int (((levelNames.find? fun level => level.1 = name).map Prod.snd).getD infoLevel)

def coerceLevel (env : Environment) (setting : Value) : Value :=
  let fromEnvironment := namedLevel ((env.get? "LOG_LEVEL").getD "INFO")
  match setting with
  | .int n => .int n
  | .bool b => .bool b
  | .text s => if (trimmed s).isEmpty then fromEnvironment else namedLevel (trimmed s)
  | .halved _ => .int infoLevel
  | _ => fromEnvironment

def levelNumber : Value → Int
  | .int n => n
  | .bool true => 1
  | _ => 0

def levelText (level : Value) : String :=
  match levelNames.find? fun named => named.2 = levelNumber level with
  | some named => named.1
  | none => "Level " ++ level.display

end TableGateway
