import TableGateway.Database.Locator

/-!
# What an address may ask of a connection

Whether a connection can be made from an address is found out when an engine is made for it. An
embedded database has neither user nor host, and its options have kinds of their own. The options of
a server may name several hosts, each with a port of its own or with none.
-/

namespace TableGateway

open Text

namespace Locator

inductive OptionKind
  | switch
  | number
  | integer
  deriving Repr, DecidableEq

def embeddedOptions : List (String × OptionKind) :=
  [("uri", .switch), ("timeout", .number), ("detect_types", .integer),
   ("check_same_thread", .switch), ("cached_statements", .integer)]

/-- The options of an embedded database that are no part of the name of its file. -/
def connectionOptions : List String :=
  "isolation_level" :: embeddedOptions.map Prod.fst

def switchOnWords : List String := ["true", "yes", "on", "y", "t", "1"]

def switchOffWords : List String := ["false", "no", "off", "n", "f", "0"]

def readSwitch (text : String) : Except Failure Bool :=
  let word := lower (trimmed text)
  if switchOnWords.contains word then .ok true
  else if switchOffWords.contains word then .ok false
  else .error (.notSwitch word)

/-- Reads the values of an option. Several values are no number, but they do switch on. -/
def checkOption : OptionKind → List String → Except Failure Unit
  | .switch, [text] => (readSwitch text).map fun _ => ()
  | .switch, _ => .ok ()
  | .number, [text] => ((Number.readFloat text).mapError Failure.number).map fun _ => ()
  | .number, _ => .error (.number (.notNumeric "tuple"))
  | .integer, [text] => ((Number.readInt text).mapError Failure.number).map fun _ => ()
  | .integer, _ => .error (.notIntegral "tuple")

def isFileAddress (l : Locator) : Bool :=
  match l.option? "uri" with
  | some [text] => (readSwitch text).toOption = some true
  | some _ => true
  | none => false

def namesServer (l : Locator) : Bool :=
  let isGiven (part : Option String) : Bool := part.any fun text => !text.isEmpty
  isGiven l.user || isGiven l.password || isGiven l.host || l.port.any (· != 0)

def checkEmbedded (l : Locator) : Except Failure Unit := do
  if l.namesServer then throw (.notEmbedded l.masked)
  embeddedOptions.forM fun (name, kind) => ((l.option? name).map (checkOption kind)).getD (.ok ())
  let others := l.options.filter fun option => !connectionOptions.contains option.1
  if l.isFileAddress && !others.isEmpty && l.database.isNone then throw .noFileName

def hostWithPort? (text : String) : Option (String × Option String) :=
  let isHostChar (c : Char) : Bool := c.isAlphanum || c = '-' || c = '.'
  match text.toList.span isHostChar with
  | (host, ':' :: port) =>
    let (digits, rest) := port.span isDigit
    if rest = [] ∨ rest = ['\n'] then
      some (String.ofList host, if digits.isEmpty then none else some (String.ofList digits))
    else none
  | _ => none

def hosts (l : Locator) :
    Except Failure (Option (List String) × Option (List (Option String))) :=
  match l.option? "host" with
  | none => .ok (none, none)
  | some [text] =>
    match text.splitOn "," with
    | [host] =>
      match hostWithPort? host with
      | some (host, port) => .ok (some [host], some [port])
      | none => .ok (some [host], none)
    | hosts => .ok (some hosts, none)
  | some entries =>
    let parts := entries.map fun entry => entry.splitOn ":"
    if parts.all fun part => 2 < part.length then .error .tooManyParts
    else .ok (some (parts.map fun part => part.headD ""), some (parts.map fun part => part[1]?))

/-- The port of each host as it is written: beside the hosts, or in an option of its own. -/
def ports (l : Locator) (beside : Option (List (Option String))) :
    Except Failure (Option (List (Option String))) :=
  match l.option? "port", beside with
  | none, beside => .ok beside
  | some _, some _ => .error .mixedHosts
  | some [text], none => .ok (some ((text.splitOn ",").map some))
  | some texts, none => .ok (some (texts.map some))

def isPortText (text : Option String) : Bool :=
  match text with
  | none => true
  | some text => text.isEmpty || (Number.readInt text).toOption.isSome

/-- Checks the address of a server: every port is a number, and there are as many ports as hosts
unless there is only one of each. -/
def checkServer (l : Locator) : Except Failure Unit := do
  let (hosts, beside) ← l.hosts
  match ← l.ports beside with
  | none => pure ()
  | some ports =>
    if !ports.all isPortText then throw (.badPorts ports)
    let expected := (hosts.map List.length).getD 1
    if ports.length ≠ expected then throw .unmatchedPorts

end Locator

end TableGateway
