import TableGateway.Database.Address
import TableGateway.Failure
import TableGateway.Text.WordChar

/-!
# Addresses taken apart

The parts of an address as an engine sees them. User, password and database may be coded by percent
signs; options follow a question mark, and one that is given several times has several values.
-/

namespace TableGateway

open Text

structure Locator where
  scheme : String
  user : Option String := none
  password : Option String := none
  host : Option String := none
  port : Option Int := none
  database : Option String := none
  options : List (String × List String) := []
  deriving Repr

namespace Locator

def isSchemeChar (c : Char) : Bool :=
  isWordChar c || c = '+'

structure Login where
  user : List Char
  password : Option (List Char) := none

/-- Takes user and password off. The password ends at the first at sign, and a user without a
password ends at the last one before a colon or slash. -/
def takeLogin (text : List Char) : Option Login × List Char :=
  let (plain, rest) := text.span fun c => c ≠ ':' && c ≠ '/'
  let withoutPassword :=
    match plain.reverse.span (· ≠ '@') with
    | (host, _ :: user) => (some ⟨user.reverse, none⟩, host.reverse ++ rest)
    | _ => (none, text)
  match rest with
  | ':' :: rest =>
    match rest.span (· ≠ '@') with
    | (password, _ :: after) => (some ⟨plain, some password⟩, after)
    | _ => withoutPassword
  | _ => withoutPassword

def takeHost (text : List Char) : Option (List Char) × List Char :=
  let bare :=
    match text.span fun c => c ≠ ':' && c ≠ '/' && c ≠ '?' with
    | ([], rest) => (none, rest)
    | (host, rest) => (some host, rest)
  match text with
  | '[' :: rest =>
    let (inside, after) := rest.span fun c => c ≠ '/' && c ≠ '?'
    match inside.reverse.span (· ≠ ']') with
    | (tail, _ :: c :: host) => (some (c :: host).reverse, tail.reverse ++ after)
    | _ => bare
  | _ => bare

def takePart (mark : Char) (ends : Char → Bool) (text : List Char) :
    Option (List Char) × List Char :=
  match text with
  | c :: rest =>
    if c = mark then
      let (part, after) := rest.span fun c => !ends c
      (some part, after)
    else (none, text)
  | [] => (none, [])

/-- The number of a port. A port that is named has to have one. -/
def readPort (text : List Char) : Except Failure Int :=
  if text.isEmpty then .error .emptyPort
  else (Number.readInt (String.ofList text)).mapError .number

def addOption (options : List (String × List String)) (field : String × String) :
    List (String × List String) :=
  match options with
  | [] => [(field.1, [field.2])]
  | option :: rest =>
    if option.1 = field.1 then (option.1, option.2 ++ [field.2]) :: rest
    else option :: addOption rest field

def readOptions (text : List Char) : List (String × List String) :=
  (Percent.readFields text).foldl addOption []

def decoded (text : List Char) : String :=
  String.ofList (Percent.decode text)

structure Written where
  scheme : List Char
  login : Option Login
  host : Option (List Char)
  port : Option (List Char)
  database : Option (List Char)
  options : Option (List Char)

def Written.ofText (address : String) : Except Failure Written :=
  match cut? schemeMark address.toList with
  | none => .error .unreadableAddress
  | some (scheme, rest) =>
    if scheme.isEmpty || !scheme.all isSchemeChar then .error .unreadableAddress
    else
      let (login, rest) := takeLogin rest
      let (host, rest) := takeHost rest
      let (port, rest) := takePart ':' (fun c => c = '/' || c = '?') rest
      let (database, rest) := takePart '/' (· = '?') rest
      let (options, _) := takePart '?' (· = '\n') rest
      .ok { scheme, login, host, port, database, options }

def ofWritten (parts : Written) : Except Failure Locator := do
  let port ← parts.port.mapM readPort
  return {
    scheme := String.ofList parts.scheme
    user := parts.login.map fun login => decoded login.user
    password := (parts.login.bind Login.password).map decoded
    host := parts.host.map String.ofList
    port
    database := parts.database.map decoded
    options := (parts.options.map readOptions).getD [] }

def read (address : String) : Except Failure Locator :=
  (Written.ofText address).bind ofWritten

def option? (l : Locator) (name : String) : Option (List String) :=
  l.options.lookup name

def optionsText (options : List (String × List String)) : String :=
  "&".intercalate <| (options.mergeSort fun a b => a.1 ≤ b.1).flatMap fun (name, values) =>
    values.map fun value =>
      String.ofList (Percent.encodeForm name.toList ++ '=' :: Percent.encodeForm value.toList)

def masked (l : Locator) : String :=
  let part (mark : String) (text : Option String) : String := text.elim "" (mark ++ ·)
  let coded (marks : String) (text : String) : String :=
    String.ofList (Percent.encodeBut marks.toList text.toList)
  let login := l.user.elim "" fun user =>
    coded " +" user ++ part ":" (l.password.map fun _ => "***") ++ "@"
  let host := l.host.elim "" fun host => if host.contains ':' then "[" ++ host ++ "]" else host
  l.scheme ++ "://" ++ login ++ host ++ part ":" (l.port.map Number.writeInt) ++
    part "/" (l.database.map (coded " +/")) ++
    (if l.options.isEmpty then "" else "?" ++ optionsText l.options)

end Locator

end TableGateway
