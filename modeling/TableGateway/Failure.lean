import TableGateway.Database.Schema
import TableGateway.Number.Read
import TableGateway.Text.Utf8
import TableGateway.Value.Display

/-!
# Failures

A request that cannot be served ends in an `ApiError`, which is what the client is told. Any other
failure is not meant for the client.
-/

namespace TableGateway

open Text

inductive ApiError
  | unknownResource (name : String)
  | forbidden
  | methodNotAllowed (method : String) (kind : Kind) (name : String)
  | idNotAllowed
  | idMissing (method : String)
  | idInBody
  | noColumns
  | bodyNotObject
  | badColumn (shown : String)
  | unknownColumns (resource : String) (names : List String)
  | noSalt
  | refused (message : String)
  | badJson
  | noLoginBody
  | loginIncomplete (field : String)
  | loginFailed
  | notLoggedIn
  deriving Repr, DecidableEq

namespace ApiError

def status : ApiError → Nat
  | .unknownResource _ => 404
  | .forbidden => 403
  | .methodNotAllowed .. => 405
  | .noSalt => 500
  | .loginFailed => 401
  | .notLoggedIn => 401
  | _ => 400

def message : ApiError → String
  | .unknownResource name => name ++ " is not a table or view."
  | .forbidden => "Forbidden."
  | .methodNotAllowed method kind name =>
    method ++ "-method not allowed on " ++ kind.name ++ " " ++ name ++ "."
  | .idNotAllowed => "Do not use id:s with post requests!"
  | .idMissing method => "You must provide an id in the URL with " ++ method ++ " requests!"
  | .idInBody => "You should not provide an id in the request body!"
  | .noColumns => "The request body must contain at least one column."
  | .bodyNotObject => "The request body must be a JSON object."
  | .badColumn shown => "Invalid column name: " ++ shown
  | .unknownColumns resource names =>
    "Unknown column(s) for " ++ resource ++ ": " ++ ", ".intercalate names
  | .noSalt => "Server misconfiguration: password salt is not set."
  | .refused message => message
  | .badJson => "Invalid JSON body."
  | .noLoginBody => "Expected JSON body."
  | .loginIncomplete field => "Missing '" ++ field ++ "' or 'password'."
  | .loginFailed => "Invalid login or password."
  | .notLoggedIn => "Not logged in."

def body (e : ApiError) : Value :=
  .record [("error", .text e.message)]

end ApiError

inductive Failure
  | api (e : ApiError)
  | number (e : Number.Error)
  | unbalanced (placeholders parameters : Nat)
  | query (message : String)
  | noSuchTable (name : String)
  | breakdown (text : String)
  | noRows
  | emptySalt
  | badOperator (symbol : String)
  | badJoin (word : String)
  | notIterable (kind : String)
  | unusableName (kind : String)
  | badIdentity (value : String)
  | unknownLevel (level : String)
  | noSession
  | noFile
  | tooDeep
  | undecodable (fault : Utf8.Fault)
  | unencodable (text : HalvedText)
  | nullInVariable
  | badVariableName
  | unreadableAddress
  | emptyPort
  | notEmbedded (address : String)
  | notSwitch (word : String)
  | notIntegral (kind : String)
  | noFileName
  | tooManyParts
  | mixedHosts
  | badPorts (ports : List (Option String))
  | unmatchedPorts
  | notEngine (kind : String)
  deriving Repr, DecidableEq

/-- What is said about bytes that are no text. A single byte is named by its value. -/
def faultMessage (fault : Utf8.Fault) : String :=
  let place := Number.writeInt fault.position
  let last := Number.writeInt (fault.position + fault.broken.bytes.length - 1)
  "'utf-8' codec can't decode " ++
    (match fault.broken.bytes with
      | [byte] => "byte 0x" ++ String.ofList (hexPadded 2 byte.toNat) ++ " in position " ++ place
      | _ => "bytes in position " ++ place ++ "-" ++ last) ++
    ": " ++ fault.broken.flaw.message

/-- Ports as they are written, in parentheses; a single one is followed by a comma. -/
def portsText (ports : List (Option String)) : String :=
  let texts := ports.map fun port => port.elim "None" quoted
  "(" ++ ", ".intercalate texts ++ (if texts.length = 1 then ",)" else ")")

def Failure.message : Failure → String
  | .api e => e.message
  | .number e => e.message
  | .unbalanced placeholders parameters =>
    "statement has " ++ Number.writeInt placeholders ++ " placeholders but " ++
      Number.writeInt parameters ++ " parameters"
  | .query message => message
  | .noSuchTable name => name
  | .breakdown text => text
  | .noRows => "0"
  | .emptySalt => "PasswordHasher needs a non-empty salt."
  | .badOperator symbol => quoted symbol ++ " is not a valid Operator"
  | .badJoin word => quoted word ++ " is not a valid JoinKind"
  | .notIterable kind => "'" ++ kind ++ "' object is not iterable"
  | .unusableName kind => "unhashable type: '" ++ kind ++ "'"
  | .badIdentity value => "Invalid identity configuration value: " ++ value
  | .unknownLevel level => "Unknown level: " ++ level
  | .noSession => "There are no sessions without a key."
  | .noFile => "There is no such file."
  | .tooDeep => "The body nests too deep."
  | .undecodable fault => faultMessage fault
  | .unencodable text => halvesMessage text
  | .nullInVariable => "embedded null byte"
  | .badVariableName => "illegal environment variable name"
  | .unreadableAddress => "Could not parse SQLAlchemy URL from given URL string"
  | .emptyPort => "Port argument must be an integer or None"
  | .notEmbedded address =>
    "Invalid SQLite URL: " ++ address ++ "\nValid SQLite URL forms are sqlite:///:memory: or " ++
      "sqlite:////absolute/path/to/file.db"
  | .notSwitch word => "String is not true/false: " ++ quoted word
  | .notIntegral kind =>
    "int() argument must be a string, a bytes-like object or a real number, not '" ++ kind ++ "'"
  | .noFileName => "unsupported operand type(s) for +=: 'NoneType' and 'str'"
  | .tooManyParts => "too many values to unpack (expected 2)"
  | .mixedHosts =>
    "Can't mix 'multihost' formats together; use \"host=h1,h2,h3&port=p1,p2,p3\" or " ++
      "\"host=h1:p1&host=h2:p2&host=h3:p3\" separately"
  | .badPorts ports => "Received non-integer port arguments: " ++ portsText ports
  | .unmatchedPorts => "number of hosts and ports don't match"
  | .notEngine kind => "'" ++ kind ++ "' object has no attribute 'dialect'"

/-- The value under a configured name. A name that is not a text is never there, and a list or a
record cannot be a name at all. -/
def Record.lookup (r : Record) : (name : Value) → Except Failure Value
  | .text name => .ok (r.get name)
  | .list _ => .error (.unusableName "list")
  | .record _ => .error (.unusableName "dict")
  | .mangled .. => .error (.unusableName "dict")
  | _ => .ok .null

end TableGateway
