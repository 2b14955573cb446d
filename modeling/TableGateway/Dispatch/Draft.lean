import TableGateway.Database.Statement
import TableGateway.Dispatch.Request
import TableGateway.Password
import TableGateway.Query.Basic
import TableGateway.Query.Predicate

/-!
# Drafts of statements

What a request would do, worked out without asking the database: the statement, and the names of the
columns to be looked up first. A draft fails where the request itself is at fault.
-/

namespace TableGateway

/-- How resources are served. The names of the table of users and of its password column are kept as
they were configured. -/
structure ResourceSettings where
  identityTable : Value := .text "users"
  passwordField : Value := .text "password"
  strictColumns : Bool := false
  regexOperator : String := commonRegexOperator
  deriving Repr

/-- A statement, and the names of columns that strict mode looks up before it runs, if any. -/
structure Draft where
  statement : Statement
  checked : Option (List String) := none
  deriving Repr

def idColumn : String := "id"

def SortEntry.sql (entry : SortEntry) : String :=
  entry.field ++ " " ++ entry.direction.word

def Query.columns (q : Query) : List String :=
  q.filters.map Clause.field ++ q.sort.map SortEntry.field

def Query.tailPieces (q : Query) (predicate : Predicate) : List String :=
  (if predicate.isGiven then ["WHERE " ++ predicate.sql] else []) ++
  (if q.sort.isEmpty then [] else ["ORDER BY " ++ ", ".intercalate (q.sort.map SortEntry.sql)]) ++
  (q.limit.map fun n => "LIMIT " ++ Number.writeInt n).toList ++
  (q.offset.map fun n => "OFFSET " ++ Number.writeInt n).toList

def selectStatement (regexOperator resource : String) (q : Query) (id : Option Value) : Statement :=
  let filters := match id with
    | some id => [{ field := idColumn, op := .eq, value := id }]
    | none => q.filters
  let predicate := Predicate.ofClauses regexOperator filters
  { sql := " ".intercalate (("SELECT * FROM " ++ resource) :: q.tailPieces predicate)
    params := predicate.params }

/-- Reading by id leaves the filters of the query out, and nothing is looked up. -/
def draftRead (settings : ResourceSettings) (request : Request) (id : Option Value) :
    Except Failure Draft :=
  match Query.read request.query with
  | .error e => .error (.number e)
  | .ok q => .ok {
      statement := selectStatement settings.regexOperator request.resource q id
      checked := if id.isNone then some q.columns else none }

def isColumnName (name : List Text.CodePoint) : Bool :=
  (Text.chars? name).any fun name => isIdentifier (String.ofList name)

/-- The columns of a body; no body has none. A name with half of a character is no column. -/
def readBody : Value → Except Failure Record
  | .null => .ok []
  | .record fields =>
    match fields.find? fun field => !isIdentifier field.1 with
    | some field => .error (.api (.badColumn (Text.quoted field.1)))
    | none => .ok fields
  | .mangled names _ =>
    let bad := (names.find? fun name => !isColumnName name).getD []
    .error (.api (.badColumn (Text.quotedPoints bad)))
  | _ => .error (.api .bodyNotObject)

def hashPassword (settings : ResourceSettings) (hasher : Option Hasher) (resource : String)
    (body : Record) : Except Failure Record :=
  match settings.identityTable with
  | .text table =>
    if resource = table then do
      match settings.passwordField, ← body.lookup settings.passwordField with
      | _, .null => pure body
      | .text field, password =>
        match hasher with
        | some hasher => pure (body.put field (.text (← hasher.hashValue password)))
        | none => .error (.api .noSalt)
      | _, _ => pure body
    else .ok body
  | _ => .ok body

def insertStatement (resource : String) (body : Record) : Statement where
  sql := "INSERT INTO " ++ resource ++ " (" ++ ", ".intercalate body.names ++ ") VALUES (" ++
    ", ".intercalate (body.map fun _ => "?") ++ ")"
  params := body.map Prod.snd

def updateStatement (resource : String) (body : Record) (id : Value) : Statement where
  sql := "UPDATE " ++ resource ++ " SET " ++
    ", ".intercalate (body.map fun field => field.1 ++ " = ?") ++ " WHERE " ++ idColumn ++ " = ?"
  params := body.map Prod.snd ++ [id]

def deleteStatement (resource : String) (id : Value) : Statement where
  sql := "DELETE FROM " ++ resource ++ " WHERE " ++ idColumn ++ " = ?"
  params := [id]

/-- A new record gets its id from the database, so neither path nor body may name one. -/
def draftCreate (settings : ResourceSettings) (hasher : Option Hasher) (request : Request) :
    Except Failure Draft := do
  let body ← readBody request.body
  if request.rawId.isSome || body.has idColumn then throw (.api .idNotAllowed)
  if body.isEmpty then throw (.api .noColumns)
  let body ← hashPassword settings hasher request.resource body
  pure { statement := insertStatement request.resource body, checked := some body.names }

/-- A change names its record in the path and nowhere else. -/
def draftUpdate (settings : ResourceSettings) (hasher : Option Hasher) (request : Request)
    (id : Option Value) : Except Failure Draft := do
  match id with
  | none => throw (.api (.idMissing Verb.put.name))
  | some id =>
    let body ← readBody request.body
    if body.has idColumn then throw (.api .idInBody)
    if body.isEmpty then throw (.api .noColumns)
    let body ← hashPassword settings hasher request.resource body
    pure { statement := updateStatement request.resource body id, checked := some body.names }

def draftDelete (request : Request) : (id : Option Value) → Except Failure Draft
  | none => .error (.api (.idMissing Verb.delete.name))
  | some id => .ok { statement := deleteStatement request.resource id }

def Request.draft (request : Request) (settings : ResourceSettings) (hasher : Option Hasher)
    (verb : Verb) (id : Option Value) : Except Failure Draft :=
  match verb with
  | .get => draftRead settings request id
  | .post => draftCreate settings hasher request
  | .put => draftUpdate settings hasher request id
  | .delete => draftDelete request id

end TableGateway
