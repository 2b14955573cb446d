import TableGateway.Http.Basic
import TableGateway.Service.Basic

namespace TableGateway

inductive SessionChange
  | unchanged
  | enter (user : Record)
  | leave
  deriving Repr

structure Handled where
  reply : Reply
  change : SessionChange := .unchanged
  deriving Repr

namespace Service

def identifierOf : Value → Except Failure String
  | .text name =>
    if isIdentifier name then .ok name else .error (.badIdentity (Value.literal (.text name)))
  | v => .error (.badIdentity v.literal)

def credentialStatement (s : Service) (hasher : Hasher) (name password : Value) :
    Except Failure Statement := do
  let table ← identifierOf s.dispatcher.settings.identityTable
  let loginField ← identifierOf s.loginField
  let passwordField ← identifierOf s.dispatcher.settings.passwordField
  let digest ← hasher.hashValue password
  pure {
    sql := "SELECT * FROM " ++ table ++ " WHERE " ++ loginField ++ " = ? AND " ++ passwordField ++
      " = ?"
    params := [name, .text digest] }

/-- The user with a name and a password: the first that the database finds. -/
def findUser (s : Service) (hasher : Hasher) (name password : Value) : Action (Option Record) := do
  let statement ← Action.ofExcept (s.credentialStatement hasher name password)
  Action.emit (.submitted statement)
  match ← Action.runStatement statement with
  | .rows rows => pure rows.head?
  | .written .. => Action.fail .noRows

def publicUser (s : Service) (user : Record) : Record :=
  match s.dispatcher.settings.passwordField with
  | .text field => user.erase field
  | _ => user

/-- The name and the password that a request brings. Neither may be missing, and the name may not be
empty. -/
def credentials (s : Service) (r : HttpRequest) : Except Failure (Value × Value) := do
  let body ← if r.saysJson then r.json? else pure none
  match body.bind Value.record? with
  | some fields =>
    let incomplete : Except Failure (Value × Value) :=
      .error (.api (.loginIncomplete s.loginField.display))
    match ← Record.lookup fields s.loginField, Record.get fields "password" with
    | .null, _ => incomplete
    | .text "", _ => incomplete
    | _, .null => incomplete
    | name, password => pure (name, password)
  | none => throw (.api .noLoginBody)

def failedLoginNotice (s : Service) (name : Value) : LogRecord :=
  ⟨.info, .login, "failed login for " ++ s.loginField.display ++ "=" ++ name.literal⟩

/-- Logs a user in. What is wrong with a name or a password is not told. -/
def login (s : Service) (r : HttpRequest) : Action Handled := do
  let (name, password) ← Action.ofExcept (s.credentials r)
  match s.dispatcher.hasher with
  | none => Action.fail (.api .noSalt)
  | some hasher =>
    let found ← Action.rescue (s.findUser hasher name password) fun
      | .query message => Action.fail (.api (.refused message))
      | e => Action.fail e
    match found with
    | none => do
      Action.logAll [s.failedLoginNotice name]
      Action.fail (.api .loginFailed)
    | some user =>
      let user := s.publicUser user
      pure { reply := ⟨.record user, 200⟩, change := .enter user }

def whoami (session : Session) : Action Handled :=
  match session with
  | some user => pure { reply := ⟨.record user, 200⟩ }
  | none => Action.fail (.api .notLoggedIn)

/-- Logs the user out. Where there are no sessions there is nothing to leave, which is an error. -/
def logout (s : Service) : Action Handled :=
  if s.sessions.isOn then
    pure { reply := ⟨.record [("ok", .bool true)], 200⟩, change := .leave }
  else Action.fail .noSession

end Service

end TableGateway
