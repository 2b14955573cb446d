import TableGateway.Database.Engine
import TableGateway.Dispatch.Basic
import TableGateway.Logging.Start
import TableGateway.Session
import TableGateway.Settings.Config

namespace TableGateway

structure Service where
  dispatcher : Dispatcher
  loginField : Value
  sessions : SessionKeeping

def Action.ofLogged {α : Type} (made : Logged (Except Failure α)) : Action α := do
  logAll made.records
  ofExcept made.value

namespace Service

/-- The setting that names the engine, if there is one: an engine of its own, or else the address of
one. -/
def engineSetting? (config : Record) : Option Value :=
  match config.get "DATABASE_ENGINE" with
  | .null =>
    let address := config.get "DATABASE_URL"
    if address.isTruthy then some address else none
  | engine => some engine

def namedEngine (d : Deployment) : Value → Logged (Except Failure Engine)
  | .text address => Engine.create d.allVariables address
  | .halved address => Engine.create d.allVariables (Text.shownPoints address.points)
  | v => ⟨.error (.notEngine v.kindName), []⟩

def configuredEngine (d : Deployment) (config : Record) : Logged (Except Failure Engine) :=
  (engineSetting? config).elim d.engine (namedEngine d)

def hasherOf (config : Record) : Except Failure (Option Hasher) :=
  let salt := config.get "PASSWORD_SALT"
  if salt.isTruthy then some <$> Hasher.ofSalt salt else .ok none

def rulesOf (config : Record) : Option (List Record) :=
  match config.get "ACL_RULES" with
  | .list entries => some (entries.filterMap Value.record?)
  | _ => none

/-- How sessions are kept by a configuration. With half of a character in the key no request would
come through, so such a service is not put together at all. -/
def sessionsOf (config : Record) : Except Failure SessionKeeping :=
  match config.get "SECRET_KEY" with
  | .halved key => .error (.unencodable key)
  | key => .ok { key, lifetime := config.get "PERMANENT_SESSION_LIFETIME" }

/-- The dialect of the engine that is given, or of the one that the configuration asks for. -/
def dialectOf (d : Deployment) (config : Record) (given : Option String) :
    Logged (Except Failure String) :=
  match given with
  | some dialect => ⟨.ok dialect, []⟩
  | none =>
    let made := configuredEngine d config
    ⟨made.value.map Engine.dialect, made.records⟩

/-- Puts a service together. An engine that is named is made before everything else, and one that is
not named at the very end. -/
def start (d : Deployment) (overrides : Record) (engine : Option String) : Action Service := do
  let config ← Action.ofLogged (Config.build d overrides)
  let isNamed := (engineSetting? config).isSome
  let named ← if isNamed then some <$> Action.ofLogged (dialectOf d config engine) else pure engine
  let hasher ← Action.ofExcept (hasherOf config)
  let lifetime ← Action.ofExcept (Catalog.lifetimeOf (config.get "SCHEMA_CACHE_SECONDS"))
  Action.modifyWorld fun w => { w with catalog := { lifetime } }
  let gate ← Action.ofExcept (Gate.ofEntries (rulesOf config) (config.get "ROLE_FIELD"))
  Action.logAll gate.notices
  let dialect ← Action.ofLogged (dialectOf d config named)
  let sessions ← Action.ofExcept (sessionsOf config)
  Action.log .info .service "dbrest app created"
  pure {
    dispatcher := {
      gate, hasher
      settings := {
        identityTable := config.get "IDENTITY_TABLE"
        passwordField := config.get "PASSWORD_FIELD"
        strictColumns := coerceFlag (config.get "STRICT_COLUMNS")
        regexOperator := regexOperatorFor dialect } }
    loginField := config.get "LOGIN_FIELD"
    sessions }

def offWords : List String := ["0", "false", "no"]

def logStart (d : Deployment) : LogStart :=
  let debugging := (d.processVariables.given? "FLASK_DEBUG").any fun value =>
    !offWords.contains (Text.lower value)
  let developing := d.allVariables.get? "FLASK_ENV" = some "development" || debugging
  { level := if developing then .int debugLevel else .null }

end Service

end TableGateway
