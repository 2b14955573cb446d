import TableGateway.Failure
import TableGateway.Json.Bytes
import TableGateway.Settings.Coercion
import TableGateway.Settings.Environment

/-!
# Configuration

Settings are put together in layers, each of which replaces what it names of the layers before: the
defaults, the file of settings, the file of secrets, the environment, and what the caller sets. At
the end three settings are brought into shape, and a missing key for sessions is taken from the
salt.
-/

namespace TableGateway

namespace Config

def defaults : Record :=
  [("IDENTITY_TABLE", .text "users"), ("PASSWORD_FIELD", .text "password"),
   ("LOGIN_FIELD", .text "email"), ("ROLE_FIELD", .text "role"), ("SCHEMA_CACHE_SECONDS", .int 0),
   ("STRICT_COLUMNS", .bool false), ("ACL_RULES", .null), ("PASSWORD_SALT", .null),
   ("SECRET_KEY", .null)]

def fileNames : List (String × String) :=
  [("identity_table", "IDENTITY_TABLE"), ("password_field", "PASSWORD_FIELD"),
   ("login_field", "LOGIN_FIELD"), ("role_field", "ROLE_FIELD"),
   ("schema_cache_seconds", "SCHEMA_CACHE_SECONDS"), ("strict_columns", "STRICT_COLUMNS"),
   ("acl", "ACL_RULES")]

def secretNames : List (String × String) :=
  [("user_password_salt", "PASSWORD_SALT"), ("session_secret", "SECRET_KEY")]

def variableNames : List String :=
  ["PASSWORD_SALT", "SECRET_KEY", "DATABASE_URL"]

/-- The object in a file. A file that is missing or holds something else counts as an empty
object. -/
def readObject (path : String) (file : Option (List UInt8)) : Logged Record :=
  match file with
  | none => ⟨[], []⟩
  | some bytes =>
    match (Json.readFile? bytes).map Value.record? with
    | some (some fields) => ⟨fields, []⟩
    | some none => ⟨[], [⟨.warning, .settings,
        path ++ " does not contain a JSON object; ignoring it"⟩]⟩
    | none => ⟨[], [⟨.warning, .settings,
        "Could not read " ++ path ++ "; falling back to defaults"⟩]⟩

def fileLayer (file : Record) : Record :=
  fileNames.filterMap fun (name, setting) => (file.get? name).map fun value => (setting, value)

/-- What the file of secrets sets: only texts that are not empty count. -/
def secretLayer (file : Record) : Record :=
  secretNames.filterMap fun (name, setting) =>
    match file.get name with
    | .text secret => if secret.isEmpty then none else some (setting, .text secret)
    | .halved secret => some (setting, .halved secret)
    | _ => none

/-- What the environment sets: only variables that are not empty count. -/
def variableLayer (env : Environment) : Record :=
  variableNames.filterMap fun name => (env.given? name).map fun value => (name, .text value)

def layered (layers : List Record) : Record :=
  layers.foldl Record.putAll []

def noSaltNotice : LogRecord :=
  ⟨.error, .settings,
    "No password salt configured (secrets.json user_password_salt or PASSWORD_SALT)"⟩

def rulesValue (rules : Option (List Record)) : Value :=
  match rules with
  | some rules => .list (rules.map .record)
  | none => .null

def complete (settings : Record) (lifetime : Value) : Logged Record :=
  let rules := coerceRules (settings.get "ACL_RULES")
  let shaped := settings.putAll
    [("SCHEMA_CACHE_SECONDS", lifetime),
     ("STRICT_COLUMNS", .bool (coerceFlag (settings.get "STRICT_COLUMNS"))),
     ("ACL_RULES", rulesValue rules.value)]
  let salt := shaped.get "PASSWORD_SALT"
  { value :=
      if (shaped.get "SECRET_KEY").isTruthy then shaped else shaped.put "SECRET_KEY" salt
    records := rules.records ++ if salt.isTruthy then [] else [noSaltNotice] }

def buildIn (d : Deployment) (env : Environment) (overrides : Record) :
    Logged (Except Failure Record) :=
  let app := readObject (d.filePath "appconfig.json") d.appConfig
  let secrets := readObject (d.filePath "secrets.json") d.secrets
  let settings := layered
    [defaults, fileLayer app.value, secretLayer secrets.value, variableLayer env, overrides]
  match coerceNonNegative (settings.get "SCHEMA_CACHE_SECONDS") (.int 0) with
  | .error e => ⟨.error (.number e), app.records ++ secrets.records⟩
  | .ok lifetime =>
    let config := complete settings lifetime
    ⟨.ok config.value, app.records ++ secrets.records ++ config.records⟩

def build (d : Deployment) (overrides : Record) : Logged (Except Failure Record) :=
  d.environment.andThen fun env => buildIn d env overrides

end Config

end TableGateway
