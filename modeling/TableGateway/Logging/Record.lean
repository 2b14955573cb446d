namespace TableGateway

inductive Severity
  | debug
  | info
  | warning
  | error
  deriving Repr, DecidableEq

def Severity.name : Severity → String
  | .debug => "DEBUG"
  | .info => "INFO"
  | .warning => "WARNING"
  | .error => "ERROR"

inductive LogSource
  | query
  | database
  | schema
  | access
  | settings
  | login
  | service
  deriving Repr, DecidableEq

def LogSource.name : LogSource → String
  | .query => "dbrest.query_filter"
  | .database => "dbrest.db"
  | .schema => "dbrest.schema"
  | .access => "dbrest.acl"
  | .settings => "dbrest.config_loader"
  | .login => "dbrest.user_login"
  | .service => "dbrest.main"

structure LogRecord where
  severity : Severity
  source : LogSource
  message : String
  deriving Repr, DecidableEq

structure Logged (α : Type) where
  value : α
  records : List LogRecord := []
  deriving Repr

/-- Goes on with a result; after a failure nothing more is done or written. -/
def Logged.andThen {ε α β : Type} (x : Logged (Except ε α)) (f : α → Logged (Except ε β)) :
    Logged (Except ε β) :=
  match x.value with
  | .ok a => { f a with records := x.records ++ (f a).records }
  | .error e => ⟨.error e, x.records⟩

end TableGateway
