import TableGateway.Database.Connection

namespace TableGateway

structure Pool where
  size : Int
  overflow : Int
  prePing : Bool
  deriving Repr, DecidableEq

/-- A pool of no fixed size has no limit. -/
def Pool.effective (pool : Pool) : Pool :=
  if pool.size = 0 then { pool with overflow := -1 } else pool

structure Engine where
  dialect : String
  echo : Bool
  pool : Option Pool := none
  deriving Repr, DecidableEq

namespace Engine

def readVariableInt (env : Environment) (name : String) (default : Int) : Except Failure Int :=
  match env.get? name with
  | none => .ok default
  | some value => (Number.readInt value).mapError .number

def readPool (env : Environment) : Except Failure Pool := do
  let size ← readVariableInt env "SQLALCHEMY_POOL_SIZE" 5
  let overflow ← readVariableInt env "SQLALCHEMY_MAX_OVERFLOW" 10
  let prePing ← readVariableInt env "SQLALCHEMY_POOL_PRE_PING" 1
  pure ⟨size, overflow, prePing != 0⟩

def isEmbedded (address : String) : Bool :=
  (Text.dropFront? "sqlite".toList address.toList).isSome

def flagText (b : Bool) : String :=
  (Value.bool b).display

def creationNotice (shown : String) (echo : Bool) (pool : Option Pool) : LogRecord :=
  ⟨.info, .database, "Creating DB engine url=" ++ shown ++ " echo=" ++ flagText echo ++
    match pool with
    | none => ""
    | some pool =>
      " pool_size=" ++ Number.writeInt pool.size ++ " max_overflow=" ++
        Number.writeInt pool.overflow ++ " pre_ping=" ++ flagText pool.prePing⟩

def createPooled (env : Environment) (address : String) (echo : Bool) :
    Logged (Except Failure Engine) :=
  match readPool env with
  | .error e => ⟨.error e, []⟩
  | .ok pool =>
    { value := ((Locator.read address).bind Locator.checkServer).map fun _ =>
        { dialect := "postgresql", echo, pool := some pool.effective }
      records := [creationNotice (maskedAddress address) echo (some pool)] }

def create (env : Environment) (address : String) : Logged (Except Failure Engine) :=
  match readVariableInt env "SQLALCHEMY_ECHO" 0 with
  | .error e => ⟨.error e, []⟩
  | .ok echo =>
    if isEmbedded address then
      { value := ((Locator.read address).bind Locator.checkEmbedded).map fun _ =>
          { dialect := "sqlite", echo := echo != 0 }
        records := [creationNotice address (echo != 0) none] }
    else createPooled env address (echo != 0)

end Engine

def Deployment.engine (d : Deployment) : Logged (Except Failure Engine) :=
  d.address.andThen (Engine.create d.allVariables)

end TableGateway
