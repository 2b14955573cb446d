import TableGateway.Database.Catalog
import TableGateway.Database.Embedded.Lookup
import TableGateway.Failure
import TableGateway.Logging.Record

/-!
# Actions

An action runs in a world: a database, a clock and a catalog. It comes to a result or a failure,
leaves a new world behind, and its effects are listed in order as events.
-/

namespace TableGateway

/-- What an action runs in. The database gives the answers that wait, and then those of its
store. -/
structure World where
  schema : Schema := {}
  answers : List Answer := []
  store : Store := .silent
  reachable : Bool := true
  clock : Number := .int 0
  catalog : Catalog := {}
  deriving Repr

inductive Event
  | logged (r : LogRecord)
  | listed
  | columnsRead (name : String)
  | consulted (resource method : String) (kind : Kind)
  /-- A statement was handed over to be run. -/
  | submitted (s : Statement)
  | executed (s : BoundStatement)
  deriving Repr

structure Ending (α : Type) where
  result : Except Failure α
  world : World
  events : List Event := []

def Action (α : Type) : Type :=
  World → Ending α

namespace Action

variable {α β : Type}

def done (a : α) : Action α :=
  fun w => ⟨.ok a, w, []⟩

def andThen (x : Action α) (f : α → Action β) : Action β := fun w =>
  match x w with
  | ⟨.ok a, w, events⟩ => { f a w with events := events ++ (f a w).events }
  | ⟨.error e, w, events⟩ => ⟨.error e, w, events⟩

instance : Monad Action where
  pure := done
  bind := andThen

def fail (e : Failure) : Action α :=
  fun w => ⟨.error e, w, []⟩

def rescue (x : Action α) (handle : Failure → Action α) : Action α := fun w =>
  match x w with
  | ⟨.ok a, w, events⟩ => ⟨.ok a, w, events⟩
  | ⟨.error e, w, events⟩ => { handle e w with events := events ++ (handle e w).events }

def ofExcept : Except Failure α → Action α
  | .ok a => done a
  | .error e => fail e

def emit (event : Event) : Action Unit :=
  fun w => ⟨.ok (), w, [event]⟩

def log (severity : Severity) (source : LogSource) (message : String) : Action Unit :=
  emit (.logged ⟨severity, source, message⟩)

def logAll (records : List LogRecord) : Action Unit :=
  fun w => ⟨.ok (), w, records.map .logged⟩

def getWorld : Action World :=
  fun w => ⟨.ok w, w, []⟩

def modifyWorld (f : World → World) : Action Unit :=
  fun w => ⟨.ok (), f w, []⟩

/-- Carries out actions one after another, each in the world that the one before left, whether that
one failed or not. -/
def runAll : List (Action α) → World → List (Ending α)
  | [], _ => []
  | x :: rest, w => x w :: runAll rest (x w).world

end Action

def Event.submitted? : Event → Option Statement
  | .submitted s => some s
  | _ => none

def Event.executed? : Event → Option BoundStatement
  | .executed s => some s
  | _ => none

def Event.logged? : Event → Option LogRecord
  | .logged r => some r
  | _ => none

def listingReads (events : List Event) : Nat :=
  events.countP fun
    | .listed => true
    | _ => false

end TableGateway
