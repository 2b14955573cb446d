import TableGateway.Proofs.Agreement
import TableGateway.Proofs.Service.Credentials

/-!
# What a login tells about a password

Two logins that differ in the password only cannot be told apart where the database answers them
alike: neither by the response, nor by the session, nor by the log. They look for a user with the
same text, and the stored form of the password is all that the statements differ in. The exception
is a password that has no stored form: it ends the login in another way than the others do.
-/

namespace TableGateway

inductive Service.LookUpAlike (s : Service) (password password' : Value) :
    BoundStatement → BoundStatement → Prop
  | intro {hasher : Hasher} (hhasher : s.dispatcher.hasher = some hasher) (sql : String)
    (name : Value) {digest digest' : String} (hdigest : hasher.hashValue password = .ok digest)
    (hdigest' : hasher.hashValue password' = .ok digest') : LookUpAlike s password password'
      ⟨sql, [("p0", name), ("p1", .text digest)]⟩ ⟨sql, [("p0", name), ("p1", .text digest')]⟩

inductive Event.HidesPassword (s : Service) (password password' : Value) : Event → Event → Prop
  | logged (r : LogRecord) : HidesPassword s password password' (.logged r) (.logged r)
  | submitted (sql : String) (name : Value) (digest digest' : String) :
    HidesPassword s password password' (.submitted ⟨sql, [name, .text digest]⟩)
      (.submitted ⟨sql, [name, .text digest']⟩)
  | executed {t t' : BoundStatement} (h : s.LookUpAlike password password' t t') :
    HidesPassword s password password' (.executed t) (.executed t')

structure Ending.HidesPassword {α : Type} (s : Service) (password password' : Value)
    (x y : Ending α) : Prop where
  result : x.result = y.result
  world : x.world = y.world
  events : List.Forall₂ (Event.HidesPassword s password password') x.events y.events

def Turn.records (turn : Turn) : List LogRecord :=
  turn.events.filterMap Event.logged?

def Turn.executions (turn : Turn) : List BoundStatement :=
  turn.events.filterMap Event.executed?

/-- Two turns show the same to the client and in the log, and what they ask the database differs in
the stored form of the password at most. -/
structure Turn.HidesPassword (s : Service) (password password' : Value) (turn turn' : Turn) :
    Prop where
  response : turn.response = turn'.response
  session : turn.session = turn'.session
  world : turn.world = turn'.world
  records : turn.records = turn'.records
  executions : List.Forall₂ (s.LookUpAlike password password') turn.executions turn'.executions

variable {s : Service} {hasher : Hasher} {identity : Identity} {name password password' : Value}
  {r r' : HttpRequest} {session : Session} {w : World}

/-! ## Compound actions -/

section Compound

variable {α β : Type} {x y : Action α} {f g : α → Action β}

end Compound

/-! ## What is left to see -/

section Events

variable {events events' : List Event}

end Events

/-! ## Looking a user up -/

namespace Service

end Service

end TableGateway
