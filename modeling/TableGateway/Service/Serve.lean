import TableGateway.Http.Redirect
import TableGateway.Http.Route
import TableGateway.Service.Login

/-!
# Serving a request

A request is routed, handled and answered. Whatever goes wrong on the way is answered with a text in
JSON, and only a refusal that is meant for the client says more than that something went wrong.
-/

namespace TableGateway

/-- What becomes of a request: the response, the session of the client, the world, and the
effects. -/
structure Turn where
  response : HttpResponse
  session : Session
  world : World
  events : List Event

namespace Service

def ping : Action Bool := do
  let w ← Action.getWorld
  if w.reachable then
    match ← Action.nextAnswer ⟨"select 1", []⟩ with
    | .done _ => pure true
    | _ => pure false
  else pure false

def health : Action Handled := do
  if ← ping then pure { reply := ⟨.record [("ok", .bool true)], 200⟩ }
  else do
    Action.log .error .database "DB ping failed"
    pure { reply := ⟨.record [("ok", .bool false), ("error", .text "Database unreachable.")], 503⟩ }

/-- The body of a request for a resource. Only methods that write have one; null is no body to
send. -/
def bodyOf (r : HttpRequest) : Except Failure Value :=
  if ["POST", "PUT", "PATCH"].contains r.method && !r.body.isEmpty then
    match r.json? with
    | .error e => .error e
    | .ok none => .error (.api .badJson)
    | .ok (some .null) => .error (.api .badJson)
    | .ok (some body) => .ok body
  else .ok .null

def resource (s : Service) (session : Session) (r : HttpRequest) (name : String)
    (id : Option String) : Action Handled := do
  let body ← Action.ofExcept (bodyOf r)
  let reply ← s.dispatcher.dispatch
    { method := r.method, resource := name, rawId := id, query := r.queryText, body
      user := session }
  pure { reply }

def handle (s : Service) (session : Session) (r : HttpRequest) : Endpoint → Action Handled
  | .login => s.login r
  | .whoami => whoami session
  | .logout => s.logout
  | .health => health
  | .resource name id => s.resource session r name id
  | .asset => Action.fail .noFile

def notFoundText : String :=
  "The requested URL was not found on the server. If you entered the URL manually please check " ++
    "your spelling and try again."

def wrongMethodText : String :=
  "The method is not allowed for the requested URL."

def brokenText : String :=
  "The server encountered an internal error and was unable to complete your request. Either " ++
    "the server is overloaded or there is an error in the application."

def errorRecord (message : String) : LogRecord :=
  ⟨.error, .service, message⟩

def requestLine (r : HttpRequest) : String :=
  r.method ++ " " ++ r.absolutePath

def httpError (r : HttpRequest) (status : Nat) (text : String) : Logged HttpResponse where
  value := .ofError status text
  records := [⟨.warning, .service, "HTTP " ++ Number.writeInt status ++ " on " ++ requestLine r⟩]

def internalError : Logged HttpResponse where
  value := .ofError 500 "Internal Server Error"
  records := [errorRecord "Unhandled exception"]

def failureResponse (r : HttpRequest) : Failure → Logged HttpResponse
  | .api e =>
    { value := .ofError e.status e.message
      records := [⟨.info, .service,
        requestLine r ++ " -> " ++ Number.writeInt e.status ++ ": " ++ e.message⟩] }
  | .noFile => httpError r 404 notFoundText
  | _ => internalError

def replyResponse (reply : Reply) : Logged HttpResponse :=
  match HttpResponse.ofValue? reply.status reply.payload with
  | some response => ⟨response, []⟩
  | none => internalError

/-- The response to a request that broke down when its response was to be made, with what is logged
after the error itself. -/
def brokenResponse (r : HttpRequest) (after : List LogRecord) : Logged HttpResponse :=
  let failed := httpError r 500 brokenText
  { value := failed.value
    records :=
      [errorRecord "Signal caught exception",
        errorRecord ("Exception on " ++ r.absolutePath ++ " [" ++ r.method ++ "]")] ++
        failed.records ++ after ++ [errorRecord "Teardown exception"] }

/-- The response to a request whose session could not be sealed, whatever it would have been. -/
def unsealedResponse (r : HttpRequest) : Logged HttpResponse :=
  brokenResponse r [errorRecord "Request finalizing failed with an error while handling an error"]

def movedResponse (r : HttpRequest) (path : List Char) : Logged HttpResponse :=
  match HttpResponse.moved? r path with
  | some response => ⟨response, []⟩
  | none => brokenResponse r []

/-- The response to a request that was handled, and the session afterwards. The session is kept even
if the reply cannot be written down. -/
def finish (s : Service) (session : Session) (r : HttpRequest) (handled : Handled) :
    Logged (HttpResponse × Session) :=
  let response := replyResponse handled.reply
  match handled.change with
  | .unchanged => ⟨(response.value, session), response.records⟩
  | .leave => ⟨(response.value, none), response.records⟩
  | .enter user =>
    match s.sessions.keep? user with
    | some session => ⟨(response.value, session), response.records⟩
    | none =>
      let failed := unsealedResponse r
      ⟨(failed.value, session), response.records ++ failed.records⟩

def answered (session : Session) (w : World) (response : Logged HttpResponse) : Turn where
  response := response.value
  session := session
  world := w
  events := response.records.map .logged

def serveAt (s : Service) (session : Session) (r : HttpRequest) (endpoint : Endpoint) (w : World) :
    Turn :=
  let ending := s.handle session r endpoint w
  match ending.result with
  | .ok handled =>
    let finished := s.finish session r handled
    { response := finished.value.1, session := finished.value.2, world := ending.world
      events := ending.events ++ finished.records.map .logged }
  | .error e =>
    let response := failureResponse r e
    { response := response.value, session := session, world := ending.world
      events := ending.events ++ response.records.map .logged }

def route (s : Service) (session : Session) (r : HttpRequest) (w : World) : Turn :=
  match r.routing with
  | .to endpoint => s.serveAt session r endpoint w
  | .options => answered session w ⟨.options, []⟩
  | .moved path => answered session w (movedResponse r path)
  | .wrongMethod => answered session w (httpError r 405 wrongMethodText)
  | .nowhere => answered session w (httpError r 404 notFoundText)

def serve (s : Service) (session : Session) (r : HttpRequest) (w : World) : Turn :=
  let turn := s.route session r w
  if r.method = "HEAD" then { turn with response := turn.response.withoutText } else turn

/-- Serves the requests of one client in order. The client brings the session that it was left
with. -/
def serveAll (s : Service) : Session → List (Circumstances × HttpRequest) → World → List Turn
  | _, [], _ => []
  | session, (circumstances, r) :: rest, w =>
    let turn := s.serve session r (circumstances.apply w)
    turn :: s.serveAll turn.session rest turn.world

end Service

end TableGateway
