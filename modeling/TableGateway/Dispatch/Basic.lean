import TableGateway.Access.Gate
import TableGateway.Circumstances
import TableGateway.Database.Run
import TableGateway.Dispatch.Draft

/-!
# Dispatch

A request goes through the same stages each time and stops at the first that fails: the name is
looked up, the gate is asked, the method is checked against the kind, and only then the request is
read further and its statement run. So a caller whom the gate turns away learns nothing about the
request's form.
-/

namespace TableGateway

structure Dispatcher where
  gate : Gate
  hasher : Option Hasher := none
  settings : ResourceSettings := {}

/-- In strict mode every column that a draft wants looked up has to be there. -/
def Action.checkColumns (settings : ResourceSettings) (resource : String) (draft : Draft) :
    Action Unit := do
  match settings.strictColumns, draft.checked with
  | true, some names =>
    let known ← columns resource
    let unknown := names.eraseDups.filter fun name => !known.contains name
    if !unknown.isEmpty then fail (.api (.unknownColumns resource unknown))
  | _, _ => pure ()

/-- Hands a statement over to be run. After a refusal the kept listing may be out of date, so it is
dropped. -/
def Action.submit (s : Statement) : Action Outcome := do
  emit (.submitted s)
  rescue (runStatement s) fun
    | .query message => do
      invalidate
      fail (.api (.refused message))
    | e => fail e

/-- What is served of an outcome. Reading by id gives the first row, or null when there is none. -/
def Reply.ofOutcome (verb : Verb) (id : Option Value) (outcome : Outcome) : Except Failure Reply :=
  match verb, id, outcome with
  | .get, some _, .rows [] => .ok ⟨.null, 404⟩
  | .get, some _, .rows (row :: _) => .ok ⟨.record row, 200⟩
  | .get, some _, .written .. => .error .noRows
  | _, _, outcome => .ok ⟨outcome.toValue, 200⟩

def Request.notices (request : Request) : Verb → List LogRecord
  | .get => Query.notices request.query
  | _ => []

def Dispatcher.perform (d : Dispatcher) (request : Request) (verb : Verb) : Action Reply := do
  let id ← Action.ofExcept (readId request.rawId)
  Action.logAll (request.notices verb)
  let draft ← Action.ofExcept (request.draft d.settings d.hasher verb id)
  Action.checkColumns d.settings request.resource draft
  let outcome ← Action.submit draft.statement
  Action.ofExcept (Reply.ofOutcome verb id outcome)

def Dispatcher.dispatch (d : Dispatcher) (request : Request) : Action Reply := do
  let method := normalizeMethod request.method
  match ← Action.resolve request.resource with
  | none => Action.fail (.api (.unknownResource request.resource))
  | some kind =>
    if ← Action.consult d.gate request.user request.resource method kind then
      match kind.verb? method with
      | some verb => d.perform request verb
      | none => Action.fail (.api (.methodNotAllowed method kind request.resource))
    else Action.fail (.api .forbidden)

def Dispatcher.dispatchAll (d : Dispatcher) (requests : List (Circumstances × Request)) :
    World → List (Ending Reply) :=
  Action.runAll (requests.map fun (circumstances, request) =>
    Action.under circumstances (d.dispatch request))

end TableGateway
