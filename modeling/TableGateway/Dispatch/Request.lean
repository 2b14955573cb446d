import TableGateway.Failure
import TableGateway.Text.LowerCase

namespace TableGateway

/-- A request for a resource. A body of null is no body. -/
structure Request where
  method : String
  resource : String
  rawId : Option String := none
  query : String := ""
  body : Value := .null
  user : Option Record := none
  deriving Repr

structure Reply where
  payload : Value
  status : Nat := 200
  deriving Repr

inductive Verb
  | get
  | post
  | put
  | delete
  deriving Repr, DecidableEq

def Verb.name : Verb → String
  | .get => "get"
  | .post => "post"
  | .put => "put"
  | .delete => "delete"

/-- The methods that a kind of resource admits: a view can only be read. -/
def Kind.verbs : Kind → List Verb
  | .table => [.get, .post, .put, .delete]
  | .view => [.get]

/-- A method as it is compared: in lower case, with patch taken for put. -/
def normalizeMethod (method : String) : String :=
  let name := Text.lower method
  if name = "patch" then Verb.put.name else name

def Kind.verb? (kind : Kind) (method : String) : Option Verb :=
  kind.verbs.find? fun verb => verb.name = method

/-- The id in the path, which counts only if it is a number. -/
def readId : Option String → Except Failure (Option Value)
  | none => .ok none
  | some raw =>
    match Number.read? raw.toList with
    | .ok number => .ok (number.map Number.toValue)
    | .error e => .error (.number e)

end TableGateway
