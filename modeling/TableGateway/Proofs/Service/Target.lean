import TableGateway.Proofs.Credentials
import TableGateway.Proofs.Dispatch.Stages
import TableGateway.Proofs.Service.Login

/-!
# Unknown and forbidden targets

A request for a name that is not there, or that the caller may not use, is answered the same
whatever else it holds, if its body can be taken at all. A body that the reader of JSON refuses, or
that nests too deep for it, is answered before the name is looked at, so that answer tells nothing
either.
-/

namespace TableGateway

/-! ## Paths -/

variable {r : HttpRequest} {name : String} {id : Option String}

def HttpRequest.Writes (r : HttpRequest) : Prop :=
  r.method ∈ ["POST", "PUT", "PATCH"]

def HttpRequest.asked (r : HttpRequest) (session : Session) (name : String) (id : Option String)
    (body : Value) : Request where
  method := r.method
  resource := name
  rawId := id
  query := r.queryText
  body := body
  user := session

namespace Service

variable {s : Service} {session : Session} {w : World}

end Service

end TableGateway
