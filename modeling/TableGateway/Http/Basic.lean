import TableGateway.Failure
import TableGateway.Json.Bytes
import TableGateway.Json.Write
import TableGateway.Text.LowerCase
import TableGateway.Text.Find

namespace TableGateway

open Text

structure HttpRequest where
  method : String
  path : String
  query : List UInt8 := []
  contentType : String := ""
  body : List UInt8 := []
  host : String := "localhost"
  deriving Repr

structure HttpResponse where
  status : Nat
  text : String
  isJson : Bool
  deriving Repr, DecidableEq

namespace HttpRequest

def absolutePath (r : HttpRequest) : String :=
  String.ofList ('/' :: r.path.toList.dropWhile (· = '/'))

def queryText (r : HttpRequest) : String :=
  String.ofList (Utf8.decodeLossy r.query)

def mediaType (r : HttpRequest) : List Char :=
  (lower (trimmed (String.ofList (before [';'] r.contentType.toList)))).toList

def saysJson (r : HttpRequest) : Bool :=
  r.mediaType = "application/json".toList ||
    ((dropFront? "application/".toList r.mediaType).isSome &&
      "+json".toList.isSuffixOf r.mediaType)

-- The reader opens a call for each level, and the interpreter lets a thousand be open at once. The
-- 23 that are open before a body is read were measured at the server's test client; behind another
-- server there are fewer or more.
def maxBodyNesting : Nat := 977

/-- The value in the body of a request, if it is JSON. A body that nests too deep is a failure of
the service and not of the client. -/
def json? (r : HttpRequest) : Except Failure (Option Value) :=
  match Json.readBytes maxBodyNesting r.body with
  | .ok value => .ok (some value)
  | .error .malformed => .ok none
  | .error .tooDeep => .error .tooDeep

end HttpRequest

namespace HttpResponse

/-- The response that carries a value, if the value has a written form. -/
def ofValue? (status : Nat) (v : Value) : Option HttpResponse :=
  (Json.write? v).map fun text => ⟨status, text ++ "\n", true⟩

def ofError (status : Nat) (message : String) : HttpResponse :=
  ⟨status, "\x7b\"error\":" ++ Json.writeString message ++ "\x7d\n", true⟩

def options : HttpResponse :=
  ⟨200, "", false⟩

def withoutText (response : HttpResponse) : HttpResponse :=
  { response with text := "" }

end HttpResponse

end TableGateway
