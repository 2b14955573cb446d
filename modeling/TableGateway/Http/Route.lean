import TableGateway.Http.Basic

namespace TableGateway

open Text

inductive Endpoint
  | login
  | whoami
  | logout
  | health
  | resource (name : String) (id : Option String)
  | asset
  deriving Repr, DecidableEq

structure Route where
  methods : List String
  endpoint : Endpoint
  deriving Repr, DecidableEq

inductive Routing
  | to (endpoint : Endpoint)
  | options
  | moved (path : List Char)
  | wrongMethod
  | nowhere
  deriving Repr, DecidableEq

namespace Route

def reading : List String := ["GET", "HEAD"]

def ofResource (name : String) (id : Option String) : Route :=
  ⟨["GET", "HEAD", "POST", "PUT", "PATCH", "DELETE"], .resource name id⟩

def ofLogin : List Route :=
  [⟨["POST"], .login⟩, ⟨reading, .whoami⟩, ⟨["DELETE"], .logout⟩]

/-- Whether the parts of a path name a file. The name is not empty and stays on one line behind its
first character. -/
def isAssetPath (parts : List String) : Bool :=
  match ("/".intercalate parts).toList with
  | [] => false
  | c :: rest => c ≠ '/' && !rest.contains '\n'

def ofParts : List String → List Route
  | ["api", name] =>
    (if name = "login" then ofLogin
      else if name = "health" then [⟨reading, .health⟩]
      else []) ++ if name.isEmpty then [] else [ofResource name none]
  | ["api", name, id] => if name.isEmpty || id.isEmpty then [] else [ofResource name (some id)]
  | "static" :: parts => if isAssetPath parts then [⟨reading, .asset⟩] else []
  | _ => []

def ofPath (path : List Char) : List Route :=
  ofParts (((path.drop 1).splitOnP (· = '/')).map String.ofList)

/-- The first of some routes that admits a method. Each admits the question for its options. -/
def pick? (routes : List Route) (method : String) : Option Routing :=
  if method = "OPTIONS" then if routes.isEmpty then none else some .options
  else (routes.find? fun route => route.methods.contains method).map fun route => .to route.endpoint

def mergeSlashes (path : List Char) : List Char :=
  path.foldr (fun c rest => if c = '/' ∧ rest.head? = some '/' then rest else c :: rest) []

end Route

open Route in
def HttpRequest.routing (r : HttpRequest) : Routing :=
  let path := r.absolutePath.toList
  let merged := mergeSlashes path
  match pick? (ofPath path) r.method with
  | some routing => routing
  | none =>
    if (pick? (ofPath merged) r.method).isSome then .moved merged
    else if (ofPath path).isEmpty && (ofPath merged).isEmpty then .nowhere
    else .wrongMethod

end TableGateway
