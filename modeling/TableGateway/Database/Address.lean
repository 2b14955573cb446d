import TableGateway.Json.Bytes
import TableGateway.Settings.Coercion
import TableGateway.Settings.Environment
import TableGateway.Text.Find
import TableGateway.Text.Percent
import TableGateway.Value.Display

namespace TableGateway

open Text

structure AddressPart where
  name : String
  toolName : String
  fallback : String
  deriving Repr

namespace AddressPart

def user : AddressPart := ⟨"DB_USER", "PGUSER", "app"⟩

def password : AddressPart := ⟨"DB_PASSWORD", "PGPASSWORD", "app"⟩

def database : AddressPart := ⟨"DB_NAME", "PGDATABASE", "app"⟩

def host : AddressPart := ⟨"DB_HOST", "PGHOST", "127.0.0.1"⟩

def port : AddressPart := ⟨"DB_PORT", "PGPORT", "5432"⟩

def all : List AddressPart := [user, password, database, host, port]

/-- The part in the environment: the first variable if it is not empty, else the second, which may
be empty or unset. -/
def inEnvironment (part : AddressPart) (env : Environment) : Option String :=
  match env.given? part.name with
  | some value => some value
  | none => env.get? part.toolName

/-- The part: the file counts only where the environment has nothing, and what is empty gives way to
the default. -/
def resolve (part : AddressPart) (env : Environment) (file : Record) : String :=
  let found := match part.inEnvironment env with
    | some value => some value
    | none => (file.get? part.name).map Value.display
  match found.filter fun value => !value.isEmpty with
  | some value => value
  | none => part.fallback

end AddressPart

structure Address where
  user : String
  password : String
  host : String
  port : String
  database : String
  deriving Repr, DecidableEq

/-- An address written out. Only the password is coded. -/
def Address.text (a : Address) : String :=
  "postgresql+psycopg://" ++ a.user ++ ":" ++
    String.ofList (Percent.encodeForm a.password.toList) ++ "@" ++ a.host ++ ":" ++ a.port ++ "/" ++
    a.database

def readConnectionFile (path : String) (file : Option (List UInt8)) : Logged Record :=
  match file with
  | none => ⟨[], []⟩
  | some bytes =>
    match (Json.readFile? bytes).map Value.record? with
    | some (some fields) =>
      ⟨fields, [⟨.debug, .database, "db cfg loaded json file " ++ path⟩]⟩
    | some none => ⟨[], []⟩
    | none => ⟨[], [⟨.warning, .database, "Failed to read " ++ path⟩]⟩

/-- The file of connection parts, which is read only if the environment lacks a part. -/
def Deployment.connectionParts (d : Deployment) (env : Environment) : Logged Record :=
  if AddressPart.all.any fun part => (part.inEnvironment env).isNone then
    readConnectionFile (d.filePath "db.json") d.connection
  else ⟨[], []⟩

def Deployment.addressIn (d : Deployment) (env : Environment) : Logged String :=
  match env.given? "DATABASE_URL" with
  | some text => ⟨text, []⟩
  | none =>
    let file := d.connectionParts env
    let part (p : AddressPart) : String := p.resolve env file.value
    let address : Address :=
      { user := part .user, password := part .password, host := part .host, port := part .port
        database := part .database }
    ⟨address.text, file.records⟩

def Deployment.address (d : Deployment) : Logged (Except Failure String) :=
  d.environment.andThen fun env =>
    let address := d.addressIn env
    ⟨.ok address.value, address.records⟩

def schemeMark : List Char := "://".toList

def isUserChar (c : Char) : Bool :=
  c ≠ ':' && c ≠ '/' && c ≠ '@'

def takeLogin? (text : List Char) : Option (List Char × List Char) := do
  let rest ← dropFront? schemeMark text
  let user := rest.takeWhile isUserChar
  if user.isEmpty then none
  match rest.dropWhile isUserChar with
  | ':' :: rest =>
    match rest.dropWhile (· ≠ '@') with
    | [] => none
    | _ :: after => some (user, after)
  | _ => none

theorem length_lt_of_takeLogin? {text user after : List Char}
    (h : takeLogin? text = some (user, after)) : after.length < text.length := by
  simp only [takeLogin?, Option.bind_eq_bind, Option.bind_eq_some_iff] at h
  obtain ⟨rest, hrest, h⟩ := h
  have hfront := length_of_dropFront? hrest
  have hmark : schemeMark.length = 3 := rfl
  have huser : (rest.dropWhile isUserChar).length ≤ rest.length :=
    (List.dropWhile_suffix _).length_le
  split at h
  · simp at h
  · split at h
    · rename_i tail heq
      rw [heq] at huser
      have hdrop : (tail.dropWhile (· ≠ '@')).length ≤ tail.length :=
        (List.dropWhile_suffix _).length_le
      split at h
      · simp at h
      · rename_i heq2
        rw [heq2] at hdrop
        simp only [List.length_cons] at hdrop huser
        simp only [Option.some.injEq, Prod.mk.injEq] at h
        rw [h.2] at hdrop
        omega
    · simp at h

def maskPassword : List Char → List Char
  | [] => []
  | c :: rest =>
    match _h : takeLogin? (c :: rest) with
    | some (user, after) => schemeMark ++ user ++ ":***@".toList ++ maskPassword after
    | none => c :: maskPassword rest
  termination_by text => text.length
  decreasing_by
    · exact length_lt_of_takeLogin? _h
    · simp

def maskedAddress (address : String) : String :=
  String.ofList (maskPassword address.toList)

end TableGateway
