import TableGateway.Failure
import TableGateway.Logging.Record
import TableGateway.Settings.Reference
import TableGateway.Settings.VariableFile
import TableGateway.Text.LowerCase

/-!
# The environment

Variables, and the files from which more of them are taken. A variable that is set is never replaced
by a file, even if it is set to nothing, and the first file wins over the second. Values in a file
may refer to variables.
-/

namespace TableGateway

open Text

/-- Variables; of two with one name the first counts. -/
abbrev Environment := List (String × String)

def Environment.get? (env : Environment) (name : String) : Option String :=
  (env.find? fun entry => entry.1 = name).map Prod.snd

def Environment.given? (env : Environment) (name : String) : Option String :=
  (env.get? name).filter fun value => !value.isEmpty

/-- What the service finds where it runs: variables, and the contents of the files in its folder. The
loader of variables may have a switch of its own that makes it leave files alone. -/
structure Deployment where
  folder : String := "config"
  processVariables : Environment := []
  backendVariables : Option (List UInt8) := none
  rootVariables : Option (List UInt8) := none
  appConfig : Option (List UInt8) := none
  secrets : Option (List UInt8) := none
  connection : Option (List UInt8) := none
  leavesFiles : Environment → Bool := fun _ => false

namespace Environment

/-- What a reference stands for: a variable, else a name that the file has bound before, else its
default. -/
def resolve (env : Environment) (bound : List Binding) (reference : Reference) : String :=
  match env.get? reference.name with
  | some value => value
  | none =>
    match bound.find? fun binding => binding.name = reference.name with
    | some binding => binding.value.getD ""
    | none => reference.default

def rebind (binding : Binding) : List Binding → List Binding
  | [] => [binding]
  | other :: rest =>
    if other.name = binding.name then binding :: rest else other :: rebind binding rest

/-- The bindings of a file with all references resolved. A later one replaces an earlier one. -/
def resolveAll (env : Environment) (bindings : List Binding) : List Binding :=
  bindings.foldl (fun bound binding =>
    let value := binding.value.map fun value =>
      String.ofList (Reference.replaceAll (env.resolve bound) value.toList)
    rebind { binding with value } bound) []

/-- Sets a variable that is not set yet. Neither a name nor a value can hold a null character, and a
name cannot hold an equals sign. -/
def add (env : Environment) (binding : Binding) : Except Failure Environment :=
  match env.get? binding.name, binding.value with
  | none, some value =>
    if binding.name.contains '\x00' || value.contains '\x00' then .error .nullInVariable
    else if binding.name.contains '=' then .error .badVariableName
    else .ok (env ++ [(binding.name, value)])
  | _, _ => .ok env

def takeIn (env : Environment) (bytes : List UInt8) : Except Failure Environment := do
  let text ← (Utf8.decode bytes).mapError Failure.undecodable
  (env.resolveAll (VariableFile.read text)).foldlM add env

end Environment

namespace Deployment

def filePath (d : Deployment) (name : String) : String :=
  d.folder ++ "/" ++ name

def takeInFile (d : Deployment) (name : String) (file : Option (List UInt8)) (env : Environment) :
    Logged (Except Failure Environment) :=
  match file with
  | none => ⟨.ok env, []⟩
  | some bytes =>
    { value := if d.leavesFiles env then .ok env else env.takeIn bytes
      records := [⟨.debug, .settings, "loading " ++ d.filePath name⟩] }

def environment (d : Deployment) : Logged (Except Failure Environment) :=
  (d.takeInFile "backend.env" d.backendVariables d.processVariables).andThen
    (d.takeInFile "root.env" d.rootVariables)

def allVariables (d : Deployment) : Environment :=
  match d.environment.value with
  | .ok env => env
  | .error _ => d.processVariables

end Deployment

end TableGateway
