import TableGateway.Proofs.Database.Address
import TableGateway.Proofs.Settings.Config

/-!
# Where the parts of an address come from

Each part of an address has four places where it may be given, and the first that gives it counts,
whatever becomes of the other parts. Two things are in the way of this: an empty variable of the
database's tools hides the entry of the file, and an entry that is null counts as a word.
-/

namespace TableGateway

/-! ## Sources -/

/-- What an entry of a file gives: its text, unless it is null or its text is empty. -/
def Value.partText? : Value → Option String
  | .null => none
  | v => if v.display.isEmpty then none else some v.display

namespace AddressPart

/-- The first value that is not empty: that of the variable of the service, that of the variable of
the tools, the entry of the file, the default. -/
def first (part : AddressPart) (env : Environment) (file : Record) : String :=
  ((env.given? part.name).or ((env.given? part.toolName).or
    ((file.get? part.name).bind Value.partText?))).getD part.fallback

variable {part : AddressPart} {env : Environment} {file : Record} {value : String}

section Ungiven

variable (hname : env.given? part.name = none)

include hname

end Ungiven

end AddressPart

/-! ## All parts -/

def Address.ofParts (value : AddressPart → String) : Address where
  user := value .user
  password := value .password
  host := value .host
  port := value .port
  database := value .database

namespace Deployment

variable {d : Deployment} {env : Environment} {part : AddressPart}

end Deployment

end TableGateway
