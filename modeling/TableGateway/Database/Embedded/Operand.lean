import TableGateway.Value.Display

namespace TableGateway.Embedded

def isStoredInt (n : Int) : Bool :=
  -9223372036854775808 ≤ n && n ≤ 9223372036854775807

def unboundMessage (place : Nat) (kind : String) : String :=
  "Error binding parameter " ++ Number.writeInt place ++ ": type '" ++ kind ++ "' is not supported"

/-- Why an operand is not taken: the database refuses it, or it has no bytes. -/
inductive OperandFault
  | refused (message : String)
  | halved (text : Text.HalvedText)
  deriving Repr, DecidableEq

def operandFault? (place : Nat) : Value → Option OperandFault
  | .int n =>
    if isStoredInt n then none
    else some (.refused "Python int too large to convert to SQLite INTEGER")
  | .list _ => some (.refused (unboundMessage place "list"))
  | .record _ => some (.refused (unboundMessage place "dict"))
  | .mangled .. => some (.refused (unboundMessage place "dict"))
  | .halved s => some (.halved s)
  | _ => none

def operandText? : Value → Option String
  | .null => none
  | .bool b => some (if b then "1" else "0")
  | .real x => if x.isNaN then none else some (Number.writeFloat x)
  | v => some v.display

end TableGateway.Embedded
