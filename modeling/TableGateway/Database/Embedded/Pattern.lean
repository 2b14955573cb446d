import TableGateway.Database.Embedded.Operand
import TableGateway.Failure
import TableGateway.Pattern.Read

namespace TableGateway.Embedded

def checkOperand (place : Nat) (v : Value) : Except Failure Unit :=
  match operandFault? place v with
  | some (.refused message) => .error (.query message)
  | some (.halved text) => .error (.unencodable text)
  | none => .ok ()

/-- Whether a value holds a pattern. A missing operand is never held, and a pattern that cannot be
read is an error. -/
def holdsPattern (value pattern : Value) : Except Failure Bool := do
  checkOperand 1 value
  checkOperand 2 pattern
  match operandText? value, operandText? pattern with
  | some text, some written =>
    match Pattern.read? written with
    | some pattern => pure (pattern.isFoundIn text)
    | none => throw (.query "user-defined function raised exception")
  | _, _ => pure false

end TableGateway.Embedded
