import TableGateway.Value.Basic

namespace TableGateway

inductive Operator
  | ne
  | ge
  | le
  | eq
  | gt
  | lt
  | regex
  deriving Repr, DecidableEq

namespace Operator

def symbol : Operator → String
  | .ne => "!="
  | .ge => ">="
  | .le => "<="
  | .eq => "="
  | .gt => ">"
  | .lt => "<"
  | .regex => "≈"

/-- The order in which operators are looked for: those of two characters come before their parts. -/
def searchOrder : List Operator :=
  [.ne, .ge, .le, .eq, .gt, .lt, .regex]

def ofSymbol? (symbol : String) : Option Operator :=
  searchOrder.find? fun op => op.symbol = symbol

end Operator

inductive Join
  | and
  | or
  deriving Repr, DecidableEq

def Join.word : Join → String
  | .and => "AND"
  | .or => "OR"

def Join.ofWord? (word : String) : Option Join :=
  [Join.and, Join.or].find? fun join => join.word = word

structure Clause where
  field : String
  op : Operator
  value : Value
  join : Join := .and
  deriving Repr

end TableGateway
