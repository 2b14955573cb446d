import TableGateway.Query.Clause
import TableGateway.Text.LowerCase

namespace TableGateway

/-- The operator that matches a text with a pattern where no dialect has its own. -/
def commonRegexOperator : String := "REGEXP"

def regexOperatorFor (dialect : String) : String :=
  if Text.lower dialect = "postgresql" then "~" else commonRegexOperator

structure Predicate where
  sql : String
  params : List Value
  deriving Repr

def Operator.sql (regexOperator : String) : Operator → String
  | .regex => regexOperator
  | op => op.symbol

def Clause.comparison (regexOperator : String) (c : Clause) : String :=
  c.field ++ " " ++ c.op.sql regexOperator ++ " ?"

def Clause.joined (regexOperator : String) (c : Clause) : String :=
  c.join.word ++ " " ++ c.comparison regexOperator

/-- The parts of a condition. The first clause has nothing to be joined to. -/
def Predicate.pieces (regexOperator : String) : List Clause → List String
  | [] => []
  | first :: rest => first.comparison regexOperator :: rest.map (Clause.joined regexOperator)

def Predicate.ofClauses (regexOperator : String) (clauses : List Clause) : Predicate where
  sql := " ".intercalate (Predicate.pieces regexOperator clauses)
  params := clauses.map Clause.value

def Predicate.isGiven (p : Predicate) : Bool :=
  !p.sql.isEmpty

end TableGateway
