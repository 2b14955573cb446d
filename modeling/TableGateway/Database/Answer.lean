import TableGateway.Database.Report

namespace TableGateway

inductive Outcome
  | rows (records : List Record)
  | written (affected : Int) (insertId : Value)
  deriving Repr, Inhabited

/-- What a database answers to a statement: an outcome, a refusal, or a breakdown that is not the
statement's fault. -/
inductive Answer
  | done (outcome : Outcome)
  | refused (e : DatabaseError)
  | broke (text : String)
  deriving Repr, Inhabited

def Outcome.toValue : Outcome → Value
  | .rows records => .list (records.map .record)
  | .written affected insertId =>
    .record [("affectedRows", .int affected), ("insertId", insertId)]

end TableGateway
