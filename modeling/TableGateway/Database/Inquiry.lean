import TableGateway.Database.Run

namespace TableGateway

/-- One step of a catalog in use: a question to it, or a change of what it is asked about. -/
inductive Inquiry
  | resolve (name : String)
  | list
  | columns (name : String)
  | invalidate
  | clock (now : Number)
  | schema (live : Schema)
  deriving Repr

inductive Finding
  | kind (kind : Option Kind)
  | listing (listing : Listing)
  | columns (names : List String)
  | none
  deriving Repr

namespace Inquiry

def answer : Inquiry → Action Finding
  | .resolve name => do pure (.kind (← Action.resolve name))
  | .list => do pure (.listing (← Action.listResources))
  | .columns name => do pure (.columns (← Action.columns name))
  | .invalidate => do
    Action.invalidate
    pure .none
  | .clock now => do
    Action.modifyWorld fun w => { w with clock := now }
    pure .none
  | .schema live => do
    Action.modifyWorld fun w => { w with schema := live }
    pure .none

def answerAll (inquiries : List Inquiry) : World → List (Ending Finding) :=
  Action.runAll (inquiries.map answer)

end Inquiry

end TableGateway
