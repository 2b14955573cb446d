import TableGateway.Action

namespace TableGateway

/-- What an action meets. The schema and the clock stay as they were unless new ones are given;
answers that still wait are given up for the new ones. -/
structure Circumstances where
  answers : List Answer := []
  schema : Option Schema := none
  reachable : Bool := true
  clock : Option Number := none
  deriving Repr

/-- The world once the circumstances have come about. The catalog does not notice them. -/
def Circumstances.apply (c : Circumstances) (w : World) : World :=
  { w with
    answers := c.answers
    schema := c.schema.getD w.schema
    reachable := c.reachable
    clock := c.clock.getD w.clock }

def Action.under {α : Type} (c : Circumstances) (x : Action α) : Action α :=
  fun w => x (c.apply w)

end TableGateway
