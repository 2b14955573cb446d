import TableGateway.Access.Rule
import TableGateway.Action

/-!
# The access gate

A gate without a list of rules is open. Any other gate allows a call that one of its rules allows;
with an empty list it allows nothing.
-/

namespace TableGateway

structure Gate where
  rules : Option (List AccessRule)
  roleField : Value
  deriving Repr

namespace Gate

def ofEntries (entries : Option (List Record)) (roleField : Value) : Except Failure Gate := do
  match entries with
  | none => pure ⟨none, roleField⟩
  | some entries => pure ⟨some (← entries.mapM AccessRule.read), roleField⟩

def isOpen (gate : Gate) : Bool :=
  gate.rules.isNone

def openNotice : LogRecord :=
  ⟨.warning, .access, "No acl rules configured: every resource is open to every caller"⟩

def notices (gate : Gate) : List LogRecord :=
  if gate.isOpen then [openNotice] else []

def anonymousRole : String := "anonymous"

def defaultRole : String := "user"

/-- The role of a caller: anonymous without a user, and the default where the user's role is
blank. -/
def roleOf (gate : Gate) (user : Option Record) : Except Failure String :=
  match user with
  | none => .ok anonymousRole
  | some [] => .ok anonymousRole
  | some user => do
    match ← user.lookup gate.roleField with
    | .null => pure defaultRole
    | role =>
      let name := Text.trimmed role.display
      pure (if name.isEmpty then defaultRole else name)

structure Call where
  role : String
  resource : String
  method : String
  kind : String
  deriving Repr, DecidableEq

def someRuleAllows (rules : List AccessRule) (call : Call) : Bool :=
  rules.any fun rule => rule.allows call.role call.resource call.method call.kind

def Call.deniedNotice (call : Call) : LogRecord :=
  ⟨.info, .access,
    "acl denied role=" ++ call.role ++ " method=" ++ call.method ++ " resource=" ++ call.resource⟩

def decide (gate : Gate) (user : Option Record) (resource method : String) (kind : Option Kind) :
    Except Failure (Bool × List LogRecord) := do
  match gate.rules with
  | none => pure (true, [])
  | some rules =>
    let call : Call := ⟨← gate.roleOf user, resource, method, (kind.map Kind.name).getD ""⟩
    if someRuleAllows rules call then pure (true, []) else pure (false, [call.deniedNotice])

end Gate

def Action.consult (gate : Gate) (user : Option Record) (resource method : String) (kind : Kind) :
    Action Bool := do
  emit (.consulted resource method kind)
  let (allowed, records) ← ofExcept (gate.decide user resource method (some kind))
  logAll records
  pure allowed

end TableGateway
