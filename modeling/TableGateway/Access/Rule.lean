import TableGateway.Access.Glob
import TableGateway.Failure
import TableGateway.Text.LowerCase

namespace TableGateway

/-- The patterns that a setting stands for: none given means everything, and a text is one
pattern. -/
def readPatterns : Value → Except Failure (List String)
  | .null => .ok ["*"]
  | .text pattern => .ok [pattern]
  | .halved pattern => .ok [Text.shownPoints pattern.points]
  | .list items => .ok (items.map Value.display)
  | .record fields => .ok (Record.names fields)
  | .mangled names _ => .ok (names.map Text.shownPoints)
  | v => .error (.notIterable v.kindName)

structure AccessRule where
  roles : List String
  resources : List String
  methods : List String
  kinds : List String
  deriving Repr, DecidableEq

namespace AccessRule

def read (entry : Record) : Except Failure AccessRule := do
  let roles ← readPatterns (entry.get "roles")
  let resources ← readPatterns (entry.get "resources")
  let methods ← readPatterns (entry.get "methods")
  let kinds ← readPatterns (entry.get "kinds")
  pure {
    roles, resources
    methods := methods.map Text.lower
    kinds := kinds.map Text.lower }

def fits (patterns : List String) (candidate : String) : Bool :=
  patterns.any (globMatches · candidate)

def allows (rule : AccessRule) (role resource method kind : String) : Bool :=
  fits rule.roles role && fits rule.resources resource && fits rule.methods method &&
    fits rule.kinds kind

def display (rule : AccessRule) : String :=
  let patterns (texts : List String) := (Value.list (texts.map .text)).literal
  "AclRule(roles=" ++ patterns rule.roles ++ ", resources=" ++ patterns rule.resources ++
    ", methods=" ++ patterns rule.methods ++ ", kinds=" ++ patterns rule.kinds ++ ")"

end AccessRule

end TableGateway
