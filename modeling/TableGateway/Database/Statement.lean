import TableGateway.Value.Basic

namespace TableGateway

structure Statement where
  sql : String
  params : List Value := []
  deriving Repr

def Statement.placeholderCount (s : Statement) : Nat :=
  s.sql.toList.count '?'

/-- A statement whose placeholders have names. -/
structure BoundStatement where
  sql : String
  bindings : Record
  deriving Repr

def placeholderName (place : Nat) : String :=
  "p" ++ Number.writeInt place

/-- Puts names in the place of question marks, counting on from `place`. -/
def namePlaceholders : (place : Nat) → List Char → List Char
  | _, [] => []
  | place, '?' :: rest =>
    ':' :: (placeholderName place).toList ++ namePlaceholders (place + 1) rest
  | place, c :: rest => c :: namePlaceholders place rest

/-- Binds every value to the name of its place, unless their numbers differ. -/
def Statement.bind? (s : Statement) : Option BoundStatement :=
  if s.placeholderCount = s.params.length then
    some {
      sql := String.ofList (namePlaceholders 0 s.sql.toList)
      bindings := s.params.zipIdx.map fun (value, place) => (placeholderName place, value) }
  else none

end TableGateway
