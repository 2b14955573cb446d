namespace TableGateway

inductive Kind
  | table
  | view
  deriving Repr, DecidableEq

def Kind.name : Kind → String
  | .table => "table"
  | .view => "view"

structure Schema where
  tables : List String := []
  views : List String := []
  columns : List (String × List String) := []
  deriving Repr, DecidableEq

abbrev Listing := List (String × Kind)

def Listing.kind? (listing : Listing) (name : String) : Option Kind :=
  (listing.find? fun entry => entry.1 = name).map Prod.snd

def Listing.sorted (listing : Listing) : Listing :=
  listing.mergeSort fun a b => a.1 ≤ b.1

/-- The kind of a name. A name that is both a table and a view counts as a view. -/
def Schema.kind? (s : Schema) (name : String) : Option Kind :=
  if name ∈ s.views then some .view
  else if name ∈ s.tables then some .table
  else none

def Schema.listing (s : Schema) : Listing :=
  (s.tables ++ s.views).eraseDups.map fun name =>
    (name, if name ∈ s.views then .view else .table)

def Schema.columns? (s : Schema) (name : String) : Option (List String) :=
  (s.columns.find? fun entry => entry.1 = name).map Prod.snd

end TableGateway
