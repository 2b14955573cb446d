import TableGateway.Database.Schema
import TableGateway.Failure
import TableGateway.Number.Compare

/-!
# The catalog of a database

A catalog says what a name is. With a positive lifetime it keeps the last listing it read until the
listing has grown that old; a name that the kept listing lacks is looked up once more in a new one,
so a new table is seen at once. Without a lifetime it reads the listing each time.
-/

namespace TableGateway

structure Catalog where
  lifetime : Float := 0
  kept : Option Listing := none
  readAt : Number := .int 0
  deriving Repr

namespace Catalog

def lifetimeOf (setting : Value) : Except Failure Float :=
  if setting.isTruthy then
    match setting.toFloat with
    | .ok x => .ok x
    | .error e => .error (.number e)
  else .ok 0

/-- A listing that was looked at, the catalog afterwards, and how often the database was asked. -/
structure Look where
  listing : Listing
  catalog : Catalog
  reads : Nat
  deriving Repr

def isFresh (c : Catalog) (now : Number) : Except Failure Bool :=
  match now.minus c.readAt with
  | .ok age => .ok (age.isBelow c.lifetime)
  | .error e => .error (.number e)

def reload (c : Catalog) (live : Listing) (now : Number) : Look :=
  ⟨live, { c with kept := some live, readAt := now }, 1⟩

/-- Looks at the kept listing while it is fresh, else at the live one. -/
def look (c : Catalog) (live : Listing) (now : Number) : Except Failure Look :=
  if c.lifetime ≤ 0 then .ok ⟨live, c, 1⟩
  else match c.kept with
    | some listing => do
      if ← c.isFresh now then pure ⟨listing, c, 0⟩ else pure (c.reload live now)
    | none => .ok (c.reload live now)

structure Resolution where
  kind : Option Kind
  catalog : Catalog
  reads : Nat
  deriving Repr

def resolve (c : Catalog) (live : Listing) (now : Number) (name : String) :
    Except Failure Resolution := do
  let first ← c.look live now
  match first.listing.kind? name with
  | some kind => pure ⟨some kind, first.catalog, first.reads⟩
  | none =>
    if 0 < c.lifetime then
      let second := first.catalog.reload live now
      pure ⟨second.listing.kind? name, second.catalog, first.reads + second.reads⟩
    else pure ⟨none, first.catalog, first.reads⟩

def invalidate (c : Catalog) : Catalog :=
  { c with kept := none, readAt := .int 0 }

end Catalog

end TableGateway
