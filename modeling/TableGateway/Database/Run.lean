import TableGateway.Action

namespace TableGateway.Action

def nextAnswer (s : BoundStatement) : Action Answer := do
  emit (.executed s)
  let w ← getWorld
  match w.answers with
  | [] => pure (w.store.answer s)
  | answer :: rest => do
    modifyWorld fun w => { w with answers := rest }
    pure answer

/-- Runs a statement. Values are bound first; without one value for every placeholder nothing
runs. -/
def runStatement (s : Statement) : Action Outcome := do
  match s.bind? with
  | none => fail (.unbalanced s.placeholderCount s.params.length)
  | some bound =>
    log .debug .database
      ("SQL " ++ s.sql ++ " (" ++ Number.writeInt s.params.length ++ " params)")
    match ← nextAnswer bound with
    | .done outcome => pure outcome
    | .refused e =>
      log .warning .database ("Statement failed: " ++ e.message)
      fail (.query e.message)
    | .broke text => fail (.breakdown text)

def listingNotice (listing : Listing) : LogRecord :=
  ⟨.debug, .schema, "schema listing: " ++ Number.writeInt listing.length ++ " tables/views"⟩

def noteReads (listing : Listing) (reads : Nat) : Action Unit :=
  fun w => ⟨.ok (), w, (List.replicate reads [.listed, .logged (listingNotice listing)]).flatten⟩

def resolve (name : String) : Action (Option Kind) := do
  let w ← getWorld
  let found ← ofExcept (w.catalog.resolve w.schema.listing w.clock name)
  noteReads w.schema.listing found.reads
  modifyWorld fun w => { w with catalog := found.catalog }
  pure found.kind

def listResources : Action Listing := do
  let w ← getWorld
  let seen ← ofExcept (w.catalog.look w.schema.listing w.clock)
  noteReads w.schema.listing seen.reads
  modifyWorld fun w => { w with catalog := seen.catalog }
  pure seen.listing.sorted

/-- The columns of a table or view, read from the database each time. -/
def columns (name : String) : Action (List String) := do
  emit (.columnsRead name)
  let w ← getWorld
  match w.schema.columns? name with
  | some columns => pure columns
  | none => fail (.noSuchTable name)

def invalidate : Action Unit :=
  modifyWorld fun w => { w with catalog := w.catalog.invalidate }

end TableGateway.Action
