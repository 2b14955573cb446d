import TableGateway.Query.Token
import TableGateway.Logging.Record
import TableGateway.Text.Percent

/-!
# Queries

The part of an address after the question mark, as filters, sort order and paging. Fragments are
read from left to right: filters and skipped fragments are collected, a later sort order replaces an
earlier one, and a later valid limit or offset replaces an earlier one.
-/

namespace TableGateway

open Text

inductive Direction
  | asc
  | desc
  deriving Repr, DecidableEq

def Direction.word : Direction → String
  | .asc => "ASC"
  | .desc => "DESC"

structure SortEntry where
  field : String
  direction : Direction
  deriving Repr, DecidableEq

structure Query where
  filters : List Clause := []
  sort : List SortEntry := []
  limit : Option Nat := none
  offset : Option Nat := none
  skipped : List Skipped := []
  deriving Repr

/-- A limit that does not limit: the greatest signed number of sixty-four bits. -/
def unboundedLimit : Nat := 9223372036854775807

/-- A query being read, with the sort entries dropped so far. -/
structure Reading where
  query : Query := {}
  dropped : List String := []
  deriving Repr

def SortEntry.read? (item : List Char) : Option SortEntry :=
  let (name, direction) := match trim item with
    | '-' :: name => (String.ofList name, Direction.desc)
    | name => (String.ofList name, Direction.asc)
  if isIdentifier name then some ⟨name, direction⟩ else none

/-- Splits a sort order at its commas into entries and the texts of those that are none. -/
def readSort (raw : String) : List SortEntry × List String :=
  let items := raw.toList.splitOn ','
  (items.filterMap SortEntry.read?,
    (items.filter fun item => (SortEntry.read? item).isNone).map String.ofList)

def readCount? (least : Nat) (raw : String) : Except Number.Error (Option Nat) := do
  match ← Number.read? raw.toList with
  | some (.int n) => pure (if (least : Int) ≤ n then some n.toNat else none)
  | _ => pure none

def Query.skip (q : Query) (s : Skipped) : Query :=
  { q with skipped := q.skipped ++ [s] }

def Query.addFilter (q : Query) (c : Clause) : Query :=
  { q with filters := q.filters ++ [c] }

def Reading.addControl (r : Reading) (word : Control) (raw : String) :
    Except Number.Error Reading := do
  match word with
  | .sort =>
    let (entries, dropped) := readSort raw
    pure { query := { r.query with sort := entries }, dropped := r.dropped ++ dropped }
  | .limit =>
    match ← readCount? 1 raw with
    | some n => pure { r with query := { r.query with limit := some n } }
    | none => pure { r with query := r.query.skip ⟨"limit=" ++ raw, .badLimit⟩ }
  | .offset =>
    match ← readCount? 0 raw with
    | some n => pure { r with query := { r.query with offset := some n } }
    | none => pure { r with query := r.query.skip ⟨"offset=" ++ raw, .badOffset⟩ }

def Reading.addToken (r : Reading) : Token → Except Number.Error Reading
  | .clause c => .ok { r with query := r.query.addFilter c }
  | .control word raw => r.addControl word raw
  | .skipped s => .ok { r with query := r.query.skip s }

/-- Takes one fragment into account. It is decoded only now, after the query was split. -/
def Reading.addFragment (r : Reading) (fragment : List Char) : Except Number.Error Reading := do
  r.addToken (← Token.read (String.ofList (Percent.decode fragment)))

/-- Reads fragments from left to right. A number that is too long ends the reading; what was read
before it is kept. -/
def Reading.addAll (r : Reading) : List (List Char) → Reading × Option Number.Error
  | [] => (r, none)
  | fragment :: rest =>
    match r.addFragment fragment with
    | .ok r => r.addAll rest
    | .error e => (r, some e)

/-- The fragments of a query that are not empty. One question mark in front is not part of it. -/
def fragments (raw : String) : List (List Char) :=
  let text := match raw.toList with
    | '?' :: rest => rest
    | text => text
  (text.splitOn '&').filter fun fragment => !fragment.isEmpty

/-- An offset without a limit gets a limit that does not limit. -/
def Query.complete (q : Query) : Query :=
  if q.offset.isSome && q.limit.isNone then { q with limit := some unboundedLimit } else q

/-- What was read of a query, and whether a number in it was too long. -/
def Reading.ofText (raw : String) : Reading × Option Number.Error :=
  ({} : Reading).addAll (fragments raw)

def Query.read (raw : String) : Except Number.Error Query :=
  match Reading.ofText raw with
  | (reading, none) => .ok reading.query.complete
  | (_, some e) => .error e

def Query.notices (raw : String) : List LogRecord :=
  let (reading, failure) := Reading.ofText raw
  let dropped := reading.dropped.map fun item =>
    ⟨.debug, .query, "dropping sort entry " ++ quoted item⟩
  let skipped := reading.query.skipped
  if failure.isSome || skipped.isEmpty then dropped
  else dropped ++ [⟨.debug, .query,
    "ignored query fragments: " ++ ", ".intercalate (skipped.map fun s => quoted s.raw)⟩]

end TableGateway
