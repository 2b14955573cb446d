import TableGateway.Database.Answer
import TableGateway.Database.Embedded.Operand
import TableGateway.Database.Embedded.Table
import TableGateway.Database.Embedded.Word
import TableGateway.Database.Statement

namespace TableGateway

namespace Embedded

structure Lookup where
  table : String
  columns : List String
  deriving Repr, DecidableEq

/-- The columns that are compared: `column = value`, with `AND` between any two. -/
def comparedColumns? : List String → Option (List String)
  | [column, "=", _] => some [column]
  | column :: "=" :: _ :: "AND" :: rest => (comparedColumns? rest).map (column :: ·)
  | _ => none

def Lookup.ofWords? : List String → Option Lookup
  | "SELECT" :: "*" :: "FROM" :: table :: "WHERE" :: conditions =>
    (comparedColumns? conditions).map fun columns => ⟨table, columns⟩
  | _ => none

def Lookup.read? (sql : String) : Option Lookup :=
  Lookup.ofWords? ((sql.splitOn " ").map Text.trimmed)

def Lookup.grammarFault? (l : Lookup) : Option String :=
  (tableNameFault? l.table).or (l.columns.findSome? comparedFault?)

def Lookup.nameFault? (l : Lookup) : Option String :=
  match columns? l.table with
  | none => some ("no such table: " ++ l.table)
  | some columns =>
    let isKnown (name : String) : Bool := columns.contains name.toLower || isValueWord name
    (l.columns.find? fun name => !isKnown name).map fun name => "no such column: " ++ name

def bindingFault? (bindings : Record) : Option OperandFault :=
  bindings.zipIdx.findSome? fun ((_, value), place) => operandFault? (place + 1) value

def answer (s : BoundStatement) : Answer :=
  let fault? := (Lookup.read? s.sql).bind fun l =>
    ((l.grammarFault?.or l.nameFault?).map OperandFault.refused).or (bindingFault? s.bindings)
  match fault? with
  | some (.refused message) => .refused ⟨"OperationalError", "", some ⟨message, none⟩⟩
  | some (.halved text) => .broke (halvesMessage text)
  | none => .done (.rows [])

end Embedded

/-- What stands behind a database once no answers wait: nothing, or an embedded database without
tables of its own. -/
inductive Store
  | silent
  | embedded
  deriving Repr, DecidableEq

def Store.answer : Store → BoundStatement → Answer
  | .silent, _ => .done (.rows [])
  | .embedded, s => Embedded.answer s

end TableGateway
