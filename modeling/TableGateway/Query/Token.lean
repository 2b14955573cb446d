import TableGateway.Query.Clause
import TableGateway.Query.Identifier
import TableGateway.Text.Find

namespace TableGateway

open Text

inductive Control
  | sort
  | limit
  | offset
  deriving Repr, DecidableEq

def Control.name : Control → String
  | .sort => "sort"
  | .limit => "limit"
  | .offset => "offset"

def Control.ofName? (name : String) : Option Control :=
  [Control.sort, .limit, .offset].find? fun word => word.name = name

inductive SkipReason
  | noOperator
  | badField
  | onlyEquals (word : Control)
  | badLimit
  | badOffset
  deriving Repr, DecidableEq

def SkipReason.message : SkipReason → String
  | .noOperator => "no operator"
  | .badField => "invalid field name"
  | .onlyEquals word => word.name ++ " only accepts '='"
  | .badLimit => "limit must be a positive integer"
  | .badOffset => "offset must be a non-negative integer"

structure Skipped where
  raw : String
  reason : SkipReason
  deriving Repr, DecidableEq

inductive Token
  | clause (c : Clause)
  | control (word : Control) (value : String)
  | skipped (s : Skipped)
  deriving Repr

/-- The operator of a fragment with what stands before and after its first occurrence: the first
operator of the search order that occurs anywhere. -/
def findOperator? (fragment : List Char) : Option (Operator × List Char × List Char) :=
  Operator.searchOrder.findSome? fun op =>
    (cut? op.symbol.toList fragment).map fun (key, value) => (op, key, value)

def takeJoin : List Char → Join × List Char
  | '|' :: key => (.or, key)
  | key => (.and, key)

/-- A text that spells a number is that number; any other text is itself. -/
def Value.ofText (s : String) : Except Number.Error Value := do
  match ← Number.read? s.toList with
  | some number => pure number.toValue
  | none => pure (.text s)

/-- The value of a clause: what a pattern is compared with always stays a text. -/
def Operator.readValue (op : Operator) (raw : String) : Except Number.Error Value :=
  match op with
  | .regex => .ok (.text raw)
  | _ => Value.ofText raw

def Token.read (fragment : String) : Except Number.Error Token :=
  match findOperator? fragment.toList with
  | none => .ok (.skipped ⟨fragment, .noOperator⟩)
  | some (op, key, raw) =>
    let (join, key) := takeJoin key
    let field := String.ofList key
    let raw := String.ofList raw
    match Control.ofName? field with
    | some word =>
      if op = .eq then .ok (.control word raw)
      else .ok (.skipped ⟨fragment, .onlyEquals word⟩)
    | none =>
      if isIdentifier field then do
        let value ← op.readValue raw
        pure (.clause { field, op, value, join })
      else .ok (.skipped ⟨fragment, .badField⟩)

end TableGateway
