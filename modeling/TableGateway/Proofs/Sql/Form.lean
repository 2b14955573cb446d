import TableGateway.Dispatch.Draft
import TableGateway.Proofs.Sql.Lexeme

namespace TableGateway.Sql

def IsPlainName (s : String) : Prop :=
  ∃ c rest, s.toList = c :: rest ∧ isNameStart c ∧ ∀ d ∈ rest, isNameChar d

structure Name where
  text : String
  isPlain : IsPlainName text

def Name.lexeme (name : Name) : Lexeme :=
  .word name.text

structure Digits where
  text : String
  ne_empty : text ≠ ""
  isDigit : ∀ c ∈ text.toList, '0' ≤ c ∧ c ≤ '9'

def Digits.value (digits : Digits) : Nat :=
  Nat.ofDigitChars 10 digits.text.toList 0

def Digits.lexeme (digits : Digits) : Lexeme :=
  .word digits.text

def comparisonMarks : List Lexeme :=
  [.mark "!=", .mark ">=", .mark "<=", .mark "=", .mark ">", .mark "<"]

/-- How an operator for patterns is read: `~` as a mark, any other as a word. -/
def regexLexeme (regexOperator : String) : Lexeme :=
  if regexOperator = "~" then .mark "~" else .word regexOperator

structure Comparison (regex : Lexeme) where
  column : Name
  operator : Lexeme
  isOperator : operator ∈ comparisonMarks ∨ operator = regex

def Comparison.lexemes {regex : Lexeme} (c : Comparison regex) : List Lexeme :=
  [c.column.lexeme, c.operator, .mark "?"]

structure Paging where
  limit : Digits
  limit_pos : 1 ≤ limit.value
  offset : Option Digits

def Paging.lexemes (paging : Paging) : List Lexeme :=
  [.word "LIMIT", paging.limit.lexeme] ++
    paging.offset.elim [] fun offset => [.word "OFFSET", offset.lexeme]

structure Condition (regex : Lexeme) where
  first : Comparison regex
  others : List (Join × Comparison regex)

def Condition.lexemes {regex : Lexeme} (condition : Condition regex) : List Lexeme :=
  .word "WHERE" :: condition.first.lexemes ++
    (condition.others.map fun (join, c) => .word join.word :: c.lexemes).flatten

def commaSeparated (parts : List (List Lexeme)) : List Lexeme :=
  [.mark ","].intercalate parts

def orderLexemes : List (Name × Direction) → List Lexeme
  | [] => []
  | keys => [.word "ORDER", .word "BY"] ++
    commaSeparated (keys.map fun (name, direction) => [name.lexeme, .word direction.word])

inductive Form (regex : Lexeme)
  | select (condition : Option (Condition regex)) (order : List (Name × Direction))
      (paging : Option Paging)
  | insert (first : Name) (others : List Name)
  | update (first : Name) (others : List Name)
  | delete

def idLexemes : List Lexeme :=
  [.word "WHERE", .word "id", .mark "=", .mark "?"]

def Form.lexemes {regex : Lexeme} (resource : String) : Form regex → List Lexeme
  | .select condition order paging =>
    [.word "SELECT", .mark "*", .word "FROM", .word resource] ++
      condition.elim [] Condition.lexemes ++ orderLexemes order ++ paging.elim [] Paging.lexemes
  | .insert first others =>
    [.word "INSERT", .word "INTO", .word resource, .mark "("] ++
      commaSeparated ((first :: others).map fun column => [column.lexeme]) ++
      [.mark ")", .word "VALUES", .mark "("] ++
      commaSeparated ((first :: others).map fun _ => [.mark "?"]) ++ [.mark ")"]
  | .update first others =>
    [.word "UPDATE", .word resource, .word "SET"] ++
      commaSeparated
        ((first :: others).map fun column => [column.lexeme, .mark "=", .mark "?"]) ++
      idLexemes
  | .delete => [.word "DELETE", .word "FROM", .word resource] ++ idLexemes

end TableGateway.Sql
