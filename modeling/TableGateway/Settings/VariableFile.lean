import TableGateway.Text.Blank
import TableGateway.Text.Find

/-!
# Files of variables

A file of variables binds names to values, each on a line of its own: `NAME=value`, perhaps behind
the word `export`. A value is bare or stands between quotes, and a quoted one may spread over
several lines. A name without an equals sign is bound to no value. A line that breaks the rules is
left out from where it does so to its end.
-/

namespace TableGateway

open Text

structure Binding where
  name : String
  value : Option String
  deriving Repr, DecidableEq

namespace VariableFile

def unifyLineEnds : List Char → List Char
  | '\r' :: '\n' :: rest => '\n' :: unifyLineEnds rest
  | c :: rest => (if c = '\r' then '\n' else c) :: unifyLineEnds rest
  | [] => []

def isInnerBlank (c : Char) : Bool :=
  isBlank c && c ≠ '\n'

def skipInner (text : List Char) : List Char :=
  text.dropWhile isInnerBlank

def skipLine (text : List Char) : List Char :=
  (text.dropWhile (· ≠ '\n')).drop 1

def skipExport (text : List Char) : List Char :=
  match dropFront? "export".toList text with
  | some (c :: rest) => if isInnerBlank c then skipInner rest else text
  | _ => text

def takeName? (text : List Char) : Option (List Char × List Char) :=
  match text with
  | '\'' :: rest =>
    match rest.span (· ≠ '\'') with
    | (c :: name, _ :: after) => some (c :: name, after)
    | _ => none
  | _ =>
    match text.span fun c => c ≠ '=' && c ≠ '#' && !isBlank c with
    | ([], _) => none
    | found => some found

/-- Takes what stands before a closing quote. A quote behind a backslash closes only if no other one
does. -/
def takeQuoted? (mark : Char) : List Char → Option (List Char × List Char)
  | [] => none
  | '\\' :: c :: rest =>
    if c = mark then
      match takeQuoted? mark rest with
      | some (inside, after) => some ('\\' :: mark :: inside, after)
      | none => some (['\\'], rest)
    else (takeQuoted? mark (c :: rest)).map fun (inside, after) => ('\\' :: inside, after)
  | c :: rest =>
    if c = mark then some ([], rest)
    else (takeQuoted? mark rest).map fun (inside, after) => (c :: inside, after)

def plainEscapes : List (Char × Char) :=
  [('\\', '\\'), ('\'', '\'')]

def fullEscapes : List (Char × Char) :=
  plainEscapes ++ [('"', '"'), ('a', '\x07'), ('b', '\x08'), ('f', '\x0c'), ('n', '\n'),
    ('r', '\r'), ('t', '\t'), ('v', '\x0b')]

/-- Puts characters for escapes. A backslash before anything else stands for itself. -/
def resolveEscapes (escapes : List (Char × Char)) : List Char → List Char
  | '\\' :: c :: rest =>
    match escapes.lookup c with
    | some meant => meant :: resolveEscapes escapes rest
    | none => '\\' :: resolveEscapes escapes (c :: rest)
  | c :: rest => c :: resolveEscapes escapes rest
  | [] => []

/-- Cuts a comment off a bare value: a number sign behind a blank, with all blanks before it. -/
def cutComment : List Char → List Char
  | [] => []
  | c :: rest =>
    if isBlank c && ((c :: rest).dropWhile isBlank).head? = some '#' then []
    else c :: cutComment rest

def takeValue? (text : List Char) : Option (List Char × List Char) :=
  match skipInner text with
  | '\'' :: rest => (takeQuoted? '\'' rest).map fun (inside, after) =>
      (resolveEscapes plainEscapes inside, after)
  | '"' :: rest => (takeQuoted? '"' rest).map fun (inside, after) =>
      (resolveEscapes fullEscapes inside, after)
  | _ =>
    let (line, after) := text.span (· ≠ '\n')
    some (trim (cutComment line), after)

def dropLineEnd? (text : List Char) : Option (List Char) :=
  match skipInner text with
  | [] => some []
  | '\n' :: rest => some rest
  | '#' :: rest => some (skipLine rest)
  | _ => none

/-- Takes a name and what it is bound to. A comment in the place of a name binds nothing. What
cannot be read is given back. -/
def takeBinding (text : List Char) : Except (List Char) (Option Binding × List Char) := do
  let text := skipExport text
  if text.head? = some '#' then return (none, text)
  let (name, rest) ← (takeName? text).elim (.error text) .ok
  match skipInner rest with
  | '=' :: rest => do
    let (value, rest) ← (takeValue? rest).elim (.error rest) .ok
    return (some ⟨String.ofList name, some (String.ofList value)⟩, rest)
  | rest => return (some ⟨String.ofList name, none⟩, rest)

def takeLine (text : List Char) : Except (List Char) (Option Binding × List Char) := do
  let (binding, rest) ← takeBinding text
  let rest ← (dropLineEnd? rest).elim (.error rest) .ok
  return (binding, rest)

def readLines : (fuel : Nat) → List Char → List Binding
  | 0, _ => []
  | fuel + 1, text =>
    match text.dropWhile isBlank with
    | [] => []
    | text =>
      match takeLine text with
      | .ok (binding, rest) => binding.toList ++ readLines fuel rest
      | .error rest => readLines fuel (skipLine rest)

/-- Reads the bindings of a text. A mark of byte order at its front is passed over. -/
def read (text : List Char) : List Binding :=
  let text := (dropFront? ['\ufeff'] text).getD text
  readLines (text.length + 1) (unifyLineEnds text)

end VariableFile

end TableGateway
