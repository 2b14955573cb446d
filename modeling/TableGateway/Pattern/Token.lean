import TableGateway.Pattern.Basic

namespace TableGateway.Pattern

inductive Token
  | one (k : CharClass)
  | anchor (a : Anchor)
  | opening
  | closing
  | bar
  | times (least : Nat) (most : Option Nat)
  deriving Repr, DecidableEq

def isPlainDigit (c : Char) : Bool :=
  '0' ≤ c && c ≤ '9'

def isPlainLetter (c : Char) : Bool :=
  ('a' ≤ c && c ≤ 'z') || ('A' ≤ c && c ≤ 'Z')

def escapedChar? : Char → Option Char
  | 'a' => some '\x07'
  | 'f' => some '\x0c'
  | 'n' => some '\n'
  | 'r' => some '\r'
  | 't' => some '\t'
  | 'v' => some '\x0b'
  | c => if isPlainLetter c || isPlainDigit c then none else some c

def escapedKind? : Char → Option ClassMember
  | 'd' => some (.kind .digit false)
  | 'D' => some (.kind .digit true)
  | 's' => some (.kind .blank false)
  | 'S' => some (.kind .blank true)
  | 'w' => some (.kind .word false)
  | 'W' => some (.kind .word true)
  | _ => none

def escapedAnchor? : Char → Option Anchor
  | 'b' => some (.wordEdge false)
  | 'B' => some (.wordEdge true)
  | 'A' => some .start
  | 'Z' => some .finish
  | _ => none

def escapedToken? (c : Char) : Option Token :=
  match escapedKind? c, escapedAnchor? c with
  | some kind, _ => some (.one { members := [kind] })
  | none, some a => some (.anchor a)
  | none, none => (escapedChar? c).map fun c => .one (.only c)

/-- A single member of a class and what follows. Inside a class the letter `b` names the
backspace. -/
def takeMember? : List Char → Option (ClassMember × List Char)
  | [] => none
  | ['\\'] => none
  | '\\' :: 'b' :: rest => some (.range '\x08' '\x08', rest)
  | '\\' :: c :: rest =>
    match escapedKind? c with
    | some kind => some (kind, rest)
    | none => (escapedChar? c).map fun c => (.range c c, rest)
  | c :: rest => some (.range c c, rest)

/-- The range between two members. It must lead from a character to one that is not before it. -/
def rangeBetween? : (first last : ClassMember) → Option ClassMember
  | .range first _, .range last _ => if last < first then none else some (.range first last)
  | _, _ => none

/-- The members of a class up to its closing bracket, and what follows. A bracket in the first place
is a member, and so is a hyphen in the last. -/
def takeMembers? : (fuel : Nat) → (isFirst : Bool) → List Char →
    Option (List ClassMember × List Char)
  | 0, _, _ => none
  | fuel + 1, isFirst, text =>
    match isFirst, text with
    | false, ']' :: rest => some ([], rest)
    | _, text => do
      let (member, rest) ← takeMember? text
      match rest with
      | '-' :: ']' :: rest => some ([member, .range '-' '-'], rest)
      | '-' :: rest =>
        let (last, rest) ← takeMember? rest
        let range ← rangeBetween? member last
        let (members, rest) ← takeMembers? fuel false rest
        some (range :: members, rest)
      | rest =>
        let (members, rest) ← takeMembers? fuel false rest
        some (member :: members, rest)

def takeClass? (text : List Char) : Option (CharClass × List Char) :=
  let (negated, text) := match text with
    | '^' :: rest => (true, rest)
    | text => (false, text)
  (takeMembers? (text.length + 1) true text).map fun (members, rest) => ({ negated, members }, rest)

/-- The number of repetitions that cannot be asked for any more. -/
def repeatLimit : Nat := 4294967295

def plainNumber (digits : List Char) : Nat :=
  digits.foldl (fun n c => 10 * n + (c.toNat - '0'.toNat)) 0

/-- The bounds in braces and what follows, given what follows the opening brace. Braces with
anything else inside stand for themselves. -/
def takeBounds? (text : List Char) : Option ((List Char × List Char) × List Char) :=
  let least := text.takeWhile isPlainDigit
  match text.dropWhile isPlainDigit with
  | ',' :: rest =>
    match rest.dropWhile isPlainDigit with
    | '\x7d' :: after => some ((least, rest.takeWhile isPlainDigit), after)
    | _ => none
  | '\x7d' :: after => if least.isEmpty then none else some ((least, least), after)
  | _ => none

def boundedTimes? (least most : List Char) : Option Token :=
  let low := plainNumber least
  let high := if most.isEmpty then none else some (plainNumber most)
  if repeatLimit ≤ low || high.any (fun high => repeatLimit ≤ high || high < low) then none
  else some (.times low high)

def dropPreference : List Char → List Char
  | '?' :: rest => rest
  | '+' :: rest => rest
  | rest => rest

def takeToken? : List Char → Option (Token × List Char)
  | [] => none
  | ['\\'] => none
  | '\\' :: c :: rest => (escapedToken? c).map fun token => (token, rest)
  | '[' :: rest => (takeClass? rest).map fun (k, rest) => (.one k, rest)
  | '(' :: '?' :: ':' :: rest => some (.opening, rest)
  | '(' :: '?' :: _ => none
  | '(' :: rest => some (.opening, rest)
  | ')' :: rest => some (.closing, rest)
  | '|' :: rest => some (.bar, rest)
  | '.' :: rest => some (.one .inLine, rest)
  | '^' :: rest => some (.anchor .start, rest)
  | '$' :: rest => some (.anchor .lastLine, rest)
  | '?' :: rest => some (.times 0 (some 1), dropPreference rest)
  | '*' :: rest => some (.times 0 none, dropPreference rest)
  | '+' :: rest => some (.times 1 none, dropPreference rest)
  | '\x7b' :: rest =>
    match takeBounds? rest with
    | some ((least, most), after) =>
      (boundedTimes? least most).map fun token => (token, dropPreference after)
    | none => some (.one (.only '\x7b'), rest)
  | c :: rest => some (.one (.only c), rest)

def takeTokens? : (fuel : Nat) → List Char → Option (List Token)
  | _, [] => some []
  | 0, _ => none
  | fuel + 1, text => do
    let (token, rest) ← takeToken? text
    let tokens ← takeTokens? fuel rest
    some (token :: tokens)

def tokens? (text : List Char) : Option (List Token) :=
  takeTokens? text.length text

end TableGateway.Pattern
