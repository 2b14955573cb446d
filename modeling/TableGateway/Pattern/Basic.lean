import TableGateway.Text.Blank
import TableGateway.Text.DecimalDigit
import TableGateway.Text.WordChar

/-!
# Regular patterns

A pattern describes texts by single characters, anchors, sequence, choice and repetition. Here is
what a pattern reaches from a set of places in a text; a text holds a pattern if some place is
reached from some place. A set of places is a list of flags, one more than the text has characters.
-/

namespace TableGateway

open Text

inductive CharKind
  | digit
  | blank
  | word
  deriving Repr, DecidableEq

def CharKind.holds : CharKind → Char → Bool
  | .digit => isDigit
  | .blank => isBlank
  | .word => isWordChar

inductive ClassMember
  | range (first last : Char)
  | kind (k : CharKind) (negated : Bool)
  deriving Repr, DecidableEq

def ClassMember.holds : ClassMember → Char → Bool
  | .range first last, c => first ≤ c && c ≤ last
  | .kind k negated, c => negated != k.holds c

structure CharClass where
  negated : Bool := false
  members : List ClassMember
  deriving Repr, DecidableEq

namespace CharClass

def holds (k : CharClass) (c : Char) : Bool :=
  k.negated != k.members.any fun member => member.holds c

def only (c : Char) : CharClass :=
  { members := [.range c c] }

def inLine : CharClass :=
  { negated := true, members := [.range '\n' '\n'] }

end CharClass

inductive Anchor
  | start
  | finish
  | lastLine
  | wordEdge (negated : Bool)
  deriving Repr, DecidableEq

inductive Pattern
  | nothing
  | one (k : CharClass)
  | anchor (a : Anchor)
  | seq (first second : Pattern)
  | either (first second : Pattern)
  | times (p : Pattern) (least : Nat) (most : Option Nat)
  deriving Repr, DecidableEq

/-- The flags of the places at which words begin or end, given what stands before the text. -/
def wordEdges (afterWord : Bool) : List Char → List Bool
  | [] => [afterWord]
  | c :: rest => (afterWord != isWordChar c) :: wordEdges (isWordChar c) rest

/-- The flags of the places that fulfil a condition. The last line ends at the end of the text or
before a final newline, and a text without characters has no place inside or at the edge of a word.
-/
def Anchor.places (a : Anchor) (text : List Char) : List Bool :=
  match a with
  | .start => true :: text.map fun _ => false
  | .finish => text.map (fun _ => false) ++ [true]
  | .lastLine =>
    match text.reverse with
    | '\n' :: before => before.map (fun _ => false) ++ [true, true]
    | _ => text.map (fun _ => false) ++ [true]
  | .wordEdge negated =>
    if text.isEmpty then [false] else (wordEdges false text).map fun edge => negated != edge

namespace Pattern

def step (k : CharClass) (text : List Char) (places : List Bool) : List Bool :=
  false :: List.zipWith (fun c flag => flag && k.holds c) text places

def stepTimes (f : List Bool → List Bool) : Nat → List Bool → List Bool
  | 0, places => places
  | n + 1, places => stepTimes f n (f places)

def stepUpTo (f : List Bool → List Bool) : Nat → List Bool → List Bool
  | 0, places => places
  | n + 1, places =>
    let next := List.zipWith or places (f places)
    if next = places then places else stepUpTo f n next

/-- The places that a pattern leads to. More repetitions than the text has characters lead nowhere
new. -/
def reach (text : List Char) : Pattern → List Bool → List Bool
  | .nothing, places => places
  | .one k, places => step k text places
  | .anchor a, places => List.zipWith and places (a.places text)
  | .seq first second, places => second.reach text (first.reach text places)
  | .either first second, places =>
    List.zipWith or (first.reach text places) (second.reach text places)
  | .times p least most, places =>
    let bound := text.length + 1
    let extra := match most with
      | some most => min (most - least) bound
      | none => bound
    stepUpTo (p.reach text) extra (stepTimes (p.reach text) (min least bound) places)

def isFoundIn (p : Pattern) (text : String) : Bool :=
  (p.reach text.toList (true :: text.toList.map fun _ => true)).any id

end Pattern

end TableGateway
