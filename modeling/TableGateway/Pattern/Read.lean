import TableGateway.Pattern.Token

namespace TableGateway.Pattern

/-- An item of a sequence. Anchors and repetitions cannot be repeated. -/
structure Item where
  pattern : Pattern
  repeatable : Bool

/-- What was read since a parenthesis was opened, the last item first. -/
structure Frame where
  choices : Option Pattern := none
  items : List Item := []

namespace Frame

def push (frame : Frame) (pattern : Pattern) (repeatable : Bool) : Frame :=
  { frame with items := ⟨pattern, repeatable⟩ :: frame.items }

def sequence (frame : Frame) : Pattern :=
  frame.items.foldl (fun after item => match after with
    | .nothing => item.pattern
    | after => .seq item.pattern after) .nothing

def whole (frame : Frame) : Pattern :=
  match frame.choices with
  | none => frame.sequence
  | some choices => .either choices frame.sequence

def repeatLast? (frame : Frame) (least : Nat) (most : Option Nat) : Option Frame :=
  match frame.items with
  | ⟨p, true⟩ :: items =>
    some { frame with items := ⟨.times p least most, false⟩ :: items }
  | _ => none

end Frame

/-- How many parentheses may stand around another. -/
def maxNesting : Nat := 485

/-- Takes in a piece. Below the frame at hand are those of the parentheses around it. -/
def Token.takeInto? (token : Token) (frame : Frame) (below : List Frame) :
    Option (Frame × List Frame) :=
  match token, below with
  | .one k, below => some (frame.push (.one k) true, below)
  | .anchor a, below => some (frame.push (.anchor a) false, below)
  | .opening, below => if below.length < maxNesting then some ({}, frame :: below) else none
  | .closing, outer :: below => some (outer.push frame.whole true, below)
  | .closing, [] => none
  | .bar, below => some ({ choices := some frame.whole }, below)
  | .times least most, below => (frame.repeatLast? least most).map fun frame => (frame, below)

def ofTokens? : List Token → Frame → List Frame → Option Pattern
  | [], frame, [] => some frame.whole
  | [], _, _ :: _ => none
  | token :: rest, frame, below => do
    let (frame, below) ← token.takeInto? frame below
    ofTokens? rest frame below

def read? (text : String) : Option Pattern := do
  ofTokens? (← tokens? text.toList) {} []

end TableGateway.Pattern
