/-!
# Shell patterns

A star stands for any text, a question mark for any character, and a set in brackets for one of its
characters, or for any other character if it begins with an exclamation mark. Everything else stands
for itself, and so does an opening bracket that is never closed.
-/

namespace TableGateway

structure CharSet where
  negated : Bool
  ranges : List (Char × Char)
  deriving Repr, DecidableEq

def CharSet.holds (s : CharSet) (c : Char) : Bool :=
  s.negated != s.ranges.any fun (first, last) => first ≤ c && c ≤ last

namespace Glob

inductive Piece
  | star
  | one
  | char (c : Char)
  | set (s : CharSet)
  deriving Repr, DecidableEq

def takeMark (mark : Char) : List Char → List Char × List Char
  | [] => ([], [])
  | c :: rest => if c = mark then ([c], rest) else ([], c :: rest)

/-- The inside of a set and what follows its closing bracket, given what follows the opening one. A
closing bracket at the very front is a member of the set. -/
def splitSet? (text : List Char) : Option (List Char × List Char) :=
  let (bang, text) := takeMark '!' text
  let (bracket, text) := takeMark ']' text
  match text.dropWhile (· ≠ ']') with
  | [] => none
  | _ :: rest => some (bang ++ bracket ++ text.takeWhile (· ≠ ']'), rest)

/-- Splits the inside of a set at the hyphens that make ranges. The first `skip` characters make
none. -/
def chunks : (skip : Nat) → List Char → List (List Char)
  | _, [] => [[]]
  | 0, '-' :: rest => [] :: chunks 2 rest
  | skip, c :: rest =>
    match chunks (skip - 1) rest with
    | [] => [[c]]
    | chunk :: others => (c :: chunk) :: others

def closeChunks : List (List Char) → List (List Char)
  | [] => []
  | [chunk, []] => [chunk ++ ['-']]
  | chunk :: others => chunk :: closeChunks others

/-- Puts a chunk in front of others. A range that would run backwards is dropped with both its
ends. -/
def consChunk (chunk : List Char) (others : List (List Char)) : List (List Char) :=
  match others with
  | [] => [chunk]
  | next :: rest =>
    match chunk.getLast?, next.head? with
    | some first, some last =>
      if last < first then (chunk.dropLast ++ next.drop 1) :: rest else chunk :: others
    | _, _ => chunk :: others

def chunkRanges : List (List Char) → List (Char × Char)
  | [] => []
  | [chunk] => chunk.map fun c => (c, c)
  | chunk :: next :: others =>
    (match chunk.getLast?, next.head? with
      | some first, some last => [(first, last)]
      | _, _ => []) ++ chunk.map (fun c => (c, c)) ++ chunkRanges (next :: others)

/-- The set with a given inside. Whether it is negated shows at the first character that is left
once the backward ranges are dropped; a hyphen right behind the mark of negation is a member. -/
def readSet (inside : List Char) : CharSet :=
  let skip := if inside.head? = some '!' then 2 else 1
  match (closeChunks (chunks skip inside)).foldr consChunk [] with
  | ['!'] :: next :: others => ⟨true, chunkRanges (('-' :: next) :: others)⟩
  | ('!' :: chunk) :: others => ⟨true, chunkRanges (chunk :: others)⟩
  | all => ⟨false, chunkRanges all⟩

theorem length_takeMark (mark : Char) (text : List Char) :
    (takeMark mark text).2.length ≤ text.length := by
  cases text with
  | nil => simp [takeMark]
  | cons c rest =>
    simp only [takeMark]
    split <;> simp

theorem length_lt_of_splitSet? {text inside rest : List Char}
    (h : splitSet? text = some (inside, rest)) : rest.length < text.length := by
  simp only [splitSet?] at h
  have hbang := length_takeMark '!' text
  have hbracket := length_takeMark ']' (takeMark '!' text).2
  have hdrop := (List.dropWhile_suffix (l := (takeMark ']' (takeMark '!' text).2).2)
    (fun c => decide (c ≠ ']'))).length_le
  split at h
  · simp at h
  · rename_i heq
    simp only [Option.some.injEq, Prod.mk.injEq] at h
    rw [heq] at hdrop
    simp only [List.length_cons, h.2] at hdrop
    omega

def pieces : List Char → List Piece
  | [] => []
  | '*' :: rest => .star :: pieces rest
  | '?' :: rest => .one :: pieces rest
  | '[' :: rest =>
    match _h : splitSet? rest with
    | some (inside, after) => .set (readSet inside) :: pieces after
    | none => .char '[' :: pieces rest
  | c :: rest => .char c :: pieces rest
  termination_by text => text.length
  decreasing_by
    · simp
    · simp
    · exact Nat.lt_succ_of_lt (length_lt_of_splitSet? _h)
    · simp
    · simp

def Piece.accepts : Piece → Char → Bool
  | .star, _ => false
  | .one, _ => true
  | .char c, d => c = d
  | .set s, d => s.holds d

def marksFrom : List Bool → List Bool
  | [] => []
  | b :: rest => (b || rest.any id) :: marksFrom rest

/-- For each end part of a text, the longest first and the empty one last, whether the pieces stand
for it. -/
def marks : List Piece → List Char → List Bool
  | [], text => text.map (fun _ => false) ++ [true]
  | .star :: rest, text => marksFrom (marks rest text)
  | piece :: rest, text =>
    List.zipWith (fun c b => piece.accepts c && b) text (marks rest text).tail ++ [false]

end Glob

def globMatches (pattern text : String) : Bool :=
  (Glob.marks (Glob.pieces pattern.toList) text.toList).headD false

end TableGateway
