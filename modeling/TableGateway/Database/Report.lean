import TableGateway.Value.Basic
import TableGateway.Text.Blank
import TableGateway.Text.Find

/-!
# What a database says about a failure

The text of a failure can hold the statement and its values, so only a part of it is shown: what
comes before the statement, with links to explanations taken out.
-/

namespace TableGateway

open Text

/-- The report of a driver: its text, and the bare message of the server where the driver keeps
one. -/
structure DriverReport where
  text : String
  primary : Option Value := none
  deriving Repr

/-- A failure of a statement, with the report of the driver if one was reached. -/
structure DatabaseError where
  name : String
  text : String
  origin : Option DriverReport := none
  deriving Repr

def DriverReport.primaryText? (report : DriverReport) : Option String :=
  match report.primary with
  | some (.text message) => if message.isEmpty then none else some message
  | some (.halved message) => some (shownPoints message.points)
  | _ => none

def DatabaseError.rawMessage (e : DatabaseError) : String :=
  match e.origin with
  | some report => report.primaryText?.getD report.text
  | none => e.text

def statementMark : List Char := "[SQL:".toList

def lineMark : List Char := "\nLINE ".toList

def linkMark : List Char := "(Background on this error at:".toList

def dropLink? (text : List Char) : Option (List Char) := do
  let rest ← dropFront? linkMark text
  match rest.dropWhile (· ≠ ')') with
  | [] => none
  | _ :: after => some after

theorem length_lt_of_dropLink? {text after : List Char} (h : dropLink? text = some after) :
    after.length < text.length := by
  simp only [dropLink?, Option.bind_eq_bind, Option.bind_eq_some_iff] at h
  obtain ⟨rest, hrest, h⟩ := h
  have hfront := length_of_dropFront? hrest
  have hdrop : (rest.dropWhile (· ≠ ')')).length ≤ rest.length :=
    (List.dropWhile_suffix _).length_le
  split at h
  · simp at h
  · rename_i heq
    rw [heq] at hdrop
    simp only [Option.some.injEq] at h
    subst h
    simp only [List.length_cons] at hdrop
    omega

/-- Takes out every link, with the blanks in front of it. -/
def removeLinks : List Char → List Char
  | [] => []
  | c :: rest =>
    match _h : dropLink? ((c :: rest).dropWhile isBlank) with
    | some after => removeLinks after
    | none => c :: removeLinks rest
  termination_by text => text.length
  decreasing_by
    · have hlt := length_lt_of_dropLink? _h
      have hdrop : ((c :: rest).dropWhile isBlank).length ≤ (c :: rest).length :=
        (List.dropWhile_suffix _).length_le
      simp only [List.length_cons] at hdrop ⊢
      omega
    · simp

def scrub (message : List Char) : List Char :=
  trim (removeLinks (before lineMark (before statementMark message)))

/-- The message of a failure that may be shown; if nothing is left of it, the failure's name. -/
def DatabaseError.message (e : DatabaseError) : String :=
  let shown := String.ofList (scrub e.rawMessage.toList)
  if shown.isEmpty then e.name else shown

end TableGateway
