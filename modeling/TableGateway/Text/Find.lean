namespace TableGateway.Text

def dropFront? : (mark text : List Char) → Option (List Char)
  | [], text => some text
  | _ :: _, [] => none
  | m :: mark, c :: text => if m = c then dropFront? mark text else none

theorem length_of_dropFront? {mark text after : List Char} (h : dropFront? mark text = some after) :
    after.length + mark.length = text.length := by
  induction mark generalizing text with
  | nil => simp_all [dropFront?]
  | cons m mark ih =>
    cases text with
    | nil => simp [dropFront?] at h
    | cons c text =>
      simp only [dropFront?] at h
      split at h
      · have := ih h
        simp only [List.length_cons]
        omega
      · simp at h

def cut? (mark : List Char) : List Char → Option (List Char × List Char)
  | [] => (dropFront? mark []).map fun after => ([], after)
  | c :: rest =>
    match dropFront? mark (c :: rest) with
    | some after => some ([], after)
    | none => (cut? mark rest).map fun (before, after) => (c :: before, after)

def contains (mark text : List Char) : Bool :=
  (cut? mark text).isSome

def before (mark text : List Char) : List Char :=
  ((cut? mark text).map Prod.fst).getD text

end TableGateway.Text
