namespace TableGateway

structure Reference where
  name : String
  default : String := ""
  deriving Repr, DecidableEq

namespace Reference

def closing : Char := '\x7d'

/-- Reads a reference at the front of a text, with the number of characters behind its first one. -/
def read? : List Char → Option (Reference × Nat)
  | '$' :: '\x7b' :: rest =>
    let name := rest.takeWhile fun c => c ≠ closing && c ≠ ':'
    match rest.drop name.length with
    | ':' :: '-' :: rest =>
      let default := rest.takeWhile (· ≠ closing)
      if rest.length = default.length then none
      else some (⟨String.ofList name, String.ofList default⟩, name.length + default.length + 4)
    | c :: _ =>
      if c = closing then some (⟨String.ofList name, ""⟩, name.length + 2) else none
    | [] => none
  | _ => none

def replaceAll (resolve : Reference → String) : List Char → List Char
  | [] => []
  | c :: rest =>
    match read? (c :: rest) with
    | some (reference, size) =>
      (resolve reference).toList ++ replaceAll resolve (rest.drop size)
    | none => c :: replaceAll resolve rest
  termination_by text => text.length
  decreasing_by
    · simp only [List.length_drop, List.length_cons]
      omega
    · simp

end Reference

end TableGateway
