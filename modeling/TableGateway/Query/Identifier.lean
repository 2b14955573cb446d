namespace TableGateway

def isNameStart (c : Char) : Bool :=
  c.isAlpha || c == '_'

def isNameChar (c : Char) : Bool :=
  c.isAlphanum || c == '_'

/-- What may follow the first character of an identifier: name characters, and one newline at the
very end. -/
def isNameTail : List Char → Bool
  | [] => true
  | ['\n'] => true
  | c :: rest => isNameChar c && isNameTail rest

/-- ASCII letters, digits and underscores, no digit first; a single newline may end it. -/
def isIdentifier (s : String) : Bool :=
  match s.toList with
  | [] => false
  | c :: rest => isNameStart c && isNameTail rest

end TableGateway
