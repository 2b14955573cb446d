import TableGateway.Text.CodePoint
import TableGateway.Text.Hex
import TableGateway.Text.Printable

namespace TableGateway.Text

def quoteMark (text : List Char) : Char :=
  if '\'' ∈ text ∧ '"' ∉ text then '"' else '\''

/-- The escape for a character that cannot be printed: the shortest form that holds its code
point. -/
def escapeCode (c : Char) : List Char :=
  let point := c.toNat
  if point < 0x100 then '\\' :: 'x' :: hexPadded 2 point
  else if point < 0x10000 then '\\' :: 'u' :: hexPadded 4 point
  else '\\' :: 'U' :: hexPadded 8 point

def quoteChar (mark c : Char) : List Char :=
  if c = mark ∨ c = '\\' then ['\\', c]
  else if c = '\n' then ['\\', 'n']
  else if c = '\r' then ['\\', 'r']
  else if c = '\t' then ['\\', 't']
  else if isPrintable c then [c]
  else escapeCode c

def quotedChars (text : List Char) : List Char :=
  quoteMark text :: (text.flatMap (quoteChar (quoteMark text)) ++ [quoteMark text])

def quoted (s : String) : String :=
  String.ofList (quotedChars s.toList)

/-- One code point as it is written between the quotes `mark`. Half of a character cannot be
printed. -/
def quotePoint (mark : Char) : CodePoint → List Char
  | .char c => quoteChar mark c
  | .half h => '\\' :: 'u' :: hexPadded 4 h.unit

def quotedPoints (text : List CodePoint) : String :=
  let mark := quoteMark (text.filterMap CodePoint.char?)
  String.ofList (mark :: (text.flatMap (quotePoint mark) ++ [mark]))

def quoteByte (mark : Char) (byte : UInt8) : List Char :=
  if byte < 0x80 then
    let c := Char.ofNat byte.toNat
    if c = mark ∨ c = '\\' ∨ c = '\n' ∨ c = '\r' ∨ c = '\t' then quoteChar mark c
    else if ' ' ≤ c ∧ c ≤ '~' then [c]
    else escapeCode c
  else '\\' :: 'x' :: hexPadded 2 byte.toNat

def quotedBytes (bytes : List UInt8) : String :=
  let mark := quoteMark (bytes.map fun byte => Char.ofNat byte.toNat)
  String.ofList ('b' :: mark :: (bytes.flatMap (quoteByte mark) ++ [mark]))

end TableGateway.Text
