import TableGateway.Text.Hex
import TableGateway.Text.Utf8

namespace TableGateway.Text.Percent

def bytes : List Char → List UInt8
  | [] => []
  | '%' :: a :: b :: rest =>
    match hexValue? a, hexValue? b with
    | some high, some low => UInt8.ofNat (16 * high + low) :: bytes rest
    | _, _ => 0x25 :: bytes (a :: b :: rest)
  | c :: rest => String.utf8EncodeChar c ++ bytes rest

def decode (text : List Char) : List Char :=
  Utf8.decodeLossy (bytes text)

/-- The characters that are never coded: ASCII letters and digits and four marks. -/
def isUnreserved (c : Char) : Bool :=
  c.isAlphanum || c == '_' || c == '.' || c == '-' || c == '~'

def encodeByte (byte : UInt8) : List Char :=
  ['%', capitalHexDigit (byte.toNat / 16), capitalHexDigit (byte.toNat % 16)]

def encodeChar (c : Char) : List Char :=
  if isUnreserved c then [c] else (String.utf8EncodeChar c).flatMap encodeByte

def encode (text : List Char) : List Char :=
  text.flatMap encodeChar

def encodeBut (marks : List Char) (text : List Char) : List Char :=
  text.flatMap fun c => if marks.contains c then [c] else encodeChar c

def encodeForm (text : List Char) : List Char :=
  text.flatMap fun c => if c = ' ' then ['+'] else encodeChar c

def decodeForm (text : List Char) : List Char :=
  decode (text.map fun c => if c = '+' then ' ' else c)

/-- A field of a form, `name=value`. One without a value is none. -/
def readField? (text : List Char) : Option (String × String) :=
  match text.span (· ≠ '=') with
  | (name, '=' :: c :: value) =>
    some (String.ofList (decodeForm name), String.ofList (decodeForm (c :: value)))
  | _ => none

def readFields (text : List Char) : List (String × String) :=
  (text.splitOnP (· = '&')).filterMap readField?

end TableGateway.Text.Percent
