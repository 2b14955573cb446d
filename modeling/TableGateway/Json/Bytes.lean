import TableGateway.Json.Read
import TableGateway.Text.Utf8

namespace TableGateway.Json

open Text

inductive Encoding
  | utf8
  | utf16 (bigEndian : Bool)
  | utf32 (bigEndian : Bool)
  deriving Repr, DecidableEq

/-- The encoding of a row of bytes, and the bytes without the mark of byte order. -/
def detect : List UInt8 → Encoding × List UInt8
  | 0 :: 0 :: 0xfe :: 0xff :: rest => (.utf32 true, rest)
  | 0xff :: 0xfe :: 0 :: 0 :: rest => (.utf32 false, rest)
  | 0xfe :: 0xff :: rest => (.utf16 true, rest)
  | 0xff :: 0xfe :: rest => (.utf16 false, rest)
  | 0xef :: 0xbb :: 0xbf :: rest => (.utf8, rest)
  | a :: b :: c :: d :: rest =>
    let encoding :=
      if a = 0 then (if b = 0 then .utf32 true else .utf16 true)
      else if b = 0 then (if c = 0 ∧ d = 0 then .utf32 false else .utf16 false)
      else .utf8
    (encoding, a :: b :: c :: d :: rest)
  | [a, b] => (if a = 0 then .utf16 true else if b = 0 then .utf16 false else .utf8, [a, b])
  | bytes => (.utf8, bytes)

def units16? (bigEndian : Bool) : List UInt8 → Option (List Nat)
  | [] => some []
  | a :: b :: rest => do
    let others ← units16? bigEndian rest
    some ((if bigEndian then 256 * a.toNat + b.toNat else 256 * b.toNat + a.toNat) :: others)
  | _ => none

def points16 : List Nat → List CodePoint
  | high :: low :: rest =>
    if isHighUnit high && isLowUnit low then joinUnits high low :: points16 rest
    else .ofUnit high :: points16 (low :: rest)
  | [unit] => [.ofUnit unit]
  | [] => []

def points32? (bigEndian : Bool) : List UInt8 → Option (List CodePoint)
  | [] => some []
  | a :: b :: c :: d :: rest => do
    let bytes := if bigEndian then [a, b, c, d] else [d, c, b, a]
    let point := bytes.foldl (fun point byte => 256 * point + byte.toNat) 0
    if point < 0x110000 then (points32? bigEndian rest).map (.ofUnit point :: ·) else none
  | _ => none

/-- The code points of UTF-8, where half of a character is let through if it is written like a
character of three bytes. The bytes in `run`, the last one first, are still to be decoded. -/
def points8? (run : List UInt8) : List UInt8 → Option (List CodePoint)
  | byte :: second :: third :: rest =>
    if byte = 0xed ∧ 0xa0 ≤ second ∧ Utf8.isContinuation second ∧ Utf8.isContinuation third then do
      let front ← Utf8.decode? run.reverse
      let back ← points8? [] rest
      some (points front ++ .ofUnit (Utf8.extend (Utf8.extend 0xd second) third) :: back)
    else points8? (byte :: run) (second :: third :: rest)
  | bytes => (Utf8.decode? (run.reverse ++ bytes)).map points

def decode? (bytes : List UInt8) : Option (List CodePoint) :=
  match detect bytes with
  | (.utf8, bytes) => points8? [] bytes
  | (.utf16 bigEndian, bytes) => (units16? bigEndian bytes).map points16
  | (.utf32 bigEndian, bytes) => points32? bigEndian bytes

def readBytes (maxNesting : Nat) (bytes : List UInt8) : Except ReadError Value := do
  readPoints maxNesting (← wellFormed (decode? bytes))

-- As for a body, a thousand calls less those that are open before a file is read: 11, measured where
-- the configuration is loaded from a script.
def maxFileNesting : Nat := 989

/-- Reads the bytes of a file that holds one value in UTF-8, without a mark of byte order. -/
def readFile? (bytes : List UInt8) : Option Value :=
  (Utf8.decode? bytes).bind fun text => (read maxFileNesting text).toOption

end TableGateway.Json
