import TableGateway.Digest.Sha256
import TableGateway.Text.Hex

namespace TableGateway.Digest

def blockSize : Nat := 64

/-- A key of exactly one block: a long key is digested first, a short one is filled up with
zeros. -/
def blockKey (key : List UInt8) : List UInt8 :=
  let short := if blockSize < key.length then sha256 key else key
  short ++ List.replicate (blockSize - short.length) 0

def keyed (key message : List UInt8) : List UInt8 :=
  let block := blockKey key
  sha256 (block.map (· ^^^ 0x5c) ++ sha256 (block.map (· ^^^ 0x36) ++ message))

def hexText (bytes : List UInt8) : String :=
  String.ofList (bytes.flatMap fun byte => Text.hexPadded 2 byte.toNat)

end TableGateway.Digest
