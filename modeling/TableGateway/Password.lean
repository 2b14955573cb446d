import TableGateway.Digest.Keyed
import TableGateway.Failure

/-!
# Passwords

A password is stored as the keyed digest of its text. The key is the configured salt; without one
there is no hasher. What is digested is the UTF-8 form of a text, so a password with half of a
character in it has no stored form.
-/

namespace TableGateway

structure Hasher where
  salt : String
  salt_ne_empty : salt ≠ ""

namespace Hasher

/-- The hasher for a configured salt, which has to be a text that is not empty. -/
def ofSalt : Value → Except Failure Hasher
  | .text salt => if h : salt ≠ "" then .ok ⟨salt, h⟩ else .error .emptySalt
  | .halved salt => .error (.unencodable salt)
  | _ => .error .emptySalt

def hash (hasher : Hasher) (plain : String) : String :=
  Digest.hexText
    (Digest.keyed (Text.Utf8.encode hasher.salt.toList) (Text.Utf8.encode plain.toList))

def hashValue (hasher : Hasher) : Value → Except Failure String
  | .halved plain => .error (.unencodable plain)
  | plain => .ok (hasher.hash plain.display)

end Hasher

end TableGateway
