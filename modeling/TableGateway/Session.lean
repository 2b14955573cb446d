import TableGateway.Value.Basic

/-!
# Sessions

A session names the user who is logged in. It is kept by the client, sealed with a key and written
down in JSON, so a user comes back with columns in order of name and with values that JSON can hold.
-/

namespace TableGateway

open Text

abbrev Session := Option Record

mutual

/-- A value as it comes back from a session. Moments and bytes are marked and stay what they are,
but a moment is kept to the second; one that lies outside the calendar in universal time cannot be
kept, nor can an integer with too many digits. A mangled record keeps its order, which no written
form shows. -/
def Value.kept? : Value → Option Value
  | .decimal d => some (.text d.text)
  | .date d => some (.text d.header)
  | .moment m => m.universal?.map fun m => .moment m.throughHeader
  | .list items => (keptItems? items).map .list
  | .record fields => (keptFields? fields).map fun fields => .record (Record.sorted fields)
  | .mangled names values => (keptItems? values).map (.mangled names ·)
  | .null => some .null
  | .bool b => some (.bool b)
  | .int n => if Number.isWritable n then some (.int n) else none
  | .real x => some (.real x)
  | .text s => some (.text s)
  | .halved s => some (.halved s)
  | .bytes data => some (.bytes data)

def keptItems? : List Value → Option (List Value)
  | [] => some []
  | v :: rest => do
    let v ← v.kept?
    let rest ← keptItems? rest
    some (v :: rest)

def keptFields? : List (String × Value) → Option (List (String × Value))
  | [] => some []
  | (name, v) :: rest => do
    let v ← v.kept?
    let rest ← keptFields? rest
    some ((name, v) :: rest)

end

mutual

def Value.depth : Value → Nat
  | .list items => itemsDepth items + 1
  | .record fields => fieldsDepth fields + 1
  | .mangled _ values => itemsDepth values + 1
  | _ => 0

def itemsDepth : List Value → Nat
  | [] => 0
  | v :: rest => max v.depth (itemsDepth rest)

def fieldsDepth : List (String × Value) → Nat
  | [] => 0
  | (_, v) :: rest => max v.depth (fieldsDepth rest)

end

structure SessionKeeping where
  key : Value
  lifetime : Value
  deriving Repr

namespace SessionKeeping

def isOn (keeping : SessionKeeping) : Bool :=
  keeping.key.isTruthy

def canSeal (keeping : SessionKeeping) : Bool :=
  match keeping.key with
  | .text _ => true
  | .bytes _ => true
  | _ => false

def defaultLifetime : Float := 2592000

-- A session ends at a date, so its lifetime may not lead out of the years 1 to 9999. The clock of a
-- world shows no date; both bounds are counted from the end of May 2026, when they were measured.
def longest : Float := 251622300000

def shortest : Float := -63915500000

-- A user is put into a session by calls inside calls, three for each level, and the interpreter
-- lets a thousand be open at once. How many the server has open by then was measured at its test
-- client; behind another server the bound lies a little lower or higher.
def maxDepth : Nat := 325

/-- The seconds that a session lasts, if they are a number and lead to a date. -/
def seconds? (keeping : SessionKeeping) : Option Float :=
  let seconds := if keeping.lifetime.isTruthy then
      match keeping.lifetime with
      | .bool true => some 1
      | .int n => (Number.ofInt n).toOption
      | .real x => some x
      | _ => none
    else some defaultLifetime
  seconds.filter fun seconds => shortest ≤ seconds && seconds ≤ longest

/-- The session that a client brings after a user was put into it, unless it cannot be sealed. A
session whose end lies in the past is not taken back. -/
def keep? (keeping : SessionKeeping) (user : Record) : Option Session := do
  let seconds ← keeping.seconds?
  if maxDepth < (Value.record user).depth then none
  let user ← (Value.record user).kept?
  if keeping.canSeal then
    match user with
    | .record fields => some (if seconds ≤ -1 then none else some fields)
    | _ => none
  else none

end SessionKeeping

end TableGateway
