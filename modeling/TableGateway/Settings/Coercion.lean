import TableGateway.Logging.Record
import TableGateway.Text.LowerCase
import TableGateway.Value.Basic

namespace TableGateway

open Text

def onWords : List String := ["1", "true", "yes", "on"]

/-- A setting that is on or off. A number is on unless it is zero. -/
def coerceFlag : Value → Bool
  | .bool b => b
  | .int n => n != 0
  | .real x => x != 0
  | .text s => onWords.contains (lower (trimmed s))
  | _ => false

/-- A setting that is a number and not negative, or else the fallback. An integer that is too large
for a floating-point number is an error. -/
def coerceNonNegative (v fallback : Value) : Except Number.Error Value :=
  match v.toFloat with
  | .ok x => .ok (if x < 0 then fallback else .real x)
  | .error .tooLarge => .error .tooLarge
  | .error _ => .ok fallback

/-- The named values in a value. A name with half of a character in it is never asked for. -/
def Value.record? : Value → Option Record
  | .record fields => some fields
  | .mangled names values => some ((withNames names values).filterMap fun (name, value) =>
    (chars? name).map fun name => (String.ofList name, value))
  | _ => none

def keepRecords (entries : List Value) : Logged (Option (List Record)) :=
  let rules := entries.filterMap Value.record?
  let dropped := entries.length - rules.length
  { value := some rules
    records := if dropped = 0 then [] else [⟨.warning, .settings,
      "Dropped " ++ Number.writeInt dropped ++ " acl entries that were not objects"⟩] }

def notRulesNotice : LogRecord :=
  ⟨.warning, .settings, "acl configuration is not a list of rules; ignoring it"⟩

/-- The access rules of a setting: a list of entries, bare or under the name `rules`. Anything else
means that there are no rules. -/
def coerceRules : Value → Logged (Option (List Record))
  | .null => ⟨none, []⟩
  | v =>
    let listed := match v.record? with
      | some fields => Record.get fields "rules"
      | none => v
    match listed with
    | .list entries => keepRecords entries
    | _ => ⟨none, [notRulesNotice]⟩

end TableGateway
