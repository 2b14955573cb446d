import TableGateway.Access.Gate
import TableGateway.Proofs.Record

namespace TableGateway.Gate

variable {gate : Gate} {user : Option Record} {resource method : String} {kind : Kind} {f : Failure}

def Permits (gate : Gate) (user : Option Record) (resource method : String) (kind : Kind) : Prop :=
  gate.rules = none ∨ ∃ rules role, gate.rules = some rules ∧ gate.roleOf user = .ok role ∧
    ∃ rule ∈ rules, rule.allows role resource method kind.name

/-- A gate decides in favour of a call exactly if it permits it. -/
theorem decide_eq_ok_true_iff :
    (∃ records, gate.decide user resource method (some kind) = .ok (true, records)) ↔
      gate.Permits user resource method kind := by
  unfold decide Permits
  cases gate.rules with
  | none => simp [pure, Except.pure]
  | some rules =>
      cases gate.roleOf user with
      | error e => simp [bind, Except.bind]
      | ok role =>
          cases hallowed : someRuleAllows rules ⟨role, resource, method, kind.name⟩ with
          | true =>
              have hrule := List.any_eq_true.mp hallowed
              simpa [hallowed, bind, Except.bind, pure, Except.pure] using hrule
          | false =>
              have hrule : ∀ rule ∈ rules, ¬ rule.allows role resource method kind.name := by
                simpa [someRuleAllows] using hallowed
              simpa [hallowed, bind, Except.bind, pure, Except.pure] using hrule

/-- A role cannot be told only where the field with it has a name that can be none. -/
theorem roleOf_eq_error_iff :
    gate.roleOf user = .error f ↔ ∃ fields kind, user = some fields ∧ fields ≠ [] ∧
      gate.roleField.IsUnusableName kind ∧ f = .unusableName kind := by
  cases user with
  | none => simp [roleOf]
  | some fields =>
      cases fields with
      | nil => simp [roleOf]
      | cons field fields =>
          have hrole : gate.roleOf (some (field :: fields)) = .error f ↔
              Record.lookup (field :: fields) gate.roleField = .error f := by
            simp only [roleOf]
            cases hlookup : Record.lookup (field :: fields) gate.roleField with
            | error e => simp [bind, Except.bind]
            | ok role => cases role <;> simp [bind, Except.bind, pure, Except.pure]
          rw [hrole, Record.lookup_eq_error_iff]
          simp

/-- A gate fails to decide only if it has rules and cannot tell the role of a caller. -/
theorem decide_eq_error_iff :
    gate.decide user resource method (some kind) = .error f ↔
      gate.rules.isSome ∧ ∃ fields name, user = some fields ∧ fields ≠ [] ∧
        gate.roleField.IsUnusableName name ∧ f = .unusableName name := by
  rw [← roleOf_eq_error_iff]
  unfold decide
  cases gate.rules with
  | none => simp [pure, Except.pure]
  | some rules =>
      cases gate.roleOf user with
      | error e => simp [bind, Except.bind]
      | ok role =>
          cases hallowed : someRuleAllows rules ⟨role, resource, method, kind.name⟩ <;>
            simp [hallowed, bind, Except.bind, pure, Except.pure]

end TableGateway.Gate
