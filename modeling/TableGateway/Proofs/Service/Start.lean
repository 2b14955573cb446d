import TableGateway.Proofs.Access.Configuration
import TableGateway.Proofs.Action

namespace TableGateway

variable {s : Service} {w : World}

theorem Action.result_ofLogged {α : Type} (made : Logged (Except Failure α)) (w : World) :
    (Action.ofLogged made w).result = made.value := by
  rw [ofLogged, logAll_bind, ofExcept_apply]

theorem Action.exists_of_ite_bind_eq_ok {α β : Type} {p : Prop} [Decidable p] {x y : Action α}
    {f : α → Action β} {b : β} (h : ((if p then x >>= f else y >>= f) w).result = .ok b) :
    ∃ a met, (f a met).result = .ok b := by
  split at h
  · obtain ⟨a, -, h⟩ := result_bind_eq_ok_iff.mp h
    exact ⟨a, _, h⟩
  · obtain ⟨a, -, h⟩ := result_bind_eq_ok_iff.mp h
    exact ⟨a, _, h⟩

namespace Service

/-- A service lets users through and looks them up as a configuration says. -/
structure Follows (s : Service) (config : Record) : Prop where
  gate : Config.gate config = .ok s.dispatcher.gate
  hasher : hasherOf config = .ok s.dispatcher.hasher
  identityTable : s.dispatcher.settings.identityTable = config.get "IDENTITY_TABLE"
  passwordField : s.dispatcher.settings.passwordField = config.get "PASSWORD_FIELD"
  loginField : s.loginField = config.get "LOGIN_FIELD"

/-- A service that was started follows the configuration of its deployment. -/
theorem exists_follows_of_start {d : Deployment} {overrides : Record} {engine : Option String}
    (hstart : (start d overrides engine w).result = .ok s) :
    ∃ config, (Config.build d overrides).value = .ok config ∧ s.Follows config := by
  unfold start at hstart
  obtain ⟨config, hconfig, h⟩ := Action.result_bind_eq_ok_iff.mp hstart
  rw [Action.result_ofLogged] at hconfig
  -- A named engine is made at this point; what comes behind is the same without one.
  obtain ⟨named, _, h⟩ := Action.exists_of_ite_bind_eq_ok h
  obtain ⟨hasher, hhasher, h⟩ := Action.result_bind_eq_ok_iff.mp h
  rw [Action.ofExcept_apply] at hhasher
  obtain ⟨lifetime, -, h⟩ := Action.result_bind_eq_ok_iff.mp h
  obtain ⟨_, -, h⟩ := Action.result_bind_eq_ok_iff.mp h
  obtain ⟨gate, hgate, h⟩ := Action.result_bind_eq_ok_iff.mp h
  rw [Action.ofExcept_apply] at hgate
  obtain ⟨_, -, h⟩ := Action.result_bind_eq_ok_iff.mp h
  obtain ⟨dialect, -, h⟩ := Action.result_bind_eq_ok_iff.mp h
  obtain ⟨_, -, h⟩ := Action.result_bind_eq_ok_iff.mp h
  obtain rfl := Except.ok.inj h
  exact ⟨config, hconfig, hgate, hhasher, rfl, rfl, rfl⟩

end Service

end TableGateway
