import TableGateway.Database.Catalog
import TableGateway.Proofs.Number.Compare
import TableGateway.Proofs.Number.Rounding
import TableGateway.Proofs.Settings.Config

/-!
# The lifetime of a listing

Whatever is given for the lifetime of a kept listing, what is set for it is a number that is not
negative, with two exceptions: an integer that is too large for a floating-point number ends the
configuration, and the missing number, which is not below zero, is kept as it is.
-/

namespace TableGateway

/-! ## Values -/

structure Value.IsLifetime (v : Value) : Prop where
  number : (∃ n, v = .int n ∧ 0 ≤ n) ∨ ∃ x, v = .real x ∧ 0 ≤ x
  accepted : ∃ lifetime, Catalog.lifetimeOf v = .ok lifetime ∧ 0 ≤ lifetime

def Value.IsTooLarge : Value → Prop
  | .int n => Number.leastInfinite ≤ n.natAbs
  | _ => False

/-- What is taken for the missing number. -/
def Value.IsMissing : Value → Prop
  | .real x => x.isNaN = true
  | .text s => Number.SpellsMissing s.toList
  | .decimal d => Number.SpellsMissing d.text.toList
  | _ => False

instance : DecidablePred Value.IsTooLarge
  | .int n => inferInstanceAs (Decidable (Number.leastInfinite ≤ n.natAbs))
  | .null | .bool _ | .real _ | .text _ | .halved _ | .list _ | .record _ | .mangled _ _
  | .decimal _ | .bytes _ | .date _ | .moment _ => inferInstanceAs (Decidable False)

instance : DecidablePred Value.IsMissing
  | .real x => inferInstanceAs (Decidable (x.isNaN = true))
  | .text s => inferInstanceAs (Decidable (Number.SpellsMissing s.toList))
  | .decimal d => inferInstanceAs (Decidable (Number.SpellsMissing d.text.toList))
  | .null | .bool _ | .int _ | .halved _ | .list _ | .record _ | .mangled _ _ | .bytes _
  | .date _ | .moment _ => inferInstanceAs (Decidable False)

variable {v : Value} {x : Float}

/-- Only integers can be too large. -/
theorem Value.toFloat_eq_tooLarge_iff : v.toFloat = .error .tooLarge ↔ v.IsTooLarge := by
  cases v with
  | int n =>
      rw [toFloat, Number.ofInt_eq_error_iff, IsTooLarge]
      exact and_iff_left rfl
  | text s =>
      rw [toFloat]
      exact iff_of_false (Number.readFloat_ne_tooLarge s) id
  | decimal d =>
      rw [toFloat]
      exact iff_of_false (Number.readFloat_ne_tooLarge d.text) id
  | null | bool | real | halved | list | record | mangled | bytes | date | moment =>
      exact iff_of_false nofun id

/-- The missing number comes from what stands for it, and from nothing else. -/
theorem Value.isNaN_of_toFloat (h : v.toFloat = .ok x) : x.isNaN = true ↔ v.IsMissing := by
  cases v with
  | bool b =>
      cases h
      exact iff_of_false (by cases b <;> decide +kernel) id
  | int n =>
      rw [toFloat, Number.ofInt] at h
      split at h
      · cases h
      · cases h
        exact iff_of_false (by rw [Number.isNaN_ofInt]; decide) id
  | real y =>
      cases h
      exact Iff.rfl
  | text s =>
      rw [toFloat] at h
      rw [Number.isNaN_of_readFloat h, IsMissing]
  | decimal d =>
      rw [toFloat] at h
      rw [Number.isNaN_of_readFloat h, IsMissing]
  | null | halved | list | record | mangled | bytes | date | moment => cases h

theorem Value.exists_toFloat_of_isMissing (h : v.IsMissing) : ∃ x, v.toFloat = .ok x := by
  cases v with
  | real x => exact ⟨x, rfl⟩
  | text s =>
      rw [IsMissing] at h
      rw [toFloat]
      exact Number.exists_readFloat_of_spellsMissing h
  | decimal d =>
      rw [IsMissing] at h
      rw [toFloat]
      exact Number.exists_readFloat_of_spellsMissing h
  | null | bool | int | halved | list | record | mangled | bytes | date | moment => exact h.elim

/-! ## What is kept -/

theorem Value.isLifetime_zero : (Value.int 0).IsLifetime where
  number := Or.inl ⟨0, rfl, Int.le_refl 0⟩
  accepted := ⟨0, rfl, by decide +kernel⟩

/-- Comparing with zero leaves the missing number out. -/
theorem Value.isLifetime_real_iff : (Value.real x).IsLifetime ↔ 0 ≤ x := by
  constructor
  · intro h
    rcases h.number with ⟨n, hn, -⟩ | ⟨y, hy, hle⟩
    · cases hn
    · cases hy
      exact hle
  · intro h
    refine ⟨Or.inr ⟨x, rfl, h⟩, ?_⟩
    rw [Catalog.lifetimeOf]
    split
    · exact ⟨x, rfl, h⟩
    · exact ⟨0, rfl, by decide +kernel⟩

/-- Of a number that was read, what is below zero is replaced, and the missing number is not. -/
theorem isLifetime_ite_iff :
    (if x < 0 then Value.int 0 else Value.real x).IsLifetime ↔ ¬ x.isNaN = true := by
  by_cases hneg : x < 0
  · rw [if_pos hneg]
    refine iff_of_true Value.isLifetime_zero fun hnan => ?_
    exact Number.not_lt_zero_of_isNaN hnan hneg
  · rw [if_neg hneg, Value.isLifetime_real_iff, Number.zero_le_iff, Bool.not_eq_true]
    exact and_iff_right hneg

/-- What is given is kept in the form of a lifetime, unless it is too large or missing. -/
theorem exists_coerceNonNegative_iff :
    (∃ kept, coerceNonNegative v (.int 0) = .ok kept ∧ kept.IsLifetime) ↔
      ¬ v.IsTooLarge ∧ ¬ v.IsMissing := by
  rw [coerceNonNegative, ← Value.toFloat_eq_tooLarge_iff]
  cases hfloat : v.toFloat with
  | ok x =>
      rw [← Value.isNaN_of_toFloat hfloat, ← isLifetime_ite_iff]
      constructor
      · rintro ⟨kept, hkept, hlifetime⟩
        cases hkept
        exact ⟨nofun, hlifetime⟩
      · rintro ⟨-, hlifetime⟩
        exact ⟨_, rfl, hlifetime⟩
  | error e =>
      have hmissing : ¬ v.IsMissing := by
        intro hmissing
        obtain ⟨x, hx⟩ := Value.exists_toFloat_of_isMissing hmissing
        rw [hfloat] at hx
        cases hx
      cases e with
      | tooLarge => exact iff_of_false (by rintro ⟨kept, hkept, -⟩; cases hkept) fun h => h.1 rfl
      | tooLong | notAnInteger | notAFloat | notNumeric =>
          exact iff_of_true ⟨.int 0, rfl, Value.isLifetime_zero⟩ ⟨nofun, hmissing⟩

/-! ## Configurations -/

namespace Config

variable {d : Deployment} {env : Environment} {overrides : Record}

def givenLifetime (d : Deployment) (overrides : Record) : Value :=
  plainSetting (objectIn d.appConfig) overrides "SCHEMA_CACHE_SECONDS" "schema_cache_seconds"

theorem buildIn_of_coerceNonNegative {kept : Value}
    (h : coerceNonNegative ((chosen env (objectIn d.appConfig) (objectIn d.secrets) overrides).get
      "SCHEMA_CACHE_SECONDS") (.int 0) = .ok kept) :
    (buildIn d env overrides).value = .ok (complete
      (chosen env (objectIn d.appConfig) (objectIn d.secrets) overrides) kept).value := by
  rw [chosen] at h
  unfold buildIn
  simp only [value_readObject, h]
  rfl

/-- Where the variables can be read, nothing but the lifetime ends a configuration, and what is kept
of it is set. -/
theorem exists_build_iff (henv : d.environment.value = .ok env) (honce : overrides.NamesOnce)
    {P : Value → Prop} :
    (∃ config, (build d overrides).value = .ok config ∧
        ∃ kept, config.get? "SCHEMA_CACHE_SECONDS" = some kept ∧ P kept) ↔
      ∃ kept, coerceNonNegative (givenLifetime d overrides) (.int 0) = .ok kept ∧ P kept := by
  have hgiven : (chosen env (objectIn d.appConfig) (objectIn d.secrets) overrides).get
      "SCHEMA_CACHE_SECONDS" = givenLifetime d overrides := by
    have hname : ("schema_cache_seconds", "SCHEMA_CACHE_SECONDS") ∈ fileNames := by decide
    rw [Record.get, get?_chosen_plain honce hname]
    rfl
  have hset : ∀ settings lifetime,
      (complete settings lifetime).value.get? "SCHEMA_CACHE_SECONDS" = some lifetime := by
    intro settings lifetime
    rw [get?_complete (by decide)]
    rfl
  have hbuild : (build d overrides).value = (buildIn d env overrides).value := by
    rw [build, Logged.andThen, henv]
  rw [hbuild]
  constructor
  · rintro ⟨_, hconfig, kept, hkept, hP⟩
    obtain ⟨lifetime, hlifetime, rfl⟩ := exists_of_buildIn hconfig
    rw [hset] at hkept
    cases hkept
    rw [hgiven] at hlifetime
    exact ⟨kept, hlifetime, hP⟩
  · rintro ⟨kept, hkept, hP⟩
    rw [← hgiven] at hkept
    exact ⟨_, buildIn_of_coerceNonNegative hkept, kept, hset _ kept, hP⟩

/-- **Lifetimes.** A configuration is built and sets a lifetime, whatever is given for it, exactly
unless that is an integer that is too large for a floating-point number or is taken for the missing
number. -/
theorem setsLifetime_iff (henv : d.environment.value = .ok env) (honce : overrides.NamesOnce) :
    (∃ config, (build d overrides).value = .ok config ∧
        ∃ kept, config.get? "SCHEMA_CACHE_SECONDS" = some kept ∧ kept.IsLifetime) ↔
      ¬ (givenLifetime d overrides).IsTooLarge ∧ ¬ (givenLifetime d overrides).IsMissing :=
  (exists_build_iff henv honce).trans exists_coerceNonNegative_iff

def listingDeployment : Deployment where
  appConfig := some (asciiBytes "\x7b\"schema_cache_seconds\": NaN\x7d")

/-- A caller's text comes before the number in the file. -/
theorem setsLifetime_iff_listingDeployment :
    let overrides : Record := [("SCHEMA_CACHE_SECONDS", .text " 1_0.5 ")]
    listingDeployment.environment.value = .ok [] ∧ overrides.NamesOnce ∧
      ∃ config, (build listingDeployment overrides).value = .ok config ∧
        ∃ kept, config.get? "SCHEMA_CACHE_SECONDS" = some kept ∧ kept.IsLifetime := by
  intro overrides
  have henv : listingDeployment.environment.value = .ok [] := rfl
  have honce : overrides.NamesOnce := by decide
  have hgiven : ¬ (givenLifetime listingDeployment overrides).IsTooLarge ∧
      ¬ (givenLifetime listingDeployment overrides).IsMissing := by
    decide +kernel
  exact ⟨henv, honce, (setsLifetime_iff henv honce).mpr hgiven⟩

/-- Not everything that is given ends in a lifetime: a file may hold the missing number. -/
theorem not_setsLifetime :
    ¬ ∀ (d : Deployment) (env : Environment) (overrides : Record),
      d.environment.value = .ok env → overrides.NamesOnce →
        ∃ config, (build d overrides).value = .ok config ∧
          ∃ kept, config.get? "SCHEMA_CACHE_SECONDS" = some kept ∧ kept.IsLifetime := by
  intro hall
  have honce : Record.NamesOnce [] := List.nodup_nil
  have hkept := (exists_build_iff rfl honce).mp (hall listingDeployment [] [] rfl honce)
  exact (exists_coerceNonNegative_iff.mp hkept).2 (by decide +kernel)

end Config

end TableGateway
