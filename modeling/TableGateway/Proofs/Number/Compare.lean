import TableGateway.Number.Compare

namespace TableGateway.Number

open Float.Model

theorem unpack_zero : (0 : Float).toModel.unpack = .zero .positive := rfl

/-- No number, infinities and NaN included, is both above zero and not above it. -/
theorem not_le_zero_of_pos {x : Float} (h : 0 < x) : ¬ x ≤ 0 := by
  intro hle
  have hbelow : UnpackedFloat.lt (0 : Float).toModel.unpack x.toModel.unpack = true :=
    of_decide_eq_true h
  have habove : UnpackedFloat.le x.toModel.unpack (0 : Float).toModel.unpack = true :=
    of_decide_eq_true hle
  rw [unpack_zero] at hbelow habove
  generalize x.toModel.unpack = unpacked at hbelow habove
  -- Against zero only the sign of an infinite or finite number counts.
  cases unpacked with
  | notANumber => cases hbelow
  | zero sign => cases hbelow
  | infinity sign | finite sign =>
      cases sign with
      | negative => cases hbelow
      | positive => cases habove

/-- A number is at least zero exactly if it is not below zero and not the missing number. -/
theorem zero_le_iff {x : Float} : 0 ≤ x ↔ ¬ x < 0 ∧ x.isNaN = false := by
  have hbelow : x < 0 ↔ UnpackedFloat.lt x.toModel.unpack (.zero .positive) = true :=
    decide_eq_true_iff
  have habove : 0 ≤ x ↔ UnpackedFloat.le (.zero .positive) x.toModel.unpack = true :=
    decide_eq_true_iff
  have hnan : x.isNaN = x.toModel.unpack.isNaN := rfl
  rw [hbelow, habove, hnan]
  generalize x.toModel.unpack = unpacked
  cases unpacked with
  | notANumber => decide
  | zero sign => exact iff_of_true rfl ⟨nofun, rfl⟩
  | infinity sign | finite sign =>
      cases sign with
      | negative => exact iff_of_false nofun fun h => h.1 rfl
      | positive => exact iff_of_true rfl ⟨nofun, rfl⟩

/-- The missing number is not below zero. -/
theorem not_lt_zero_of_isNaN {x : Float} (h : x.isNaN = true) : ¬ x < 0 := by
  intro hbelow
  have hlt : UnpackedFloat.lt x.toModel.unpack (.zero .positive) = true :=
    of_decide_eq_true hbelow
  change x.toModel.unpack.isNaN = true at h
  generalize x.toModel.unpack = unpacked at h hlt
  cases unpacked with
  | notANumber => cases hlt
  | zero | infinity | finite => cases h

end TableGateway.Number
