import Mathlib.Algebra.GroupWithZero.Nat
import TableGateway.Number.Read

/-!
# Rounding to floating-point numbers

A number is rounded to the nearest floating-point number, and what lies too far out becomes
infinite: for an integer, all from the middle between the greatest finite number and the next power
of two on. Nothing that is spelled with digits becomes the missing number.
-/

namespace TableGateway.Number

open Float.Model Float.Model.UnpackedFloat

/-! ## Exponents -/

def maxExponent : Int := 971

def minExponent : Int := -1074

/-- A number that is infinite once it is packed. -/
def IsBeyond : UnpackedFloat → Prop
  | .infinity _ => True
  | .finite _ _ exponent _ => maxExponent < exponent
  | .zero _ => False
  | .notANumber => False

def IsWithin (bound : Int) : UnpackedFloat → Prop
  | .infinity _ => False
  | .finite _ _ exponent _ => exponent ≤ bound
  | .zero _ => True
  | .notANumber => False

variable {u : UnpackedFloat} {bound : Int}

theorem IsWithin.isNaN (h : IsWithin bound u) : u.isNaN = false := by
  cases u with
  | notANumber => exact h.elim
  | infinity | zero | finite => rfl

theorem IsWithin.isInf (h : IsWithin bound u) : u.isInf = false := by
  cases u with
  | infinity => exact h.elim
  | notANumber | zero | finite => rfl

theorem missing_or_beyond_or_within (u : UnpackedFloat) :
    u = .notANumber ∨ IsBeyond u ∨ IsWithin maxExponent u := by
  cases u with
  | notANumber => exact Or.inl rfl
  | infinity sign => exact Or.inr (Or.inl trivial)
  | zero sign => exact Or.inr (Or.inr trivial)
  | finite sign mantissa exponent hpos => exact Or.inr (Int.lt_or_le maxExponent exponent)

theorem IsWithin.not_isBeyond (h : IsWithin maxExponent u) : ¬ IsBeyond u := by
  cases u with
  | notANumber | infinity => exact h.elim
  | zero => exact id
  | finite sign mantissa exponent hpos => exact Int.not_lt.mpr h

/-! ## Unpacking -/

section Unpack

variable {b : BitVec Format.binary64.numBits}

/-- The greatest exponent field stands for what is infinite or missing. -/
theorem isInf_or_isNaN_unpack (h : unpackExponent b = -1#_) :
    (UnpackedFloat.unpack Format.binary64 b).isInf = true ∨
      (UnpackedFloat.unpack Format.binary64 b).isNaN = true := by
  unfold UnpackedFloat.unpack
  dsimp only
  rw [if_pos h]
  split
  · exact Or.inl rfl
  · exact Or.inr rfl

/-- Zero, or a finite number with what a field for the exponent stands for; the least field stands
for the same exponent as the next. -/
def FitsField (field : Nat) : UnpackedFloat → Prop
  | .zero _ => True
  | .finite _ mantissa exponent _ => mantissa < 2 ^ 53 ∧ exponent = max (field : Int) 1 - 1075
  | .infinity _ => False
  | .notANumber => False

/-- Unpacking gives a number the exponent that its field stands for. -/
theorem fitsField_unpack (h : unpackExponent b ≠ -1#_) :
    FitsField (unpackExponent b).toNat (UnpackedFloat.unpack Format.binary64 b) := by
  unfold UnpackedFloat.unpack
  dsimp only
  rw [if_neg h]
  by_cases hzero : unpackExponent b = 0#_
  · rw [if_pos hzero]
    by_cases hmantissa : unpackMantissa b = 0#_
    · rw [dif_pos hmantissa]
      trivial
    · rw [dif_neg hmantissa, hzero]
      exact ⟨Nat.lt_trans (BitVec.isLt _) (by decide), rfl⟩
  · rw [if_neg hzero]
    have hone : 1 ≤ (unpackExponent b).toNat :=
      Nat.pos_of_ne_zero fun hnat => hzero (BitVec.eq_of_toNat_eq hnat)
    have hmax : max ((unpackExponent b).toNat : Int) 1 = (unpackExponent b).toNat := by omega
    refine ⟨BitVec.isLt _, ?_⟩
    rw [hmax]
    rfl

/-- A field that is small enough keeps the number small. -/
theorem isWithin_unpack (hfinite : (unpackExponent b).toNat < 2047) (hlow : minExponent ≤ bound)
    (hbound : ((unpackExponent b).toNat : Int) ≤ bound + 1075) :
    IsWithin bound (UnpackedFloat.unpack Format.binary64 b) := by
  have hexponent : unpackExponent b ≠ -1#_ := by
    intro h
    rw [h] at hfinite
    exact absurd hfinite (by decide)
  have hfits := fitsField_unpack hexponent
  unfold minExponent at hlow
  generalize UnpackedFloat.unpack Format.binary64 b = u at hfits ⊢
  cases u with
  | notANumber | infinity => exact hfits.elim
  | zero => trivial
  | finite sign mantissa exponent hpos =>
      have hvalue := hfits.2
      change exponent ≤ bound
      omega

theorem mantissa_lt_of_unpack {sign : Sign} {mantissa : Nat} {exponent : Int} {hpos : 0 < mantissa}
    (h : UnpackedFloat.unpack Format.binary64 b = .finite sign mantissa exponent hpos) :
    mantissa < 2 ^ 53 := by
  have hexponent : unpackExponent b ≠ -1#_ := by
    intro hspecial
    have hnone := isInf_or_isNaN_unpack hspecial
    rw [h] at hnone
    exact hnone.elim Bool.false_ne_true Bool.false_ne_true
  have hfits := fitsField_unpack hexponent
  rw [h] at hfits
  exact hfits.1

/-- What is unpacked is missing, infinite or finite, with the exponents of its format. -/
theorem unpack_cases (b : BitVec Format.binary64.numBits) :
    ((UnpackedFloat.unpack Format.binary64 b).isInf = true ∨
      (UnpackedFloat.unpack Format.binary64 b).isNaN = true) ∨
        IsWithin maxExponent (UnpackedFloat.unpack Format.binary64 b) := by
  by_cases h : unpackExponent b = -1#_
  · exact Or.inl (isInf_or_isNaN_unpack h)
  · have hne : (unpackExponent b).toNat ≠ 2047 := fun hnat => h (BitVec.eq_of_toNat_eq hnat)
    have hlt : (unpackExponent b).toNat < 2048 := (unpackExponent b).isLt
    refine Or.inr (isWithin_unpack (by omega) (by decide) ?_)
    unfold maxExponent
    omega

end Unpack

/-! ## Packing -/

/-- Fields without the greatest exponent are those of a finite number. -/
theorem isWithin_unpack_packComponents (sign : Sign) {exponent : BitVec 11} (mantissa : BitVec 52)
    (hfinite : exponent.toNat < 2047) (hlow : minExponent ≤ bound)
    (hbound : (exponent.toNat : Int) ≤ bound + 1075) :
    IsWithin bound (UnpackedFloat.unpack Format.binary64
      (packComponents Format.binary64 sign exponent mantissa)) := by
  have hexponent : unpackExponent (packComponents Format.binary64 sign exponent mantissa) =
      exponent := unpackExponent_packComponents
  refine isWithin_unpack ?_ hlow ?_
  · rw [hexponent]
    exact hfinite
  · rw [hexponent]
    exact hbound

/-- Packing and unpacking a finite number does not raise its exponent. -/
theorem isWithin_unpack_pack (h : IsWithin bound u) (hlow : minExponent ≤ bound)
    (hhigh : bound ≤ maxExponent) : IsWithin bound (Float.Model.pack u).unpack := by
  change IsWithin bound (UnpackedFloat.unpack Format.binary64
    (UnpackedFloat.pack Format.binary64 u))
  cases u with
  | notANumber | infinity => exact h.elim
  | zero sign => cases sign <;> trivial
  | finite sign mantissa exponent hpos =>
      have hexponent : exponent ≤ bound := h
      have hbias : (exponent + Format.binary64.exponentBias +
          Format.binary64.mantissaBitsWithoutImplicit).toNat = (exponent + 1075).toNat := by
        change (exponent + 1023 + 52).toNat = _
        rw [Int.add_assoc]
        rfl
      unfold minExponent at hlow
      unfold maxExponent at hhigh
      unfold UnpackedFloat.pack
      dsimp only
      rw [hbias, if_neg (by omega)]
      split
      · have hnat : (BitVec.ofNat 11 (exponent + 1075).toNat).toNat = (exponent + 1075).toNat :=
          Nat.mod_eq_of_lt (by omega)
        exact isWithin_unpack_packComponents sign _ (by omega) hlow (by omega)
      · have hzero : ((0 : BitVec 11).toNat : Int) ≤ bound + 1075 := by
          change (0 : Int) ≤ bound + 1075
          omega
        exact isWithin_unpack_packComponents sign _ (by decide) hlow hzero

theorem isInf_unpack_packedInfinity (sign : Sign) :
    (UnpackedFloat.unpack Format.binary64 (packedInfinity Format.binary64 sign)).isInf = true := by
  cases sign <;> rfl

/-- What is too large for its field is packed as infinity. -/
theorem IsBeyond.isInf_unpack_pack (h : IsBeyond u) : (Float.Model.pack u).unpack.isInf = true := by
  change (UnpackedFloat.unpack Format.binary64 (UnpackedFloat.pack Format.binary64 u)).isInf = true
  cases u with
  | notANumber | zero => exact h.elim
  | infinity sign => exact isInf_unpack_packedInfinity sign
  | finite sign mantissa exponent hpos =>
      have hexponent : maxExponent < exponent := h
      unfold maxExponent at hexponent
      unfold UnpackedFloat.pack
      dsimp only
      rw [if_pos (by change 2 ^ 11 ≤ (exponent + 1023 + 52).toNat + 1; omega)]
      exact isInf_unpack_packedInfinity sign

theorem isInf_unpack_pack_iff : (Float.Model.pack u).unpack.isInf = true ↔ IsBeyond u := by
  rcases missing_or_beyond_or_within u with rfl | h | h
  · exact iff_of_false (by decide) id
  · exact iff_of_true h.isInf_unpack_pack h
  · have hwithin := isWithin_unpack_pack h (by decide) (by decide)
    exact iff_of_false (by rw [hwithin.isInf]; decide) h.not_isBeyond

theorem isNaN_eq_false_of_isInf (h : u.isInf = true) : u.isNaN = false := by
  cases u with
  | infinity sign => rfl
  | notANumber | zero | finite => cases h

theorem IsBeyond.isNaN (h : IsBeyond u) : u.isNaN = false := by
  cases u with
  | notANumber => exact h.elim
  | infinity | zero | finite => rfl

theorem isNaN_unpack_pack (u : UnpackedFloat) :
    (Float.Model.pack u).unpack.isNaN = u.isNaN := by
  rcases missing_or_beyond_or_within u with rfl | h | h
  · rfl
  · rw [isNaN_eq_false_of_isInf h.isInf_unpack_pack, h.isNaN]
  · rw [(isWithin_unpack_pack h (by decide) (by decide)).isNaN, h.isNaN]

/-! ## Rounding -/

section Shift

variable {em : ExtendedMantissa} {mantissa : Nat} {exponent : Int} {accuracy : Accuracy}

theorem mantissa_shiftRight (em : ExtendedMantissa) (amount : Nat) :
    (em >>> amount).mantissa = em.mantissa / 2 ^ amount := by
  induction amount with
  | zero => exact (Nat.div_one _).symm
  | succ amount ih =>
      calc (em >>> (amount + 1)).mantissa = (em >>> amount).mantissa / 2 := rfl
        _ = em.mantissa / 2 ^ (amount + 1) := by rw [ih, Nat.div_div_eq_div_mul, Nat.pow_succ]

theorem mantissa_ofMantissaAndAccuracy (mantissa : Nat) (accuracy : Accuracy) :
    (ExtendedMantissa.ofMantissaAndAccuracy mantissa accuracy).mantissa = mantissa := by
  cases accuracy with
  | exact => rfl
  | inexact order => cases order <;> rfl

theorem roundedMantissa_bounds (em : ExtendedMantissa) :
    em.mantissa ≤ em.roundedMantissa ∧ em.roundedMantissa ≤ em.mantissa + 1 := by
  obtain ⟨mantissa, roundBit, stickyBit⟩ := em
  cases roundBit <;> cases stickyBit <;>
    simp only [ExtendedMantissa.roundedMantissa, ExtendedMantissa.accuracy,
      Accuracy.roundToNearestEven] <;> omega

/-- The exponent that a number is given for its mantissa to have fifty-three digits, or the least
one. -/
def target (mantissa : Nat) (exponent : Int) : Int :=
  max (mantissa.log2 + 1 + exponent - 53) minExponent

theorem targetExponent_eq (mantissa : Nat) (exponent : Int) :
    Format.binary64.targetExponent (totalExponent mantissa exponent) = target mantissa exponent :=
  rfl

def loss (mantissa : Nat) (exponent : Int) : Nat :=
  (target mantissa exponent - exponent).toNat

theorem shiftToTargetExponent_eq (mantissa : Nat) (exponent : Int) (accuracy : Accuracy) :
    shiftToTargetExponent Format.binary64 mantissa exponent accuracy =
      (ExtendedMantissa.ofMantissaAndAccuracy mantissa accuracy >>> loss mantissa exponent,
        exponent + loss mantissa exponent) :=
  rfl

theorem minExponent_le_add_loss (mantissa : Nat) (exponent : Int) :
    minExponent ≤ exponent + loss mantissa exponent := by
  unfold loss target
  omega

theorem loss_of_lt (hmantissa : mantissa < 2 ^ 53) (hexponent : minExponent ≤ exponent) :
    loss mantissa exponent = 0 := by
  have hlog : mantissa.log2 ≤ 52 := by
    by_cases hzero : mantissa = 0
    · subst hzero
      decide
    · exact Nat.le_of_lt_succ ((Nat.log2_lt hzero).mpr hmantissa)
  unfold loss target
  omega

theorem loss_two_pow (hexponent : minExponent ≤ exponent) : loss (2 ^ 53) exponent = 1 := by
  have hlog : (2 ^ 53 : Nat).log2 = 53 := Nat.log2_two_pow
  unfold loss target
  unfold minExponent at *
  omega

def rounded (mantissa : Nat) (exponent : Int) (accuracy : Accuracy) : Nat :=
  (ExtendedMantissa.ofMantissaAndAccuracy mantissa accuracy >>>
    loss mantissa exponent).roundedMantissa

/-- What is kept of a mantissa is never rounded down, and at most up to the next power of two. -/
theorem rounded_bounds (mantissa : Nat) (exponent : Int) (accuracy : Accuracy) :
    mantissa / 2 ^ loss mantissa exponent ≤ rounded mantissa exponent accuracy ∧
      rounded mantissa exponent accuracy ≤ 2 ^ 53 := by
  have hdigits : mantissa.log2 + 1 ≤ 53 + loss mantissa exponent := by
    unfold loss target
    omega
  have hsize : mantissa < 2 ^ 53 * 2 ^ loss mantissa exponent := by
    rw [← Nat.pow_add]
    exact Nat.lt_of_lt_of_le Nat.lt_log2_self (Nat.pow_le_pow_right (by decide) hdigits)
  have hkept : mantissa / 2 ^ loss mantissa exponent < 2 ^ 53 :=
    (Nat.div_lt_iff_lt_mul (Nat.two_pow_pos _)).mpr hsize
  have hstep := roundedMantissa_bounds
    (ExtendedMantissa.ofMantissaAndAccuracy mantissa accuracy >>> loss mantissa exponent)
  rw [mantissa_shiftRight, mantissa_ofMantissaAndAccuracy] at hstep
  exact ⟨hstep.1, Nat.le_trans hstep.2 hkept⟩

/-- A rounded number is zero, or it has the exponent that it was given; the exponent is one more
where rounding made the mantissa too long. -/
theorem roundWithAccuracy_cases (sign : Sign) (mantissa : Nat) (exponent : Int)
    (accuracy : Accuracy) :
    (rounded mantissa exponent accuracy = 0 ∧
      roundWithAccuracy Format.binary64 sign mantissa exponent accuracy = .zero sign) ∨
    ∃ kept hpos, roundWithAccuracy Format.binary64 sign mantissa exponent accuracy =
      .finite sign kept (exponent + loss mantissa exponent +
        if rounded mantissa exponent accuracy = 2 ^ 53 then 1 else 0) hpos := by
  have hlow := minExponent_le_add_loss mantissa exponent
  have hloss : loss (rounded mantissa exponent accuracy) (exponent + loss mantissa exponent) =
      if rounded mantissa exponent accuracy = 2 ^ 53 then 1 else 0 := by
    split
    · rename_i hlong
      rw [hlong, loss_two_pow hlow]
    · rename_i hlong
      exact loss_of_lt (Nat.lt_of_le_of_ne (rounded_bounds _ _ _).2 hlong) hlow
  rw [roundWithAccuracy, shiftToTargetExponent_eq]
  dsimp only
  -- What was rounded is shifted once more, for the case that the mantissa became too long.
  rw [← rounded, shiftToTargetExponent_eq, hloss]
  generalize rounded mantissa exponent accuracy = kept
  dsimp only
  by_cases hlong : kept = 2 ^ 53
  · subst hlong
    exact Or.inr ⟨2 ^ 52, by decide, rfl⟩
  · rw [if_neg hlong, if_neg hlong]
    by_cases hzero : kept = 0
    · subst hzero
      exact Or.inl ⟨rfl, rfl⟩
    · exact Or.inr ⟨kept, Nat.pos_of_ne_zero hzero, dif_neg hzero⟩

theorem isNaN_roundWithAccuracy (sign : Sign) (mantissa : Nat) (exponent : Int)
    (accuracy : Accuracy) :
    (roundWithAccuracy Format.binary64 sign mantissa exponent accuracy).isNaN = false := by
  rcases roundWithAccuracy_cases sign mantissa exponent accuracy with ⟨-, h⟩ | ⟨kept, hpos, h⟩ <;>
    rw [h] <;> rfl

/-- A mantissa that is too long by some digits raises the exponent by one more at most. -/
theorem isWithin_roundWithAccuracy (excess : Nat) (sign : Sign) (accuracy : Accuracy)
    (hmantissa : mantissa < 2 ^ (53 + excess)) (hlow : minExponent < bound)
    (hbound : exponent + excess < bound) :
    IsWithin bound (roundWithAccuracy Format.binary64 sign mantissa exponent accuracy) := by
  have hlog : mantissa.log2 ≤ 52 + excess := by
    by_cases hzero : mantissa = 0
    · subst hzero
      exact Nat.zero_le _
    · have hlt := (Nat.log2_lt hzero).mpr hmantissa
      omega
  have hloss : exponent + loss mantissa exponent < bound := by
    unfold loss target
    omega
  rcases roundWithAccuracy_cases sign mantissa exponent accuracy with ⟨-, h⟩ | ⟨kept, hpos, h⟩ <;>
    rw [h]
  · trivial
  · change _ ≤ bound
    split <;> omega

end Shift

/-! ## Small integers -/

theorem isWithin_round {n : Nat} (excess : Nat) (sign : Sign) (h : n < 2 ^ (53 + excess))
    (hlow : minExponent < bound) (hbound : excess < bound) :
    IsWithin bound (UnpackedFloat.round Format.binary64 sign n 0) := by
  rw [UnpackedFloat.round, decreaseExponent, targetExponent_eq]
  generalize hshift : ((0 : Int) - target n 0).toNat = shift
  refine isWithin_roundWithAccuracy (excess + shift) sign .exact ?_ hlow (by omega)
  rw [Nat.shiftLeft_eq, ← Nat.add_assoc, Nat.pow_add]
  exact Nat.mul_lt_mul_of_pos_right h (Nat.two_pow_pos shift)

theorem isWithin_toFloat (w : UInt64) : IsWithin 12 w.toFloat.toModel.unpack := by
  refine isWithin_unpack_pack ?_ (by decide) (by decide)
  change IsWithin 12 (UnpackedFloat.normalize Format.binary64 w.toNat 0 .positive)
  rw [UnpackedFloat.normalize]
  split
  · exact isWithin_round 11 _ (by have := w.toNat_lt; omega) (by decide) (by decide)
  · trivial
  · exact isWithin_round 11 _ w.toNat_lt (by decide) (by decide)

theorem isWithin_mul_one {x one : Float} (hx : IsWithin 12 x.toModel.unpack)
    (hone : one.toModel.unpack = .finite .positive (2 ^ 52) (-52) (by decide)) :
    IsWithin 13 (mul Format.binary64 x.toModel.unpack one.toModel.unpack) := by
  rw [hone]
  cases hunpacked : x.toModel.unpack with
  | notANumber | infinity => rw [hunpacked] at hx; exact hx.elim
  | zero sign => trivial
  | finite sign mantissa exponent hpos =>
      rw [hunpacked] at hx
      have hexponent : exponent ≤ 12 := hx
      have hmantissa : mantissa < 2 ^ 53 := mantissa_lt_of_unpack hunpacked
      refine isWithin_roundWithAccuracy 52 _ .exact ?_ (by decide) (by omega)
      rw [Nat.pow_add]
      exact Nat.mul_lt_mul_of_pos_right hmantissa (by decide)

/-- No integer of fifty-three binary digits is too large. -/
theorem isInf_ofNat_of_lt {n : Nat} (h : n < 2 ^ 53) : (Float.ofNat n).isInf = false := by
  have hproduct : Float.ofNat n =
      n.toUInt64.toFloat * Float.exactlyRepresentablePowersOfTen[0] := by
    change Float.ofScientific n false 0 = _
    rw [Float.ofScientific, dif_pos ⟨h, by decide⟩]
    rfl
  rw [hproduct]
  have hone : Float.exactlyRepresentablePowersOfTen[0].toModel.unpack =
      .finite .positive (2 ^ 52) (-52) (by decide) := rfl
  have hwithin := isWithin_mul_one (isWithin_toFloat n.toUInt64) hone
  exact (isWithin_unpack_pack hwithin (by decide) (by decide)).isInf

/-! ## Great integers -/

theorem le_mul_two_pow (n k : Nat) : n ≤ n * 2 ^ k :=
  Nat.le_mul_of_pos_right n (Nat.two_pow_pos k)

theorem log2_mul_two_pow {n : Nat} (hn : n ≠ 0) (k : Nat) : (n * 2 ^ k).log2 = n.log2 + k := by
  have hk := Nat.two_pow_pos k
  rw [Nat.log2_eq_iff (Nat.mul_ne_zero hn (Nat.ne_of_gt hk)), Nat.add_right_comm, Nat.pow_add,
    Nat.pow_add]
  exact ⟨Nat.mul_le_mul_right _ (Nat.log2_self_le hn),
    Nat.mul_lt_mul_of_pos_right Nat.lt_log2_self hk⟩

theorem ofScientific_zero {n : Nat} (hn : n ≠ 0) :
    UnpackedFloat.ofScientific Format.binary64 n 0 =
      roundWithAccuracy Format.binary64 .positive (n * 2 ^ 53) (-53) .exact := by
  have hlow : ¬ (0 : Int) < -((2 ^ 11 : Int) + n.log2) := by omega
  rw [UnpackedFloat.ofScientific, dif_neg hn, if_neg (by decide), if_neg hlow,
    if_pos (Int.le_refl 0)]
  rw [← Nat.shiftLeft_eq, ← Nat.mul_one (n <<< 53)]
  rfl

/-- A mantissa of fifty-four digits is rounded up to a power of two only if all of them are one. -/
theorem roundedMantissa_shiftRightOne_eq_iff {em : ExtendedMantissa} (h : em.mantissa < 2 ^ 54) :
    em.shiftRightOne.roundedMantissa = 2 ^ 53 ↔ 2 ^ 54 - 1 ≤ em.mantissa := by
  obtain ⟨mantissa, roundBit, stickyBit⟩ := em
  have hparity := Nat.mod_two_eq_zero_or_one mantissa
  dsimp only [ExtendedMantissa.shiftRightOne] at h ⊢
  rcases hparity with heven | hodd
  · rw [heven]
    cases hsticky : roundBit || stickyBit <;>
      simp only [ExtendedMantissa.roundedMantissa, ExtendedMantissa.accuracy,
        Accuracy.roundToNearestEven, bne_self_eq_false] <;> omega
  · rw [hodd]
    have hbit : ((1 : Nat) != 0) = true := rfl
    cases hsticky : roundBit || stickyBit <;>
      simp only [ExtendedMantissa.roundedMantissa, ExtendedMantissa.accuracy,
        Accuracy.roundToNearestEven, hbit] <;> omega

/-- The least integer that is rounded to infinity: it lies in the middle between the greatest finite
number and the next power of two. -/
def leastInfinite : Nat := (2 ^ 54 - 1) * 2 ^ 970

section Great

variable {n : Nat} (hn : 2 ^ 53 ≤ n)

include hn

theorem loss_great : loss (n * 2 ^ 53) (-53) = n.log2 + 1 := by
  have hne : n ≠ 0 := by omega
  have hlog : (n * 2 ^ 53).log2 = n.log2 + 53 := log2_mul_two_pow hne 53
  have hdigits : 53 ≤ n.log2 := (Nat.le_log2 hne).mpr hn
  unfold loss target minExponent
  omega

/-- A mantissa is rounded up to the next power of two exactly from the middle of its last step. -/
theorem rounded_great_eq_iff :
    rounded (n * 2 ^ 53) (-53) .exact = 2 ^ 53 ↔ (2 ^ 54 - 1) * 2 ^ n.log2 ≤ n * 2 ^ 53 := by
  have hsize : n * 2 ^ 53 < 2 ^ 54 * 2 ^ n.log2 := by
    calc n * 2 ^ 53 < 2 ^ (n.log2 + 1) * 2 ^ 53 :=
          Nat.mul_lt_mul_of_pos_right Nat.lt_log2_self (by decide)
      _ = 2 ^ 54 * 2 ^ n.log2 := by rw [Nat.pow_succ]; omega
  let em := ExtendedMantissa.ofMantissaAndAccuracy (n * 2 ^ 53) .exact >>> n.log2
  have hem : em.mantissa = n * 2 ^ 53 / 2 ^ n.log2 := mantissa_shiftRight _ n.log2
  have hrounded : rounded (n * 2 ^ 53) (-53) .exact = em.shiftRightOne.roundedMantissa := by
    rw [rounded, loss_great hn]
    rfl
  have hlt : em.mantissa < 2 ^ 54 :=
    hem ▸ (Nat.div_lt_iff_lt_mul (Nat.two_pow_pos _)).mpr hsize
  rw [hrounded, roundedMantissa_shiftRightOne_eq_iff hlt, hem,
    Nat.le_div_iff_mul_le (Nat.two_pow_pos _)]

theorem rounded_great_pos : 0 < rounded (n * 2 ^ 53) (-53) .exact := by
  have hsize : 2 ^ (n.log2 + 1) ≤ n * 2 ^ 53 := by
    calc 2 ^ (n.log2 + 1) = 2 ^ n.log2 * 2 := Nat.pow_succ _ _
      _ ≤ n * 2 ^ 53 := Nat.mul_le_mul (Nat.log2_self_le (by omega)) (by decide)
  refine Nat.lt_of_lt_of_le ?_ (rounded_bounds _ _ _).1
  rw [loss_great hn]
  exact Nat.div_pos hsize (Nat.two_pow_pos _)

theorem log2_trichotomy (places : Nat) :
    (n.log2 < 53 + places ∧ n < 2 ^ 53 * 2 ^ places) ∨
      (n.log2 = 53 + places ∧ 2 ^ n.log2 = 2 ^ 53 * 2 ^ places) ∨
      (53 + places < n.log2 ∧ 2 ^ 54 * 2 ^ places ≤ n) := by
  have hne : n ≠ 0 := by omega
  rw [← Nat.pow_add, ← Nat.pow_add]
  rcases Nat.lt_trichotomy n.log2 (53 + places) with hlog | hlog | hlog
  · exact Or.inl ⟨hlog, (Nat.log2_lt hne).mp hlog⟩
  · exact Or.inr (Or.inl ⟨hlog, by rw [hlog]⟩)
  · exact Or.inr (Or.inr ⟨hlog, (Nat.le_log2 hne).mp (by omega)⟩)

/-- For an integer that is scaled down first, the same bound holds as for the integer itself. -/
theorem isBeyond_great_iff :
    IsBeyond (roundWithAccuracy Format.binary64 .positive (n * 2 ^ 53) (-53) .exact) ↔
      leastInfinite ≤ n := by
  have hrounded := rounded_great_eq_iff hn
  have hpos := rounded_great_pos hn
  rcases roundWithAccuracy_cases .positive (n * 2 ^ 53) (-53) .exact with ⟨hzero, -⟩ | ⟨kept, _, h⟩
  · omega
  rw [h, loss_great hn]
  change maxExponent < _ ↔ _
  unfold maxExponent leastInfinite
  -- Only between the two powers of two next to the bound does the rounding matter.
  rcases log2_trichotomy hn 970 with ⟨hlog, hbelow⟩ | ⟨hlog, hpow⟩ | ⟨hlog, habove⟩
  · generalize (2 : Nat) ^ 970 = unit at hbelow ⊢
    refine iff_of_false ?_ (by omega)
    split <;> omega
  · rw [hpow] at hrounded
    rw [hlog]
    generalize (2 : Nat) ^ 970 = unit at hrounded ⊢
    split <;> omega
  · generalize (2 : Nat) ^ 970 = unit at habove ⊢
    refine iff_of_true ?_ (by omega)
    split <;> omega

end Great

/-! ## Integers -/

/-- An integer becomes infinite exactly from `leastInfinite` on. -/
theorem isInf_ofNat_iff {n : Nat} : (Float.ofNat n).isInf = true ↔ leastInfinite ≤ n := by
  by_cases hn : n < 2 ^ 53
  · refine iff_of_false (by rw [isInf_ofNat_of_lt hn]; decide) (Nat.not_le.mpr ?_)
    calc n < 2 ^ 53 := hn
      _ ≤ 2 ^ 54 - 1 := by decide
      _ ≤ leastInfinite := le_mul_two_pow _ 970
  · have hslow : Float.ofNat n = .ofModel (.ofScientific n 0) := by
      change Float.ofScientific n false 0 = _
      rw [Float.ofScientific, dif_neg fun h => hn h.1]
      rfl
    have hpacked : (Float.ofModel (.ofScientific n 0)).isInf = true ↔
        (Float.Model.pack (UnpackedFloat.ofScientific Format.binary64 n 0)).unpack.isInf = true :=
      Iff.rfl
    rw [hslow, hpacked, isInf_unpack_pack_iff, ofScientific_zero (by omega),
      isBeyond_great_iff (by omega)]

/-- A change of sign makes nothing infinite. -/
theorem isInf_neg (x : Float) : x.neg.isInf = x.isInf := by
  rw [Bool.eq_iff_iff]
  change (Float.Model.pack x.toModel.unpack.neg).unpack.isInf = true ↔
    x.toModel.unpack.isInf = true
  rw [isInf_unpack_pack_iff]
  have hcases := unpack_cases x.toModel.toBits.toBitVec
  change (x.toModel.unpack.isInf = true ∨ x.toModel.unpack.isNaN = true) ∨
    IsWithin maxExponent x.toModel.unpack at hcases
  cases hunpacked : x.toModel.unpack with
  | notANumber | zero sign => exact iff_of_false id Bool.false_ne_true
  | infinity sign => exact iff_of_true trivial rfl
  | finite sign mantissa exponent hpos =>
      rw [hunpacked] at hcases
      have hwithin : exponent ≤ maxExponent :=
        hcases.resolve_left (not_or.mpr ⟨Bool.false_ne_true, Bool.false_ne_true⟩)
      exact iff_of_false (Int.not_lt.mpr hwithin) Bool.false_ne_true

theorem isNaN_neg (x : Float) : x.neg.isNaN = x.isNaN := by
  change (Float.Model.pack x.toModel.unpack.neg).unpack.isNaN = x.toModel.unpack.isNaN
  rw [isNaN_unpack_pack]
  cases x.toModel.unpack <;> rfl

theorem isInf_ofInt_iff {n : Int} :
    (Float.ofInt n).isInf = true ↔ leastInfinite ≤ n.natAbs := by
  cases n with
  | ofNat n => exact isInf_ofNat_iff
  | negSucc n =>
      change (Float.ofNat (n + 1)).neg.isInf = true ↔ _
      rw [isInf_neg]
      exact isInf_ofNat_iff

/-- **Integers that are too large.** An integer has no floating-point number exactly if it would be
rounded to infinity. -/
theorem ofInt_eq_error_iff {n : Int} {e : Error} :
    ofInt n = .error e ↔ leastInfinite ≤ n.natAbs ∧ e = .tooLarge := by
  rw [← isInf_ofInt_iff, ofInt]
  split
  · rename_i hinf
    simp [hinf, eq_comm]
  · rename_i hinf
    simp [hinf]

/-! ## Digits -/

def isNonzero : UnpackedFloat → Bool
  | .finite .. => true
  | _ => false

theorem isNonzero_powerOfTen : ∀ e : Fin 23,
    isNonzero (Float.exactlyRepresentablePowersOfTen[e]).toModel.unpack = true := by
  decide +kernel

theorem isNaN_mul {u v : UnpackedFloat} (hu : IsWithin bound u) (hv : isNonzero v = true) :
    (UnpackedFloat.mul Format.binary64 u v).isNaN = false := by
  cases v with
  | notANumber | infinity | zero => cases hv
  | finite sign mantissa exponent hpos =>
      cases u with
      | notANumber | infinity => exact hu.elim
      | zero => rfl
      | finite => exact isNaN_roundWithAccuracy _ _ _ _

theorem isNaN_div {u v : UnpackedFloat} (hu : IsWithin bound u) (hv : isNonzero v = true) :
    (UnpackedFloat.div Format.binary64 u v).isNaN = false := by
  cases v with
  | notANumber | infinity | zero => cases hv
  | finite sign mantissa exponent hpos =>
      cases u with
      | notANumber | infinity => exact hu.elim
      | zero => rfl
      | finite => exact isNaN_roundWithAccuracy _ _ _ _

theorem isNaN_ite {p : Prop} [Decidable p] {u v : UnpackedFloat} (hu : u.isNaN = false)
    (hv : v.isNaN = false) : (if p then u else v).isNaN = false := by
  split
  · exact hu
  · exact hv

theorem isNaN_unpacked_ofScientific (m : Nat) (e : Int) :
    (UnpackedFloat.ofScientific Format.binary64 m e).isNaN = false := by
  rw [UnpackedFloat.ofScientific]
  by_cases hzero : m = 0
  · rw [dif_pos hzero]
    rfl
  · rw [dif_neg hzero]
    refine isNaN_ite rfl (isNaN_ite rfl (isNaN_ite ?_ ?_))
    · exact isNaN_roundWithAccuracy _ _ _ _
    · exact isNaN_roundWithAccuracy _ _ _ _

/-- No decimal is read as the missing number. -/
theorem isNaN_ofScientific (m : Nat) (below : Bool) (e : Nat) :
    (Float.ofScientific m below e).isNaN = false := by
  rw [Float.ofScientific]
  split
  · rename_i h
    have hpower := isNonzero_powerOfTen ⟨e, Nat.lt_succ_of_le h.2⟩
    have hsize := isWithin_toFloat m.toUInt64
    split
    · exact (isNaN_unpack_pack _).trans (isNaN_div hsize hpower)
    · exact (isNaN_unpack_pack _).trans (isNaN_mul hsize hpower)
  · exact (isNaN_unpack_pack _).trans (isNaN_unpacked_ofScientific m _)

theorem isNaN_ofInt (n : Int) : (Float.ofInt n).isNaN = false := by
  cases n with
  | ofNat n => exact isNaN_ofScientific n false 0
  | negSucc n => exact (isNaN_neg _).trans (isNaN_ofScientific (n + 1) false 0)

/-- Nothing that is spelled with digits is the missing number. -/
theorem DecimalNumeral.isNaN_toFloat (numeral : DecimalNumeral) :
    numeral.toFloat.isNaN = false := by
  rw [toFloat]
  split
  · exact (isNaN_neg _).trans (isNaN_ofScientific _ _ _)
  · exact isNaN_ofScientific _ _ _

/-! ## Texts -/

open Text

def SpellsMissing (text : List Char) : Prop :=
  lower (String.ofList (takeSign (trimPadding text)).2) = "nan"

instance (text : List Char) : Decidable (SpellsMissing text) :=
  inferInstanceAs (Decidable (_ = _))

/-- A name stands for the missing number or for an infinite one. -/
theorem isNaN_of_readSpecial? {text : List Char} {x : Float} (h : readSpecial? text = some x) :
    x.isNaN = true ↔ lower (String.ofList (takeSign text).2) = "nan" := by
  have hinfinite : ∀ negative : Bool,
      (if negative then -(1.0 / 0.0) else 1.0 / 0.0 : Float).isNaN = false := by
    decide +kernel
  rw [readSpecial?] at h
  dsimp only at h
  split at h
  · rename_i hname
    cases h
    rw [hname, hinfinite]
    decide
  · rename_i hname
    cases h
    rw [hname, hinfinite]
    decide
  · rename_i hname
    cases h
    exact iff_of_true (by decide +kernel) hname
  · cases h

theorem readSpecial?_ne_none {text : List Char}
    (h : lower (String.ofList (takeSign text).2) = "nan") : readSpecial? text ≠ none := by
  rw [readSpecial?]
  generalize takeSign text = parts at h ⊢
  obtain ⟨negative, name⟩ := parts
  dsimp only at h ⊢
  rw [h]
  nofun

/-- Of all that is read from a text only the name of the missing number gives it. -/
theorem isNaN_of_readFloat {s : String} {x : Float} (h : readFloat s = .ok x) :
    x.isNaN = true ↔ SpellsMissing s.toList := by
  rw [readFloat] at h
  split at h
  · rename_i special hspecial
    cases h
    exact isNaN_of_readSpecial? hspecial
  · rename_i hspecial
    have hname : ¬ SpellsMissing s.toList := fun hname => readSpecial?_ne_none hname hspecial
    split at h
    · cases h
      exact iff_of_false (by rw [DecimalNumeral.isNaN_toFloat]; decide) hname
    · cases h

theorem exists_readFloat_of_spellsMissing {s : String} (h : SpellsMissing s.toList) :
    ∃ x, readFloat s = .ok x := by
  obtain ⟨x, hx⟩ := Option.ne_none_iff_exists'.mp (readSpecial?_ne_none h)
  exact ⟨x, by rw [readFloat, hx]⟩

/-- A text is no number for one reason only, which is not its size. -/
theorem readFloat_ne_tooLarge (s : String) : readFloat s ≠ .error .tooLarge := by
  rw [readFloat]
  split
  · nofun
  · split <;> nofun

end TableGateway.Number
