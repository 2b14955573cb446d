import Mathlib.Data.List.DropRight
import TableGateway.Number.Shortest

namespace TableGateway.Number

/-! ## Powers -/

theorem tenTo_pos (k : Nat) : 0 < tenTo k :=
  Nat.pow_pos (by decide)

theorem tenTo_add (j k : Nat) : tenTo (j + k) = tenTo j * tenTo k :=
  Nat.pow_add 10 j k

theorem twoTo_pos (k : Nat) : 0 < twoTo k :=
  Nat.pow_pos (by decide)

theorem twoTo_le {j k : Nat} (h : j ≤ k) : twoTo j ≤ twoTo k :=
  Nat.pow_le_pow_right (by decide) h

theorem tenTo_le {j k : Nat} (h : j ≤ k) : tenTo j ≤ tenTo k :=
  Nat.pow_le_pow_right (by decide) h

/-- Twenty-three binary places are worth no more than seven decimal ones. -/
theorem twoTo_le_tenTo (k : Nat) : twoTo (23 * k) ≤ tenTo (7 * k) := calc
  2 ^ (23 * k) = (2 ^ 23) ^ k := Nat.pow_mul 2 23 k
  _ ≤ (10 ^ 7) ^ k := Nat.pow_le_pow_left (by decide) k
  _ = 10 ^ (7 * k) := (Nat.pow_mul 10 7 k).symm

/-! ## Intervals -/

/-- The interval of a number other than zero holds the number and not zero, and it is wider than one
unit in the seventeenth place of the number. -/
structure RoundingInterval.IsProper (interval : RoundingInterval) : Prop where
  denominator : 0 < interval.denominator
  below : 0 < interval.below
  lower : interval.below < interval.value
  upper : interval.value < interval.above
  wide : interval.value < (interval.above - interval.below) * tenTo 16

namespace RoundingInterval

variable {interval : RoundingInterval} {n d count : Nat} {magnitude : Int}

theorem holds_of_lt (hlow : interval.below * d < n * interval.denominator)
    (hhigh : n * interval.denominator < interval.above * d) : interval.holds n d := by
  unfold holds
  dsimp only
  split
  · simp [hlow.le, hhigh.le]
  · simp [hlow, hhigh]

theorem le_of_holds (h : interval.holds n d) :
    interval.below * d ≤ n * interval.denominator := by
  unfold holds at h
  dsimp only at h
  split at h
  · exact of_decide_eq_true (Bool.and_eq_true_iff.mp h).1
  · exact (of_decide_eq_true (Bool.and_eq_true_iff.mp h).1).le

/-- What is found lies in the interval. -/
theorem holds_of_decimal? (h : interval.decimal? magnitude count = some n) :
    interval.holds (n * tenTo (magnitude - count).toNat) (tenTo (-(magnitude - count)).toNat) := by
  unfold decimal? at h
  dsimp only at h
  split at h
  · cases h
  · rename_i hlower _
    cases h
    exact hlower
  · rename_i _ hupper
    cases h
    exact hupper
  · rename_i hlower hupper
    split at h
    · cases h
      exact hlower
    · split at h
      · cases h
        exact hupper
      · cases h
        split
        · exact hlower
        · exact hupper

theorem ne_zero_of_decimal? (hproper : interval.IsProper)
    (h : interval.decimal? magnitude count = some n) : n ≠ 0 := by
  rintro rfl
  have hle := le_of_holds (holds_of_decimal? h)
  have hpos := Nat.mul_pos hproper.below (tenTo_pos (-(magnitude - count)).toNat)
  rw [Nat.zero_mul, Nat.zero_mul] at hle
  omega

/-- One of the two decimals around a number lies in its interval, if the unit is no wider than the
interval. -/
theorem holds_or_holds (hproper : interval.IsProper) {up down : Nat} (hup : 0 < up)
    (hdown : 0 < down)
    (hfine : interval.denominator * up * tenTo 16 ≤ interval.value * down) :
    interval.holds (interval.value * down / (interval.denominator * up) * up) down ∨
      interval.holds ((interval.value * down / (interval.denominator * up) + 1) * up) down := by
  generalize hunit : interval.denominator * up = unit at hfine ⊢
  generalize hlower : interval.value * down / unit = lower
  have hpos : 0 < unit := hunit ▸ Nat.mul_pos hproper.denominator hup
  have hscaled : ∀ n, n * up * interval.denominator = n * unit := by
    intro n
    rw [← hunit, Nat.mul_comm interval.denominator, Nat.mul_assoc]
  have hfloor : lower * unit ≤ interval.value * down := hlower ▸ Nat.div_mul_le_self _ _
  have hceil : interval.value * down < (lower + 1) * unit :=
    hlower ▸ Nat.lt_mul_of_div_lt (Nat.lt_succ_self _) hpos
  have hbelow : interval.below * down < interval.value * down :=
    Nat.mul_lt_mul_of_pos_right hproper.lower hdown
  have habove : interval.value * down < interval.above * down :=
    Nat.mul_lt_mul_of_pos_right hproper.upper hdown
  by_contra hnone
  obtain ⟨hno, hnoNext⟩ := not_or.mp hnone
  have hout : lower * unit ≤ interval.below * down := by
    by_contra hin
    refine hno (holds_of_lt ?_ ?_)
    · rw [hscaled]
      omega
    · rw [hscaled]
      omega
  have houtNext : interval.above * down ≤ (lower + 1) * unit := by
    by_contra hin
    refine hnoNext (holds_of_lt ?_ ?_)
    · rw [hscaled]
      omega
    · rw [hscaled]
      omega
  -- The interval lies between two neighbouring decimals, so it is no wider than the unit.
  have hnarrow : (interval.above - interval.below) * down ≤ unit := by
    rw [Nat.sub_mul]
    rw [Nat.add_mul, Nat.one_mul] at houtNext
    omega
  have hwide : interval.value * down < unit * tenTo 16 := calc
    interval.value * down < (interval.above - interval.below) * tenTo 16 * down :=
      Nat.mul_lt_mul_of_pos_right hproper.wide hdown
    _ = (interval.above - interval.below) * down * tenTo 16 := Nat.mul_right_comm _ _ _
    _ ≤ unit * tenTo 16 := Nat.mul_le_mul_right _ hnarrow
  omega

/-- A decimal is found if the unit is no wider than the interval. -/
theorem exists_decimal? (hproper : interval.IsProper)
    (hfine : interval.denominator * tenTo (magnitude - count).toNat * tenTo 16 ≤
      interval.value * tenTo (-(magnitude - count)).toNat) :
    ∃ n, interval.decimal? magnitude count = some n := by
  have hnear := holds_or_holds hproper (tenTo_pos _) (tenTo_pos _) hfine
  unfold decimal?
  dsimp only
  split
  · rename_i hlower hupper
    rw [hlower, hupper] at hnear
    simp at hnear
  · exact ⟨_, rfl⟩
  · exact ⟨_, rfl⟩
  · split
    · exact ⟨_, rfl⟩
    · split
      · exact ⟨_, rfl⟩
      · exact ⟨_, rfl⟩

/-- Seventeen digits make a unit that is no wider than the interval. -/
theorem fine_magnitude (hproper : interval.IsProper)
    (hlarge : interval.denominator ≤ interval.value * tenTo 330) :
    interval.denominator * tenTo (interval.magnitude - 17).toNat * tenTo 16 ≤
      interval.value * tenTo (-(interval.magnitude - 17)).toNat := by
  unfold magnitude
  split
  · rename_i hwhole
    generalize hcount : (Nat.toDigits 10 (interval.value / interval.denominator)).length = count
    have hpos : 0 < count := hcount ▸ Nat.length_toDigits_pos
    have hdigits : tenTo (count - 1) ≤ interval.value / interval.denominator := by
      by_cases hone : count = 1
      · rw [hone]
        exact Nat.div_pos hwhole hproper.denominator
      · have hlong : ¬ (Nat.toDigits 10 (interval.value / interval.denominator)).length ≤
            count - 1 := by
          omega
        have hshort := mt (Nat.length_toDigits_le_iff (by decide) (by omega : 0 < count - 1)).mpr
          hlong
        exact Nat.le_of_not_lt hshort
    have hvalue : tenTo (count - 1) * interval.denominator ≤ interval.value :=
      (Nat.le_div_iff_mul_le hproper.denominator).mp hdigits
    have hup : ((count : Int) - 17).toNat = count - 17 := by omega
    have hdown : (-((count : Int) - 17)).toNat = 17 - count := by omega
    have hplaces : count - 17 + 16 = count - 1 + (17 - count) := by omega
    rw [hup, hdown]
    calc
      interval.denominator * tenTo (count - 17) * tenTo 16
          = interval.denominator * tenTo (count - 17 + 16) := by rw [tenTo_add, Nat.mul_assoc]
      _ = tenTo (count - 1) * interval.denominator * tenTo (17 - count) := by
          rw [hplaces, tenTo_add, ← Nat.mul_assoc, Nat.mul_comm interval.denominator]
      _ ≤ interval.value * tenTo (17 - count) := Nat.mul_le_mul_right _ hvalue
  · split
    · rename_i shift hfound
      have hshift : interval.denominator ≤ interval.value * tenTo (shift + 1) := by
        simpa using List.find?_some hfound
      have hup : (-(shift : Int) - 17).toNat = 0 := by omega
      have hdown : (-(-(shift : Int) - 17)).toNat = shift + 1 + 16 := by omega
      have hone : tenTo 0 = 1 := rfl
      rw [hup, hdown, tenTo_add (shift + 1), ← Nat.mul_assoc, hone, Nat.mul_one]
      exact Nat.mul_le_mul_right _ hshift
    · rename_i hnone
      have hlast := List.find?_eq_none.mp hnone 329 (by simp)
      exact absurd hlarge (by simpa using hlast)

end RoundingInterval

/-! ## Floating-point numbers -/

/-- A number other than zero has a significand of at most fifty-three bits, and an exponent that is
not below that of the least number. -/
theorem BinarySize.bounds_ofFloat {x : Float} (hx : sizeBits x ≠ 0) :
    0 < (BinarySize.ofFloat x).significand ∧ (BinarySize.ofFloat x).significand < twoTo 53 ∧
      -1074 ≤ (BinarySize.ofFloat x).exponent := by
  have hunit : twoTo 52 = 4503599627370496 := rfl
  have hnext : twoTo 53 = 9007199254740992 := rfl
  unfold ofFloat
  dsimp only
  rw [hunit, hnext]
  split
  · omega
  · omega

/-- The half-way points lie two quarters of the last place away, or one below a power of two. -/
theorem RoundingInterval.isProper_of_gap {significand gap scale denominator : Nat} {closed : Bool}
    (hpos : 0 < significand)
    (hgap : gap = 1 ∧ significand = twoTo 52 ∨ gap = 2 ∧ significand < twoTo 53)
    (hscale : 0 < scale) (hdenominator : 0 < denominator) :
    IsProper ⟨(4 * significand - gap) * scale, 4 * significand * scale,
      (4 * significand + 2) * scale, denominator, closed⟩ := by
  have hunit : twoTo 52 = 4503599627370496 := rfl
  have hnext : twoTo 53 = 9007199254740992 := rfl
  have hten : tenTo 16 = 10000000000000000 := rfl
  have hwidth : (4 * significand + 2) * scale - (4 * significand - gap) * scale =
      (gap + 2) * scale := by
    rw [← Nat.sub_mul]
    congr 1
    omega
  have hfits : 4 * significand < (gap + 2) * tenTo 16 := by
    rw [hten]
    rcases hgap with ⟨rfl, hpower⟩ | ⟨rfl, hlt⟩
    · omega
    · omega
  refine ⟨hdenominator, Nat.mul_pos (by omega) hscale,
    Nat.mul_lt_mul_of_pos_right (by omega) hscale, Nat.mul_lt_mul_of_pos_right (by omega) hscale,
    ?_⟩
  dsimp only
  rw [hwidth, Nat.mul_right_comm (gap + 2)]
  exact Nat.mul_lt_mul_of_pos_right hfits hscale

/-- A step between floating-point numbers is wider than a unit in the seventeenth decimal place. -/
theorem RoundingInterval.isProper_ofFloat {x : Float} (hx : sizeBits x ≠ 0) :
    (RoundingInterval.ofFloat x).IsProper := by
  obtain ⟨hpos, hlt, -⟩ := BinarySize.bounds_ofFloat hx
  rcases hsize : BinarySize.ofFloat x with ⟨significand, exponent⟩
  rw [hsize] at hpos hlt
  unfold ofFloat
  rw [hsize]
  refine isProper_of_gap hpos ?_ ?_ ?_
  · split
    · rename_i hpower
      exact Or.inl ⟨rfl, hpower.1⟩
    · exact Or.inr ⟨rfl, hlt⟩
  · split
    · exact twoTo_pos _
    · decide
  · split
    · exact twoTo_pos _
    · decide

/-- Even the least number lies above ten to the power of minus 330. -/
theorem RoundingInterval.denominator_ofFloat_le {x : Float} (hx : sizeBits x ≠ 0) :
    (RoundingInterval.ofFloat x).denominator ≤
      (RoundingInterval.ofFloat x).value * tenTo 330 := by
  obtain ⟨-, -, hleast⟩ := BinarySize.bounds_ofFloat hx
  have hvalue : 1 ≤ (RoundingInterval.ofFloat x).value := by
    have hproper := isProper_ofFloat hx
    have := hproper.lower
    omega
  have hdenominator : (RoundingInterval.ofFloat x).denominator ≤ twoTo (23 * 47) := by
    unfold ofFloat
    rcases hsize : BinarySize.ofFloat x with ⟨significand, exponent⟩
    rw [hsize] at hleast
    dsimp only at hleast ⊢
    split
    · exact twoTo_le (by omega)
    · exact twoTo_pos _
  calc
    (RoundingInterval.ofFloat x).denominator ≤ twoTo (23 * 47) := hdenominator
    _ ≤ tenTo (7 * 47) := twoTo_le_tenTo 47
    _ ≤ tenTo 330 := tenTo_le (by decide)
    _ = 1 * tenTo 330 := (Nat.one_mul _).symm
    _ ≤ (RoundingInterval.ofFloat x).value * tenTo 330 := Nat.mul_le_mul_right _ hvalue

/-! ## Digits -/

/-- There are digits, the first is not zero, and each has one place. -/
structure Digits.IsNormal (d : Digits) : Prop where
  leading : ∃ first rest, d.digits = first :: rest ∧ first ≠ 0
  small : ∀ digit ∈ d.digits, digit < 10

theorem decimalDigits_lt {n digit : Nat} (h : digit ∈ decimalDigits n) : digit < 10 := by
  obtain ⟨c, hc, rfl⟩ := List.mem_map.mp h
  have hdigit := Nat.isDigit_of_mem_toDigits (by decide) (by decide) hc
  have hbounds : 48 ≤ c.toNat ∧ c.toNat ≤ 57 := Char.isDigit_iff_toNat.mp hdigit
  have hzero : '0'.toNat = 48 := rfl
  omega

/-- The digits of a number other than zero begin with one that is not zero. -/
theorem exists_decimalDigits_eq {n : Nat} (h : n ≠ 0) :
    ∃ first rest, decimalDigits n = first :: rest ∧ first ≠ 0 := by
  induction n using Nat.strong_induction_on with
  | _ n ih =>
      unfold decimalDigits at ih ⊢
      by_cases hsmall : n < 10
      · refine ⟨n, [], ?_, h⟩
        rw [Nat.toDigits_of_lt_base hsmall, List.map_singleton,
          Nat.toNat_digitChar_of_lt_ten hsmall]
        simp
      · rw [Nat.toDigits_of_base_le (by decide) (by omega), List.map_append]
        obtain ⟨first, rest, hfront, hfirst⟩ := ih (n / 10) (by omega) (by omega)
        rw [hfront]
        exact ⟨first, _, rfl, hfirst⟩

/-- Seventeen digits always suffice. -/
theorem exists_shortest {x : Float} (hx : sizeBits x ≠ 0) :
    ∃ count n, n ≠ 0 ∧ (List.range 17).findSome? (fun i =>
      ((RoundingInterval.ofFloat x).decimal? (RoundingInterval.ofFloat x).magnitude
        (i + 1)).map fun n => (i + 1, n)) = some (count, n) := by
  have hproper := RoundingInterval.isProper_ofFloat hx
  have hlast : ∃ n, (RoundingInterval.ofFloat x).decimal?
      (RoundingInterval.ofFloat x).magnitude 17 = some n :=
    RoundingInterval.exists_decimal? hproper
      (RoundingInterval.fine_magnitude hproper (RoundingInterval.denominator_ofFloat_le hx))
  generalize RoundingInterval.ofFloat x = interval at hproper hlast ⊢
  cases hfound : (List.range 17).findSome? (fun i =>
      (interval.decimal? interval.magnitude (i + 1)).map fun n => (i + 1, n)) with
  | none =>
      obtain ⟨n, hn⟩ := hlast
      have hmissed := List.findSome?_eq_none_iff.mp hfound 16 (by decide)
      rw [Option.map_eq_none_iff, hn] at hmissed
      cases hmissed
  | some found =>
      obtain ⟨i, -, hi⟩ := List.exists_of_findSome?_eq_some hfound
      obtain ⟨m, hm, rfl⟩ := Option.map_eq_some_iff.mp hi
      exact ⟨_, m, RoundingInterval.ne_zero_of_decimal? hproper hm, rfl⟩

/-- Digits are always found, and the first of them counts. -/
theorem isNormal_shortestDigits {x : Float} (hx : sizeBits x ≠ 0) :
    (shortestDigits x).IsNormal := by
  obtain ⟨count, n, hn, hfound⟩ := exists_shortest hx
  obtain ⟨first, rest, hdigits, hfirst⟩ := exists_decimalDigits_eq hn
  have heq : (shortestDigits x).digits = (decimalDigits n).rdropWhile (· == 0) := by
    unfold shortestDigits
    dsimp only
    rw [hfound]
    rfl
  have hinitial := List.rdropWhile_prefix (· == 0) (decimalDigits n)
  rw [← heq] at hinitial
  constructor
  · cases hkept : (shortestDigits x).digits with
    | nil =>
        rw [heq, List.rdropWhile_eq_nil_iff] at hkept
        have hzero := hkept first (by simp [hdigits])
        exact absurd (beq_iff_eq.mp hzero) hfirst
    | cons digit kept =>
        rw [hkept, hdigits, List.cons_prefix_cons] at hinitial
        exact ⟨digit, kept, rfl, hinitial.1 ▸ hfirst⟩
  · exact fun digit hdigit => decimalDigits_lt (hinitial.subset hdigit)

/-- Only the two zeros have no bit set but perhaps the sign. -/
theorem sizeBits_ne_zero {x : Float} (hx : (x == 0) = false) : sizeBits x ≠ 0 := by
  intro hsize
  have hzero : x.toBits = 0 ∨ x.toBits = 0x8000000000000000 := by
    have hsign : twoTo 63 = 9223372036854775808 := rfl
    have hbound := x.toBits.toNat_lt
    unfold sizeBits at hsize
    rw [hsign] at hsize
    rw [← UInt64.toNat_inj, ← UInt64.toNat_inj]
    simp only [UInt64.reduceToNat]
    omega
  obtain ⟨⟨bits, hvalid⟩⟩ := x
  rcases hzero with h | h
  · obtain rfl : bits = 0 := h
    have heq : (⟨⟨0, hvalid⟩⟩ : Float) = 0 := rfl
    rw [heq] at hx
    exact absurd hx (by decide)
  · obtain rfl : bits = 0x8000000000000000 := h
    have heq : (⟨⟨0x8000000000000000, hvalid⟩⟩ : Float) = -0 := rfl
    rw [heq] at hx
    exact absurd hx (by decide)

end TableGateway.Number
