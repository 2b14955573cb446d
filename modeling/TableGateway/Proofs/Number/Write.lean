import TableGateway.Number.Layout
import TableGateway.Proofs.Number.Read

namespace TableGateway.Number

open Text

theorem toList_writeInt (n : Nat) : (writeInt n).toList = Nat.toDigits 10 n := by
  simp [writeInt]

theorem isDigit_of_mem_writeInt {n : Nat} {c : Char} (hc : c ∈ (writeInt n).toList) :
    c.isDigit := by
  rw [toList_writeInt] at hc
  exact Nat.isDigit_of_mem_toDigits (by decide) (by decide) hc

theorem notMem_writeInt {c : Char} (hc : c.isDigit = false) (n : Nat) :
    c ∉ (writeInt n).toList := by
  intro hmem
  rw [isDigit_of_mem_writeInt hmem] at hc
  cases hc

theorem writeInt_natCast_injective {m n : Nat} (h : writeInt m = writeInt n) : m = n := by
  have hdigits := congrArg String.toList h
  rw [toList_writeInt, toList_writeInt] at hdigits
  calc
    m = Nat.ofDigitChars 10 (Nat.toDigits 10 m) 0 := (Nat.ofDigitChars_ten_toDigits).symm
    _ = Nat.ofDigitChars 10 (Nat.toDigits 10 n) 0 := by rw [hdigits]
    _ = n := Nat.ofDigitChars_ten_toDigits

theorem digitValue?_of_isDigit {c : Char} (h : c.isDigit) :
    digitValue? c = some (c.toNat - '0'.toNat) := by
  -- The ten digits of ASCII are those of the first zero in the table.
  obtain ⟨rest, hzeros⟩ : ∃ rest, decimalZeros = 48 :: rest := ⟨_, rfl⟩
  have hlow : 48 ≤ c.toNat ∧ c.toNat ≤ 57 := Char.isDigit_iff_toNat.mp h
  have hfirst : 48 ≤ c.toNat ∧ c.toNat < 48 + 10 := by omega
  rw [digitValue?, hzeros, List.find?_cons_of_pos (by simpa using hfirst)]
  rfl

theorem digitsValue_filterMap {row : List Char} (h : ∀ c ∈ row, c.isDigit) :
    digitsValue (row.filterMap digitValue?) = Nat.ofDigitChars 10 row 0 := by
  have hvalues : row.filterMap digitValue? = row.map fun c => c.toNat - '0'.toNat := by
    induction row with
    | nil => rfl
    | cons c row ih =>
        rw [List.filterMap_cons_some (digitValue?_of_isDigit (h c List.mem_cons_self)),
          ih fun d hd => h d (List.mem_cons_of_mem c hd), List.map_cons]
  rw [hvalues, digitsValue, List.foldl_map]
  rfl

theorem isDigit_of_mem_toDigits {n : Nat} {c : Char} (hc : c ∈ Nat.toDigits 10 n) :
    isDigit c := by
  have hdigit := Nat.isDigit_of_mem_toDigits (by decide) (by decide) hc
  rw [isDigit, digitValue?_of_isDigit hdigit]
  rfl

theorem exists_sign_writeInt (n : Int) :
    ∃ sign ∈ signs, (writeInt n).toList = sign ++ Nat.toDigits 10 n.natAbs := by
  unfold writeInt
  split
  · exact ⟨['-'], by decide, String.toList_ofList⟩
  · exact ⟨[], by decide, String.toList_ofList⟩

/-- A written integer shows its sign, and digits behind it. -/
theorem takeSign_writeInt (n : Int) :
    takeSign (writeInt n).toList = (decide (n < 0), Nat.toDigits 10 n.natAbs) := by
  unfold writeInt
  rw [String.toList_ofList]
  by_cases hn : n < 0
  · rw [if_pos hn, decide_eq_true hn]
    rfl
  · rw [if_neg hn, decide_eq_false hn]
    unfold takeSign
    split
    · rename_i rest hrow
      exact absurd (isDigit_of_mem_toDigits (hrow ▸ List.mem_cons_self)) (by decide)
    · rename_i rest hrow
      exact absurd (isDigit_of_mem_toDigits (hrow ▸ List.mem_cons_self)) (by decide)
    · rfl

theorem signed_natAbs (n : Int) : signed (decide (n < 0)) n.natAbs = n := by
  unfold signed
  split
  · rename_i hn
    simp only [decide_eq_true_eq] at hn
    omega
  · rename_i hn
    simp only [decide_eq_true_eq] at hn
    omega

/-- An integer that is not too long is read as it was written. -/
theorem read?_writeInt {n : Int} (h : (Nat.toDigits 10 n.natAbs).length ≤ maxDigits) :
    read? (writeInt n).toList = .ok (some (.int n)) := by
  have hrow : ∀ c ∈ Nat.toDigits 10 n.natAbs, isDigit c := fun c => isDigit_of_mem_toDigits
  have hne : Nat.toDigits 10 n.natAbs ≠ [] := Nat.toDigits_ne_nil
  have htrim : trim (writeInt n).toList = (writeInt n).toList := by
    obtain ⟨sign, hsign, htext⟩ := exists_sign_writeInt n
    rw [htext]
    simpa using trim_of_spells (List.forall_mem_nil _) (List.forall_mem_nil _) hsign hrow hne
  have hnumeral : IntegerNumeral.read? (writeInt n).toList =
      some ⟨decide (n < 0), (Nat.toDigits 10 n.natAbs).filterMap digitValue?⟩ := by
    rw [IntegerNumeral.read?_eq_some_iff, takeSign_writeInt]
    exact ⟨hne, hrow, rfl⟩
  have hsize : digitsValue ((Nat.toDigits 10 n.natAbs).filterMap digitValue?) = n.natAbs := by
    rw [digitsValue_filterMap fun c => Nat.isDigit_of_mem_toDigits (by decide) (by decide),
      Nat.ofDigitChars_ten_toDigits]
  rw [read?, htrim]
  simp only [hnumeral, IntegerNumeral.value?, length_filterMap_digitValue? hrow, if_pos h,
    IntegerNumeral.value, hsize, signed_natAbs]
  rfl

end TableGateway.Number
