import Mathlib.Tactic.IntervalCases
import TableGateway.Text.Utf8

namespace TableGateway.Text.Utf8

variable {n : Nat} {b₀ b₁ b₂ b₃ low high : UInt8} {bits : Nat}

def continuation (m : Nat) : UInt8 :=
  UInt8.ofNat (m % 0x40 + 0x80)

theorem toNat_continuation (m : Nat) : (continuation m).toNat = m % 64 + 0x80 :=
  UInt8.toNat_ofNat_of_lt' (by change m % 64 + 0x80 < 256; omega)

theorem continuation_mem_iff (m : Nat) :
    low ≤ continuation m ∧ continuation m ≤ high ↔
      low.toNat ≤ m % 64 + 0x80 ∧ m % 64 + 0x80 ≤ high.toNat := by
  rw [UInt8.le_iff_toNat_le, UInt8.le_iff_toNat_le, toNat_continuation]

theorem continuation_mem (m : Nat) : 0x80 ≤ continuation m ∧ continuation m ≤ 0xbf := by
  rw [continuation_mem_iff]
  change 0x80 ≤ _ ∧ _ ≤ 0xbf
  omega

theorem isContinuation_continuation (m : Nat) : isContinuation (continuation m) := by
  simpa [isContinuation] using continuation_mem m

theorem extend_continuation (bits m : Nat) :
    extend bits (continuation m) = bits * 64 + m % 64 :=
  calc
    extend bits (continuation m) = bits * 64 + ((continuation m).toNat - 0x80) := rfl
    _ = bits * 64 + m % 64 := by rw [toNat_continuation, Nat.add_sub_cancel]

theorem lead?_one (h : n < 0x80) : lead? (UInt8.ofNat n) = some ⟨0, 0, 0, n⟩ := by
  have hn : (UInt8.ofNat n).toNat = n := UInt8.toNat_ofNat_of_lt' (by change n < 256; omega)
  have hlt : UInt8.ofNat n < 0x80 := by rwa [UInt8.lt_iff_toNat_lt, hn]
  rw [lead?, if_pos hlt, hn]

theorem lead?_two (hlow : 0xc2 ≤ n) (hhigh : n < 0xe0) :
    lead? (UInt8.ofNat n) = some ⟨1, 0x80, 0xbf, n - 0xc0⟩ := by
  interval_cases n <;> rfl

/-- Of three bytes, the second is bounded where fewer would do and where surrogates are. -/
theorem lead?_three (hlow : 0xe0 ≤ n) (hhigh : n < 0xf0) :
    ∃ low high, lead? (UInt8.ofNat n) = some ⟨2, low, high, n - 0xe0⟩ ∧
      ∀ m, (n = 0xe0 → 0x20 ≤ m % 64) → (n = 0xed → m % 64 < 0x20) →
        low ≤ continuation m ∧ continuation m ≤ high := by
  refine ⟨if n = 0xe0 then 0xa0 else 0x80, if n = 0xed then 0x9f else 0xbf, ?_, ?_⟩
  · interval_cases n <;> rfl
  · intro m hshort hsurrogate
    rw [continuation_mem_iff, apply_ite UInt8.toNat, apply_ite UInt8.toNat]
    change (if _ then 0xa0 else 0x80) ≤ _ ∧ _ ≤ (if _ then 0x9f else 0xbf)
    split_ifs <;> omega

/-- Of four bytes, the second is bounded where fewer would do and where code points end. -/
theorem lead?_four (hlow : 0xf0 ≤ n) (hhigh : n < 0xf5) :
    ∃ low high, lead? (UInt8.ofNat n) = some ⟨3, low, high, n - 0xf0⟩ ∧
      ∀ m, (n = 0xf0 → 0x10 ≤ m % 64) → (n = 0xf4 → m % 64 < 0x10) →
        low ≤ continuation m ∧ continuation m ≤ high := by
  refine ⟨if n = 0xf0 then 0x90 else 0x80, if n = 0xf4 then 0x8f else 0xbf, ?_, ?_⟩
  · interval_cases n <;> rfl
  · intro m hshort hend
    rw [continuation_mem_iff, apply_ite UInt8.toNat, apply_ite UInt8.toNat]
    change (if _ then 0x90 else 0x80) ≤ _ ∧ _ ≤ (if _ then 0x8f else 0xbf)
    split_ifs <;> omega

theorem units_one (hlead : lead? b₀ = some ⟨0, low, high, bits⟩) (rest : List UInt8) :
    units (b₀ :: rest) = .ok (Char.ofNat bits) :: units rest := by
  rw [units, hlead]

theorem units_two (hlead : lead? b₀ = some ⟨1, low, high, bits⟩) (h : low ≤ b₁ ∧ b₁ ≤ high)
    (rest : List UInt8) :
    units (b₀ :: b₁ :: rest) = .ok (Char.ofNat (extend bits b₁)) :: units rest := by
  rw [units, hlead]
  simp only [if_pos h]

theorem units_three (hlead : lead? b₀ = some ⟨2, low, high, bits⟩) (h : low ≤ b₁ ∧ b₁ ≤ high)
    (h₂ : isContinuation b₂) (rest : List UInt8) :
    units (b₀ :: b₁ :: b₂ :: rest) =
      .ok (Char.ofNat (extend (extend bits b₁) b₂)) :: units rest := by
  rw [units, hlead]
  simp only [if_pos h, if_pos h₂]

theorem units_four (hlead : lead? b₀ = some ⟨3, low, high, bits⟩) (h : low ≤ b₁ ∧ b₁ ≤ high)
    (h₂ : isContinuation b₂) (h₃ : isContinuation b₃) (rest : List UInt8) :
    units (b₀ :: b₁ :: b₂ :: b₃ :: rest) =
      .ok (Char.ofNat (extend (extend (extend bits b₁) b₂) b₃)) :: units rest := by
  rw [units, hlead]
  simp only [if_pos h, if_pos h₂, if_pos h₃]

/-- The bytes of a character are read as that character, whatever follows them. -/
theorem units_utf8EncodeChar (c : Char) (rest : List UInt8) :
    units (String.utf8EncodeChar c ++ rest) = .ok c :: units rest := by
  have hchar : Char.ofNat c.val.toNat = c := Char.ofNat_toNat c
  have hvalid : c.val.toNat < 0xd800 ∨ 0xdfff < c.val.toNat ∧ c.val.toNat < 0x110000 := c.valid
  unfold String.utf8EncodeChar
  generalize c.val.toNat = v at hchar hvalid ⊢
  dsimp only
  -- One case for each number of bytes. In each the bits of the code point are put together again.
  split_ifs with h₁ h₂ h₃
  · rw [List.singleton_append, units_one (lead?_one (by omega)), hchar]
  · have hlead := lead?_two (n := v / 64 % 0x20 + 0xc0) (by omega) (by omega)
    have hvalue : (v / 64 % 0x20 + 0xc0 - 0xc0) * 64 + v % 64 = v := by omega
    refine (units_two hlead (continuation_mem v) rest).trans ?_
    rw [extend_continuation, hvalue, hchar]
  · obtain ⟨low, high, hlead, hmem⟩ :=
      lead?_three (n := v / 4096 % 0x10 + 0xe0) (by omega) (by omega)
    have hsecond := hmem (v / 64) (by omega) (by omega)
    have hvalue : ((v / 4096 % 0x10 + 0xe0 - 0xe0) * 64 + v / 64 % 64) * 64 + v % 64 = v := by
      omega
    refine (units_three hlead hsecond (isContinuation_continuation v) rest).trans ?_
    rw [extend_continuation, extend_continuation, hvalue, hchar]
  · obtain ⟨low, high, hlead, hmem⟩ :=
      lead?_four (n := v / 262144 % 0x08 + 0xf0) (by omega) (by omega)
    have hsecond := hmem (v / 4096) (by omega) (by omega)
    have hvalue : (((v / 262144 % 0x08 + 0xf0 - 0xf0) * 64 + v / 4096 % 64) * 64 +
        v / 64 % 64) * 64 + v % 64 = v := by
      omega
    refine (units_four hlead hsecond (isContinuation_continuation (v / 64))
      (isContinuation_continuation v) rest).trans ?_
    rw [extend_continuation, extend_continuation, extend_continuation, hvalue, hchar]

theorem units_encode (text : List Char) : units (encode text) = text.map .ok := by
  induction text with
  | nil => rfl
  | cons c text ih =>
      rw [encode, List.flatMap_cons, units_utf8EncodeChar, List.map_cons]
      exact congrArg (_ :: ·) ih

/-- A lossy reading of the bytes of a text loses nothing. -/
theorem decodeLossy_encode (text : List Char) : decodeLossy (encode text) = text := by
  rw [decodeLossy, units_encode, List.map_map]
  exact List.map_id text

end TableGateway.Text.Utf8
