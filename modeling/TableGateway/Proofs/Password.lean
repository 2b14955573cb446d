import TableGateway.Password

namespace TableGateway

namespace Digest

theorem length_bigEndian (width n : Nat) : (bigEndian width n).length = width := by
  induction width generalizing n with
  | zero => rfl
  | succ width ih => simp [bigEndian, ih]

theorem length_sha256 (message : List UInt8) : (sha256 message).length = 32 := by
  simp [sha256, HashState.words, length_bigEndian]

theorem length_keyed (key message : List UInt8) : (keyed key message).length = 32 :=
  length_sha256 _

theorem length_hexText (bytes : List UInt8) : (hexText bytes).length = 2 * bytes.length := by
  have hbyte : ∀ byte : UInt8, (Text.hexPadded 2 byte.toNat).length = 2 := fun _ => rfl
  simp [hexText, List.length_flatMap, hbyte, List.map_const', Nat.mul_comm]

end Digest

def Value.IsWhole (v : Value) : Prop :=
  ∀ text, v ≠ .halved text

namespace Hasher

variable {hasher : Hasher} {v : Value}

theorem hashValue_cases (hasher : Hasher) (v : Value) :
    (∃ text, v = .halved text ∧ hasher.hashValue v = .error (.unencodable text)) ∨
      v.IsWhole ∧ hasher.hashValue v = .ok (hasher.hash v.display) := by
  cases v with
  | halved text => exact Or.inl ⟨text, rfl, rfl⟩
  | _ => exact Or.inr ⟨nofun, rfl⟩

theorem hashValue_eq_ok_iff {digest : String} :
    hasher.hashValue v = .ok digest ↔ v.IsWhole ∧ digest = hasher.hash v.display := by
  rcases hasher.hashValue_cases v with ⟨text, rfl, h⟩ | ⟨hwhole, h⟩
  · rw [h]
    exact iff_of_false nofun fun hwhole => hwhole.1 text rfl
  · rw [h, Except.ok.injEq, eq_comm]
    exact (and_iff_right hwhole).symm

end Hasher

/-- A stored password has sixty-four characters, whatever was given. -/
theorem Hasher.length_hash (hasher : Hasher) (plain : String) :
    (hasher.hash plain).length = 64 := by
  rw [hash, Digest.length_hexText, Digest.length_keyed]

end TableGateway
