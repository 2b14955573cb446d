import Mathlib.Tactic.IntervalCases
import TableGateway.Json.Read
import TableGateway.Json.Write
import TableGateway.Proofs.Text.CodePoint

namespace TableGateway

namespace Text

theorem hexValue?_hexDigit {n : Nat} (h : n < 16) : hexValue? (hexDigit n) = some n := by
  interval_cases n <;> rfl

end Text

open Text

namespace Json

variable {c : Char} {unit fuel : Nat}

theorem readUnit?_hexPadded (h : unit < 0x10000) (rest : List CodePoint) :
    readUnit? (points (hexPadded 4 unit) ++ rest) = some (unit, rest) := by
  have hdigit : ∀ n, hexValue? (hexDigit (n % 16)) = some (n % 16) :=
    fun n => hexValue?_hexDigit (Nat.mod_lt n (by decide))
  simp only [hexPadded, List.nil_append, List.cons_append, points_cons, points_nil, readUnit?]
  simp [hdigit]
  omega

theorem readUnitEscape?_escapeUnit (h : unit < 0x10000) (rest : List CodePoint) :
    readUnitEscape? (points (escapeUnit unit) ++ rest) = some (unit, rest) :=
  readUnit?_hexPadded h rest

/-- A character that one unit can hold is read from the escape of that unit. -/
theorem readPoint?_unit (h : c.toNat < 0x10000) (rest : List CodePoint) :
    readPoint? (points (hexPadded 4 c.toNat) ++ rest) = some (.char c, rest) := by
  unfold readPoint?
  rw [readUnit?_hexPadded h, Option.bind_eq_bind, Option.bind_some]
  dsimp only
  split
  · rw [isHighUnit_toNat, ofUnit_toNat]
    rfl
  · rw [ofUnit_toNat]

/-- Two units that belong together are read as their character. -/
theorem readPoint?_units {high low : Nat} (hhigh : isHighUnit high) (hlow : isLowUnit low)
    (rest : List CodePoint) :
    readPoint? (points (hexPadded 4 high) ++ (points (escapeUnit low) ++ rest)) =
      some (.char (joinUnits high low), rest) := by
  have hhighLt := (isHighUnit_iff.mp hhigh).2
  have hlowLt := (isLowUnit_iff.mp hlow).2
  unfold readPoint?
  rw [readUnit?_hexPadded (by omega), Option.bind_eq_bind, Option.bind_some]
  dsimp only
  rw [readUnitEscape?_escapeUnit (by omega)]
  dsimp only
  rw [hhigh, hlow]
  rfl

/-- Any other character is read from the escapes of two units. -/
theorem exists_units (h : 0x10000 ≤ c.toNat) : ∃ high low,
    escapePoint c.toNat = escapeUnit high ++ escapeUnit low ∧ isHighUnit high ∧ isLowUnit low ∧
      joinUnits high low = c := by
  have hrange := toNat_lt_or c
  refine ⟨_, _, by rw [escapePoint, if_neg (Nat.not_lt.mpr h)], ?_, ?_, ?_⟩
  · rw [isHighUnit_iff]
    omega
  · rw [isLowUnit_iff]
    omega
  · have hsum : 0x10000 + (0xd800 + (c.toNat - 0x10000) / 0x400 - 0xd800) * 0x400 +
        (0xdc00 + (c.toNat - 0x10000) % 0x400 - 0xdc00) = c.toNat := by
      omega
    rw [joinUnits, hsum, Char.ofNat_toNat]

variable {s : List Char}

theorem readString?_escape {text rest : List CodePoint} {point : CodePoint}
    (h : readEscape? text = some (point, rest)) :
    readString? (fuel + 1) (.char '\\' :: text) =
      (readString? fuel rest).map fun (s, rest) => (point :: s, rest) := by
  rw [readString?, h, Option.bind_eq_bind, Option.bind_some]
  dsimp only
  cases readString? fuel rest <;> rfl

theorem readString?_plain (hlow : ¬c < ' ') (hquote : c ≠ '"') (hback : c ≠ '\\')
    (rest : List CodePoint) :
    readString? (fuel + 1) (.char c :: rest) =
      (readString? fuel rest).map fun (s, rest) => (.char c :: s, rest) := by
  have hpoint : ¬(CodePoint.char c).toNat < ' '.toNat := hlow
  rw [readString?, if_neg hpoint]
  · cases readString? fuel rest <;> rfl
  · simpa using hquote
  · simpa using hback

/-- The escape of a code point is read as one character. -/
theorem readString?_escapePoint (c : Char) (fuel : Nat) (rest : List CodePoint) :
    readString? (fuel + 1) (points (escapePoint c.toNat) ++ rest) =
      (readString? fuel rest).map fun (s, rest) => (.char c :: s, rest) := by
  have hpoint : ∃ text, points (escapePoint c.toNat) ++ rest = .char '\\' :: .char 'u' :: text ∧
      readPoint? text = some (.char c, rest) := by
    by_cases h : c.toNat < 0x10000
    · exact ⟨_, by rw [escapePoint, if_pos h]; rfl, readPoint?_unit h rest⟩
    · obtain ⟨high, low, hescape, hhigh, hlow, rfl⟩ := exists_units (Nat.le_of_not_lt h)
      exact ⟨_, by rw [hescape, points_append, List.append_assoc]; rfl,
        readPoint?_units hhigh hlow rest⟩
  obtain ⟨text, htext, hread⟩ := hpoint
  rw [htext]
  exact readString?_escape hread

/-- However a character is escaped, it is read as itself. -/
theorem readString?_escapeChar (c : Char) (fuel : Nat) (rest : List CodePoint) :
    readString? (fuel + 1) (points (escapeChar c) ++ rest) =
      (readString? fuel rest).map fun (s, rest) => (.char c :: s, rest) := by
  unfold escapeChar
  split_ifs with hquoted hnewline hreturn htab hback hfeed hplain
  · rcases hquoted with rfl | rfl <;> exact readString?_escape rfl
  · exact hnewline ▸ readString?_escape rfl
  · exact hreturn ▸ readString?_escape rfl
  · exact htab ▸ readString?_escape rfl
  · exact hback ▸ readString?_escape rfl
  · exact hfeed ▸ readString?_escape rfl
  · obtain ⟨hquote, hslash⟩ := not_or.mp hquoted
    exact readString?_plain (Char.not_lt.mpr hplain.1) hquote hslash rest
  · exact readString?_escapePoint c fuel rest

/-- A text is read up to its closing quote. -/
theorem readString?_flatMap_escapeChar (h : s.length < fuel) (rest : List CodePoint) :
    readString? fuel (points (s.flatMap escapeChar) ++ .char '"' :: rest) =
      some (points s, rest) := by
  induction s generalizing fuel with
  | nil =>
      obtain ⟨fuel, rfl⟩ := Nat.exists_eq_add_of_lt h
      rfl
  | cons c s ih =>
      obtain ⟨fuel, rfl⟩ := Nat.exists_eq_add_of_lt (Nat.lt_of_le_of_lt (Nat.zero_le _) h)
      rw [Nat.zero_add] at h ⊢
      rw [List.flatMap_cons, points_append, List.append_assoc, readString?_escapeChar,
        ih (Nat.lt_of_succ_lt_succ h)]
      rfl

theorem length_escapeChar_pos (c : Char) : 0 < (escapeChar c).length := by
  unfold escapeChar escapePoint
  split_ifs <;> exact Nat.succ_pos _

theorem length_le_flatMap_escapeChar (s : List Char) :
    s.length ≤ (s.flatMap escapeChar).length := by
  induction s with
  | nil => exact Nat.le_refl 0
  | cons c s ih =>
      have hchar := length_escapeChar_pos c
      rw [List.flatMap_cons, List.length_append, List.length_cons]
      omega

/-- A written text is at least as long as the text, so its length is enough fuel. -/
theorem readString?_writeString (s : String) (rest : List CodePoint) :
    readString? ((points (s.toList.flatMap escapeChar) ++ .char '"' :: rest).length + 1)
      (points (s.toList.flatMap escapeChar) ++ .char '"' :: rest) =
        some (points s.toList, rest) := by
  refine readString?_flatMap_escapeChar ?_ rest
  have hlength := length_le_flatMap_escapeChar s.toList
  rw [List.length_append, length_points]
  omega

end Json

end TableGateway
