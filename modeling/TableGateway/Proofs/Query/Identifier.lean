import TableGateway.Query.Identifier
import TableGateway.Text.Blank

namespace TableGateway

open Text

theorem isNameChar_of_isNameStart {c : Char} (h : isNameStart c) : isNameChar c := by
  simp only [isNameStart, isNameChar, Char.isAlphanum, Bool.or_eq_true] at h ⊢
  exact h.imp_left Or.inl

/-- The name characters lie between the digit zero and the small letter z. -/
theorem toNat_of_isNameChar {c : Char} (h : isNameChar c) : 48 ≤ c.toNat ∧ c.toNat ≤ 122 := by
  have hcases : c.isUpper || c.isLower || c.isDigit || c == '_' := h
  simp only [Bool.or_eq_true] at hcases
  rcases hcases with ((hupper | hlower) | hdigit) | hunderscore
  · obtain ⟨hlow, hhigh⟩ := of_decide_eq_true hupper
    have hlow : 65 ≤ c.toNat := UInt32.le_iff_toNat_le.mp hlow
    have hhigh : c.toNat ≤ 90 := UInt32.le_iff_toNat_le.mp hhigh
    omega
  · obtain ⟨hlow, hhigh⟩ := Bool.and_eq_true_iff.mp hlower
    have hlow : 97 ≤ c.toNat := UInt32.le_iff_toNat_le.mp (of_decide_eq_true hlow)
    have hhigh : c.toNat ≤ 122 := UInt32.le_iff_toNat_le.mp (of_decide_eq_true hhigh)
    omega
  · have hbounds : 48 ≤ c.toNat ∧ c.toNat ≤ 57 := Char.isDigit_iff_toNat.mp hdigit
    omega
  · rw [beq_iff_eq.mp hunderscore]
    decide

theorem ne_of_isNameStart {c m : Char} (h : isNameStart c) (hm : isNameStart m = false) :
    c ≠ m := by
  rintro rfl
  rw [hm] at h
  cases h

theorem isBlank_eq_false_of_isNameChar {c : Char} (h : isNameChar c) : isBlank c = false := by
  have hapart : ∀ range ∈ blankRanges, range.2 < 48 ∨ 122 < range.1 := by decide
  have hbounds := toNat_of_isNameChar h
  rw [isBlank, Ranges.holds, List.any_eq_false]
  intro range hrange
  have hrange := hapart range hrange
  simp only [Bool.and_eq_true, decide_eq_true_eq]
  omega

theorem isNameTail_of_forall {rest : List Char} (h : ∀ c ∈ rest, isNameChar c) :
    isNameTail rest := by
  fun_induction isNameTail rest with
  | case1 | case2 => rfl
  | case3 c rest hline ih =>
      rw [Bool.and_eq_true]
      exact ⟨h c List.mem_cons_self, ih fun d hd => h d (List.mem_cons_of_mem c hd)⟩

/-- The one thing besides a name that an identifier may have at its end is a newline. -/
theorem isNameTail_cases {rest : List Char} (h : isNameTail rest) :
    ∃ name, (∀ d ∈ name, isNameChar d) ∧ (rest = name ∨ rest = name ++ ['\n']) := by
  fun_induction isNameTail rest with
  | case1 => exact ⟨[], by simp, Or.inl rfl⟩
  | case2 => exact ⟨[], by simp, Or.inr rfl⟩
  | case3 c rest _ ih =>
      obtain ⟨hc, hrest⟩ := Bool.and_eq_true_iff.mp h
      obtain ⟨name, hname, heq⟩ := ih hrest
      refine ⟨c :: name, ?_, ?_⟩
      · intro d hd
        rcases List.mem_cons.mp hd with rfl | hd
        · exact hc
        · exact hname d hd
      · exact heq.imp (congrArg (c :: ·)) (congrArg (c :: ·))

/-- An identifier is a name, but for a line end that may follow it. -/
theorem isIdentifier_cases {s : String} (h : isIdentifier s) :
    ∃ c name, isNameStart c ∧ (∀ d ∈ name, isNameChar d) ∧
      (s.toList = c :: name ∨ s.toList = c :: name ++ ['\n']) := by
  unfold isIdentifier at h
  split at h
  · cases h
  · rename_i c rest hs
    obtain ⟨hstart, htail⟩ := Bool.and_eq_true_iff.mp h
    obtain ⟨name, hname, rfl | rfl⟩ := isNameTail_cases htail
    · exact ⟨c, rest, hstart, hname, Or.inl hs⟩
    · exact ⟨c, name, hstart, hname, Or.inr hs⟩

theorem exists_toList_of_isIdentifier {s : String} (h : isIdentifier s) :
    ∃ c rest, s.toList = c :: rest ∧ isNameStart c := by
  obtain ⟨c, name, hstart, -, hs | hs⟩ := isIdentifier_cases h
  · exact ⟨c, name, hs, hstart⟩
  · exact ⟨c, name ++ ['\n'], hs, hstart⟩

theorem isNameChar_or_of_mem_identifier {s : String} (h : isIdentifier s) {c : Char}
    (hc : c ∈ s.toList) : isNameChar c ∨ c = '\n' := by
  obtain ⟨start, name, hstart, hname, hs | hs⟩ := isIdentifier_cases h
  · rw [hs] at hc
    rcases List.mem_cons.mp hc with rfl | hc
    · exact Or.inl (isNameChar_of_isNameStart hstart)
    · exact Or.inl (hname c hc)
  · rw [hs] at hc
    rcases List.mem_append.mp hc with hc | hc
    · rcases List.mem_cons.mp hc with rfl | hc
      · exact Or.inl (isNameChar_of_isNameStart hstart)
      · exact Or.inl (hname c hc)
    · exact Or.inr (List.mem_singleton.mp hc)

/-- No mark of a statement stands in an identifier. -/
theorem notMem_identifier {s : String} (h : isIdentifier s) {c : Char} (hc : isNameChar c = false)
    (hline : c ≠ '\n') : c ∉ s.toList := by
  intro hmem
  rcases isNameChar_or_of_mem_identifier h hmem with hname | rfl
  · rw [hc] at hname
    cases hname
  · exact hline rfl

end TableGateway
