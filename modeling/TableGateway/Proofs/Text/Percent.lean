import TableGateway.Proofs.Text.Utf8
import TableGateway.Text.Percent

namespace TableGateway.Text

theorem hexValue?_capitalHexDigit {n : Nat} (h : n < 16) :
    hexValue? (capitalHexDigit n) = some n := by
  interval_cases n <;> rfl

theorem isAlphanum_capitalHexDigit {n : Nat} (h : n < 16) : (capitalHexDigit n).isAlphanum := by
  interval_cases n <;> rfl

namespace Percent

variable {marks text : List Char} {c : Char}

theorem bytes_cons_of_ne (hc : c ≠ '%') (rest : List Char) :
    bytes (c :: rest) = String.utf8EncodeChar c ++ bytes rest := by
  rw [bytes]
  intro a b after hpercent
  exact absurd hpercent hc

theorem bytes_encodeByte (byte : UInt8) (rest : List Char) :
    bytes (encodeByte byte ++ rest) = byte :: bytes rest := by
  have hbyte : byte.toNat < 256 := byte.toNat_lt
  have hhigh := hexValue?_capitalHexDigit (n := byte.toNat / 16) (by omega)
  have hlow := hexValue?_capitalHexDigit (n := byte.toNat % 16) (by omega)
  have hvalue : UInt8.ofNat (16 * (byte.toNat / 16) + byte.toNat % 16) = byte := by
    rw [Nat.div_add_mod, UInt8.ofNat_toNat]
  simp only [encodeByte, List.cons_append, List.nil_append, bytes, hhigh, hlow, hvalue]

theorem bytes_flatMap_encodeByte (row : List UInt8) (rest : List Char) :
    bytes (row.flatMap encodeByte ++ rest) = row ++ bytes rest := by
  induction row with
  | nil => rfl
  | cons byte row ih =>
      rw [List.flatMap_cons, List.append_assoc, bytes_encodeByte, ih, List.cons_append]

theorem bytes_encodeChar (c : Char) (rest : List Char) :
    bytes (encodeChar c ++ rest) = String.utf8EncodeChar c ++ bytes rest := by
  unfold encodeChar
  split
  · rename_i hplain
    refine bytes_cons_of_ne ?_ rest
    rintro rfl
    exact absurd hplain (by decide)
  · exact bytes_flatMap_encodeByte _ rest

theorem encodeBut_cons (marks : List Char) (c : Char) (text : List Char) :
    encodeBut marks (c :: text) =
      (if c ∈ marks then [c] else encodeChar c) ++ encodeBut marks text := by
  simp [encodeBut]

/-- The bytes of a text that is coded character by character. -/
theorem bytes_flatMap {f : Char → List Char} {g : Char → Char}
    (h : ∀ c ∈ text, ∀ rest, bytes (f c ++ rest) = String.utf8EncodeChar (g c) ++ bytes rest) :
    bytes (text.flatMap f) = Utf8.encode (text.map g) := by
  induction text with
  | nil => rfl
  | cons c text ih =>
      rw [List.flatMap_cons, h c List.mem_cons_self,
        ih fun d hd => h d (List.mem_cons_of_mem c hd)]
      rfl

theorem bytes_encodeBut (hpercent : '%' ∉ marks) (text : List Char) :
    bytes (encodeBut marks text) = Utf8.encode text := by
  refine (bytes_flatMap (g := id) fun c _ rest => ?_).trans (by rw [List.map_id])
  by_cases hc : c ∈ marks
  · rw [if_pos (by simpa using hc)]
    refine bytes_cons_of_ne ?_ rest
    rintro rfl
    exact hpercent hc
  · rw [if_neg (by simpa using hc)]
    exact bytes_encodeChar c rest

theorem bytes_append {plain : List Char} (h : '%' ∉ plain) (rest : List Char) :
    bytes (plain ++ rest) = Utf8.encode plain ++ bytes rest := by
  induction plain with
  | nil => rfl
  | cons c plain ih =>
      obtain ⟨hc, hplain⟩ := not_or.mp (mt List.mem_cons.mpr h)
      rw [List.cons_append, bytes_cons_of_ne (Ne.symm hc), ih hplain, ← List.append_assoc]
      rfl

/-- A text is read back from its coded form, whatever plain text stands in front of it. -/
theorem decode_append_encodeBut {plain : List Char} (h : '%' ∉ plain) (hpercent : '%' ∉ marks)
    (text : List Char) : decode (plain ++ encodeBut marks text) = plain ++ text := by
  have hbytes : bytes (plain ++ encodeBut marks text) = Utf8.encode (plain ++ text) := by
    rw [bytes_append h, bytes_encodeBut hpercent, Utf8.encode, Utf8.encode, Utf8.encode,
      List.flatMap_append]
  rw [decode, hbytes, Utf8.decodeLossy_encode]

theorem decode_encodeBut (hpercent : '%' ∉ marks) (text : List Char) :
    decode (encodeBut marks text) = text :=
  decode_append_encodeBut List.not_mem_nil hpercent text

theorem encodeBut_ne_nil (hpercent : '%' ∉ marks) (htext : text ≠ []) :
    encodeBut marks text ≠ [] := by
  intro hnil
  have hdecode := decode_encodeBut hpercent text
  rw [hnil] at hdecode
  exact htext hdecode.symm

/-- A coded character is itself or begins with a percent sign. -/
theorem head?_encodeChar (c : Char) :
    (encodeChar c).head? = some c ∨ (encodeChar c).head? = some '%' := by
  unfold encodeChar
  split
  · exact Or.inl rfl
  · right
    cases hrow : String.utf8EncodeChar c with
    | nil => exact absurd hrow String.utf8EncodeChar_ne_nil
    | cons byte row => rfl

theorem head?_encodeBut (marks : List Char) (c : Char) (text : List Char) :
    (encodeBut marks (c :: text)).head? = some c ∨
      (encodeBut marks (c :: text)).head? = some '%' := by
  rw [encodeBut_cons, List.head?_append]
  split
  · exact Or.inl rfl
  · rcases head?_encodeChar c with h | h <;> simp [h]

theorem mem_encodeByte {byte : UInt8} (h : c ∈ encodeByte byte) : c = '%' ∨ c.isAlphanum := by
  have hbyte : byte.toNat < 256 := byte.toNat_lt
  simp only [encodeByte, List.mem_cons, List.not_mem_nil, or_false] at h
  rcases h with rfl | rfl | rfl
  · exact Or.inl rfl
  · exact Or.inr (isAlphanum_capitalHexDigit (by omega))
  · exact Or.inr (isAlphanum_capitalHexDigit (by omega))

theorem mem_encodeChar {d : Char} (h : c ∈ encodeChar d) : c = '%' ∨ isUnreserved c := by
  unfold encodeChar at h
  split at h
  · rename_i hplain
    rw [List.mem_singleton.mp h]
    exact Or.inr hplain
  · obtain ⟨byte, -, hmem⟩ := List.mem_flatMap.mp h
    refine (mem_encodeByte hmem).imp_right fun hdigit => ?_
    simp [isUnreserved, hdigit]

theorem mem_encodeBut (h : c ∈ encodeBut marks text) :
    (c ∈ marks ∧ c ∈ text) ∨ c = '%' ∨ isUnreserved c := by
  obtain ⟨d, hd, hmem⟩ := List.mem_flatMap.mp h
  split at hmem
  · rename_i hmark
    rw [List.mem_singleton.mp hmem]
    exact Or.inl ⟨by simpa using hmark, hd⟩
  · exact Or.inr (mem_encodeChar hmem)

/-- A mark that is coded, or does not occur in a text, does not occur in the coded text. -/
theorem notMem_encodeBut (h : ¬ (c ∈ marks ∧ c ∈ text)) (hpercent : c ≠ '%')
    (hcoded : isUnreserved c = false) : c ∉ encodeBut marks text := by
  intro hmem
  rcases mem_encodeBut hmem with hplain | hsign | hfree
  · exact h hplain
  · exact hpercent hsign
  · rw [hcoded] at hfree
    cases hfree

theorem bytes_of_notMem (h : '%' ∉ text) : bytes text = Utf8.encode text := by
  have hplain := bytes_append h []
  rwa [List.append_nil, bytes, List.append_nil] at hplain

theorem decode_of_notMem (h : '%' ∉ text) : decode text = text := by
  rw [decode, bytes_of_notMem h, Utf8.decodeLossy_encode]

def plusForSpace (c : Char) : Char :=
  if c = ' ' then '+' else c

theorem bytes_encodeForm (text : List Char) :
    bytes (encodeForm text) = Utf8.encode (text.map plusForSpace) := by
  refine bytes_flatMap fun c _ rest => ?_
  unfold plusForSpace
  split
  · exact bytes_cons_of_ne (by decide) rest
  · exact bytes_encodeChar c rest

/-- A text that is coded as a form does and read outside of one has plus signs for spaces. -/
theorem decode_encodeForm (text : List Char) :
    decode (encodeForm text) = text.map plusForSpace := by
  rw [decode, bytes_encodeForm, Utf8.decodeLossy_encode]

theorem plusForSpace_eq_self_iff : plusForSpace c = c ↔ c ≠ ' ' := by
  unfold plusForSpace
  split
  · rename_i hspace
    subst hspace
    decide
  · rename_i hspace
    exact iff_of_true rfl hspace

theorem map_plusForSpace_eq_self_iff : text.map plusForSpace = text ↔ ' ' ∉ text := by
  induction text with
  | nil => simp
  | cons c text ih =>
      rw [List.map_cons, List.cons.injEq, ih, plusForSpace_eq_self_iff, List.mem_cons, not_or,
        ne_comm]

theorem notMem_encodeForm (hc : isUnreserved c = false) (hpercent : c ≠ '%') (hplus : c ≠ '+')
    (text : List Char) : c ∉ encodeForm text := by
  intro hmem
  obtain ⟨d, -, hmem⟩ := List.mem_flatMap.mp hmem
  split at hmem
  · exact hplus (List.mem_singleton.mp hmem)
  · rcases mem_encodeChar hmem with h | h
    · exact hpercent h
    · rw [hc] at h
      cases h

end Percent

end TableGateway.Text
