import TableGateway.Number.Read
import TableGateway.Proofs.Text.Blank

namespace TableGateway

namespace Text

/-! ## Digits -/

theorem isDigit_iff {c : Char} :
    isDigit c ↔ ∃ start ∈ decimalZeros, start ≤ c.toNat ∧ c.toNat < start + 10 := by
  simp [isDigit, digitValue?, List.find?_isSome]

/-- No digit of any script is a blank. -/
theorem isBlank_eq_false_of_isDigit {c : Char} (h : isDigit c) : isBlank c = false := by
  -- Both tables are closed, so that no row of digits meets a range of blanks is decided.
  have hapart : ∀ start ∈ decimalZeros, ∀ range ∈ blankRanges,
      start + 10 ≤ range.1 ∨ range.2 < start := by
    decide
  obtain ⟨start, hstart, hle, hlt⟩ := isDigit_iff.mp h
  rw [isBlank, Ranges.holds, List.any_eq_false]
  intro range hrange
  have := hapart start hstart range hrange
  simp only [Bool.and_eq_true, decide_eq_true_eq]
  omega

theorem takeDigits_eq (text : List Char) :
    takeDigits text =
      ((text.takeWhile isDigit).filterMap digitValue?, text.dropWhile isDigit) := by
  induction text with
  | nil => rfl
  | cons c rest ih =>
      cases hvalue : digitValue? c with
      | none =>
          have hdigit : isDigit c = false := by simp [isDigit, hvalue]
          simp [takeDigits, hvalue, hdigit]
      | some value =>
          have hdigit : isDigit c = true := by simp [isDigit, hvalue]
          simp [takeDigits, hvalue, hdigit, ih]

theorem length_filterMap_digitValue? {row : List Char} (h : ∀ c ∈ row, isDigit c) :
    (row.filterMap digitValue?).length = row.length := by
  induction row with
  | nil => rfl
  | cons c row ih =>
      obtain ⟨value, hvalue⟩ := Option.isSome_iff_exists.mp (h c (by simp))
      have htail := ih fun d hd => h d (by simp [hd])
      simp [hvalue, htail]

end Text

open Text

namespace Number

/-! ## Signed rows of digits -/

def signs : List (List Char) :=
  [[], ['-'], ['+']]

theorem exists_sign (text : List Char) :
    ∃ sign ∈ signs, text = sign ++ (takeSign text).2 ∧
      (takeSign text).1 = decide (sign = ['-']) := by
  unfold takeSign
  split
  · exact ⟨['-'], by decide, rfl, rfl⟩
  · exact ⟨['+'], by decide, rfl, rfl⟩
  · exact ⟨[], by decide, rfl, rfl⟩

/-- A sign is taken for itself, since no digit looks like one. -/
theorem takeSign_append {sign row : List Char} (hsign : sign ∈ signs)
    (hrow : ∀ c ∈ row, isDigit c) : takeSign (sign ++ row) = (decide (sign = ['-']), row) := by
  simp only [signs, List.mem_cons, List.not_mem_nil, or_false] at hsign
  rcases hsign with rfl | rfl | rfl
  · rw [List.nil_append]
    unfold takeSign
    split
    · exact absurd (hrow '-' (by simp)) (by decide)
    · exact absurd (hrow '+' (by simp)) (by decide)
    · rfl
  · rfl
  · rfl

/-- A numeral is a row of digits, at least one, behind its sign. -/
theorem IntegerNumeral.read?_eq_some_iff {text : List Char} {numeral : IntegerNumeral} :
    IntegerNumeral.read? text = some numeral ↔
      (takeSign text).2 ≠ [] ∧ (∀ c ∈ (takeSign text).2, isDigit c) ∧
        numeral = ⟨(takeSign text).1, (takeSign text).2.filterMap digitValue?⟩ := by
  generalize hbody : (takeSign text).2 = body
  have htake : body.takeWhile isDigit ++ body.dropWhile isDigit = body :=
    List.takeWhile_append_dropWhile
  unfold read?
  rw [hbody, takeDigits_eq]
  split
  · rename_i rest hdigits
    obtain ⟨hnil, hrest⟩ := Prod.mk.inj hdigits
    simp only [reduceCtorEq, false_iff, not_and]
    intro hne hall
    have hlength := length_filterMap_digitValue? hall
    rw [List.takeWhile_eq_self_iff.mpr hall] at hnil
    rw [hnil] at hlength
    exact absurd (List.length_eq_zero_iff.mp hlength.symm) hne
  · rename_i digits c rest hdigits
    obtain ⟨-, hrest⟩ := Prod.mk.inj hdigits
    simp only [reduceCtorEq, false_iff, not_and]
    intro _ hall
    rw [List.dropWhile_eq_nil_iff.mpr hall] at hrest
    cases hrest
  · rename_i digits hne hdigits
    obtain ⟨rfl, hrest⟩ := Prod.mk.inj hdigits
    have hall := List.dropWhile_eq_nil_iff.mp hrest
    rw [List.takeWhile_eq_self_iff.mpr hall] at hne ⊢
    have hbody : body ≠ [] := by
      rintro rfl
      exact hne rfl
    constructor
    · rintro h
      exact ⟨hbody, hall, (Option.some.inj h).symm⟩
    · rintro ⟨-, -, rfl⟩
      rfl

theorem IntegerNumeral.read?_append {sign row : List Char} (hsign : sign ∈ signs)
    (hrow : ∀ c ∈ row, isDigit c) (hne : row ≠ []) :
    IntegerNumeral.read? (sign ++ row) =
      some ⟨decide (sign = ['-']), row.filterMap digitValue?⟩ := by
  rw [read?_eq_some_iff, takeSign_append hsign hrow]
  exact ⟨hne, hrow, rfl⟩

/-- A text spells an integer of `n` digits, more than are read: a sign, which may be missing, and
the digits, with blanks around them. -/
def SpellsOverlong (text : List Char) (n : Nat) : Prop :=
  ∃ lead sign row trail, text = lead ++ (sign ++ row) ++ trail ∧ (∀ c ∈ lead, isBlank c) ∧
    (∀ c ∈ trail, isBlank c) ∧ sign ∈ signs ∧ (∀ c ∈ row, isDigit c) ∧ row.length = n ∧
    maxDigits < n

theorem spellsOverlong_of_digits {row : List Char} {n : Nat} (hrow : ∀ c ∈ row, isDigit c)
    (hlength : row.length = n) (hlong : maxDigits < n) : SpellsOverlong row n := by
  refine ⟨[], [], row, [], ?_, by simp, by simp, by decide, hrow, hlength, hlong⟩
  rw [List.nil_append, List.nil_append, List.append_nil]

/-- Neither signs nor digits are blanks, so trimming leaves a numeral whole. -/
theorem trim_of_spells {lead sign row trail : List Char} (hlead : ∀ c ∈ lead, isBlank c)
    (htrail : ∀ c ∈ trail, isBlank c) (hsign : sign ∈ signs) (hrow : ∀ c ∈ row, isDigit c)
    (hne : row ≠ []) : trim (lead ++ (sign ++ row) ++ trail) = sign ++ row := by
  have hblank : ∀ c ∈ sign ++ row, isBlank c = false := by
    intro c hc
    rcases List.mem_append.mp hc with hc | hc
    · simp only [signs, List.mem_cons, List.not_mem_nil, or_false] at hsign
      rcases hsign with rfl | rfl | rfl
      · cases hc
      · rw [List.mem_singleton.mp hc]
        decide
      · rw [List.mem_singleton.mp hc]
        decide
    · exact isBlank_eq_false_of_isDigit (hrow c hc)
  exact trim_append hlead htrail (fun c hc => hblank c (List.mem_of_mem_head? hc))
    (fun c hc => hblank c (List.mem_of_mem_getLast? hc)) (by simp [hne])

/-- A text is refused exactly if it spells an integer that is too long. -/
theorem read?_eq_error_iff {text : List Char} {e : Error} :
    read? text = .error e ↔ ∃ n, SpellsOverlong text n ∧ e = .tooLong n := by
  unfold read?
  constructor
  · intro h
    cases hread : IntegerNumeral.read? (trim text) with
    | none => simp [hread] at h
    | some numeral =>
        simp only [hread, IntegerNumeral.value?] at h
        split at h
        · cases h
        · rename_i hlong
          obtain ⟨hne, hrow, rfl⟩ := IntegerNumeral.read?_eq_some_iff.mp hread
          obtain ⟨lead, trail, htext, hlead, htrail⟩ := exists_trim text
          obtain ⟨sign, hsign, hcore, -⟩ := exists_sign (trim text)
          rw [length_filterMap_digitValue? hrow] at hlong h
          rw [hcore] at htext
          cases h
          exact ⟨_, ⟨lead, sign, _, trail, htext, hlead, htrail, hsign, hrow, rfl, by omega⟩, rfl⟩
  · rintro ⟨n, ⟨lead, sign, row, trail, rfl, hlead, htrail, hsign, hrow, hlength, hlong⟩, rfl⟩
    have hne : row ≠ [] := by
      rintro rfl
      simp only [List.length_nil] at hlength
      omega
    have hread := IntegerNumeral.read?_append hsign hrow hne
    rw [trim_of_spells hlead htrail hsign hrow hne]
    simp only [hread, IntegerNumeral.value?, length_filterMap_digitValue? hrow, hlength]
    rw [if_neg (by omega)]
    rfl

/-! ## The characters of a number -/

def numeralMarks : List Char :=
  ['+', '-', '.', 'e', 'E']

def IsNumeralChar (c : Char) : Prop :=
  isDigit c ∨ c ∈ numeralMarks

theorem isNumeralChar_of_mem_sign {sign : List Char} (hsign : sign ∈ signs) :
    ∀ c ∈ sign, IsNumeralChar c := by
  have hmarks : ∀ sign ∈ signs, sign ⊆ numeralMarks := by decide
  exact fun c hc => Or.inr (hmarks sign hsign hc)

/-- A text has characters of numerals only, if what its sign and its first digits leave has. -/
theorem isNumeralChar_of_rest {text : List Char}
    (h : ∀ c ∈ (takeSign text).2.dropWhile isDigit, IsNumeralChar c) :
    ∀ c ∈ text, IsNumeralChar c := by
  obtain ⟨sign, hsign, htext, -⟩ := exists_sign text
  have hdigits : ∀ c ∈ (takeSign text).2.takeWhile isDigit, IsNumeralChar c :=
    fun c hc => Or.inl (List.mem_takeWhile_imp hc)
  rw [htext, ← List.takeWhile_append_dropWhile (p := isDigit) (l := (takeSign text).2)]
  exact List.forall_mem_append.mpr ⟨isNumeralChar_of_mem_sign hsign,
    List.forall_mem_append.mpr ⟨hdigits, h⟩⟩

theorem IntegerNumeral.isNumeralChar_of_read? {text : List Char} {numeral : IntegerNumeral}
    (h : IntegerNumeral.read? text = some numeral) : ∀ c ∈ text, IsNumeralChar c := by
  obtain ⟨-, hdigits, -⟩ := IntegerNumeral.read?_eq_some_iff.mp h
  refine isNumeralChar_of_rest ?_
  rw [List.dropWhile_eq_nil_iff.mpr hdigits]
  exact List.forall_mem_nil _

theorem isNumeralChar_of_readExponent? {text : List Char} {exponent : Int}
    (h : readExponent? text = some exponent) : ∀ c ∈ text, IsNumeralChar c := by
  cases text with
  | nil => exact List.forall_mem_nil _
  | cons c rest =>
      rw [readExponent?] at h
      split at h
      · rename_i hmark
        obtain ⟨numeral, hread, -⟩ := Option.map_eq_some_iff.mp h
        refine List.forall_mem_cons.mpr ⟨Or.inr ?_, IntegerNumeral.isNumeralChar_of_read? hread⟩
        rcases hmark with rfl | rfl <;> decide
      · cases h

/-- A text that spells a decimal is made of digits and the marks of numerals. -/
theorem DecimalNumeral.isNumeralChar_of_read? {text : List Char} {numeral : DecimalNumeral}
    (h : DecimalNumeral.read? text = some numeral) : ∀ c ∈ text, IsNumeralChar c := by
  refine isNumeralChar_of_rest ?_
  simp only [DecimalNumeral.read?, takeDigits_eq] at h
  split at h
  · rename_i whole rest hparts
    obtain ⟨-, hpoint⟩ := Prod.mk.inj hparts
    split at h
    · cases h
    · obtain ⟨exponent, hexponent, -⟩ := Option.map_eq_some_iff.mp h
      have hfraction : ∀ c ∈ rest.takeWhile isDigit, IsNumeralChar c :=
        fun c hc => Or.inl (List.mem_takeWhile_imp hc)
      rw [hpoint, List.forall_mem_cons,
        ← List.takeWhile_append_dropWhile (p := isDigit) (l := rest)]
      exact ⟨Or.inr (by decide),
        List.forall_mem_append.mpr ⟨hfraction, isNumeralChar_of_readExponent? hexponent⟩⟩
  · split at h
    · cases h
    · rename_i whole rest _ hparts _
      obtain ⟨-, rfl⟩ := Prod.mk.inj hparts
      obtain ⟨exponent, hexponent, -⟩ := Option.map_eq_some_iff.mp h
      exact isNumeralChar_of_readExponent? hexponent

/-- A text that is read as a number is made of blanks and the characters of numerals. -/
theorem isBlank_or_isNumeralChar_of_read? {text : List Char} {number : Number}
    (h : read? text = .ok (some number)) : ∀ c ∈ text, isBlank c ∨ IsNumeralChar c := by
  have hcore : ∀ c ∈ trim text, IsNumeralChar c := by
    unfold read? at h
    cases hint : IntegerNumeral.read? (trim text) with
    | some numeral => exact IntegerNumeral.isNumeralChar_of_read? hint
    | none =>
        simp only [hint, Except.ok.injEq, Option.map_eq_some_iff] at h
        obtain ⟨numeral, hdecimal, -⟩ := h
        exact DecimalNumeral.isNumeralChar_of_read? hdecimal
  obtain ⟨lead, trail, htext, hlead, htrail⟩ := exists_trim text
  rw [htext]
  simp only [List.forall_mem_append]
  exact ⟨⟨fun c hc => Or.inl (hlead c hc), fun c hc => Or.inr (hcore c hc)⟩,
    fun c hc => Or.inl (htrail c hc)⟩

theorem notMem_of_read? {text : List Char} {number : Number}
    (h : read? text = .ok (some number)) {m : Char} (hblank : isBlank m = false)
    (hdigit : isDigit m = false) (hmark : m ∉ numeralMarks) : m ∉ text := by
  intro hmem
  rcases isBlank_or_isNumeralChar_of_read? h m hmem with hm | hm | hm
  · rw [hblank] at hm
    cases hm
  · rw [hdigit] at hm
    cases hm
  · exact hmark hm

end Number

end TableGateway
