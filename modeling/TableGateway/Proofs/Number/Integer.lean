import Mathlib.Data.List.Forall2
import Mathlib.Data.List.Induction
import Mathlib.Data.Nat.Digits.Defs
import TableGateway.Proofs.Number.Read

namespace TableGateway

namespace Text

def IsDigitOf (c : Char) (value : Nat) : Prop :=
  ∃ start ∈ decimalZeros, value < 10 ∧ c.toNat = start + value

/-- The table of zeros says what a digit of its script is. -/
theorem isDigitOf_iff {c : Char} {value : Nat} :
    IsDigitOf c value ↔ digitValue? c = some value := by
  constructor
  · rintro ⟨start, hstart, hvalue, hc⟩
    -- The rows of digits do not overlap, so it does not matter which one is found first.
    have hapart : ∀ start ∈ decimalZeros, ∀ other ∈ decimalZeros,
        start = other ∨ start + 10 ≤ other ∨ other + 10 ≤ start := by
      decide +kernel
    obtain ⟨found, hfound⟩ : ∃ found, decimalZeros.find?
        (fun start => start ≤ c.toNat && c.toNat < start + 10) = some found := by
      rw [← Option.isSome_iff_exists, List.find?_isSome]
      refine ⟨start, hstart, ?_⟩
      simp only [Bool.and_eq_true, decide_eq_true_eq]
      omega
    have hrange := List.find?_some hfound
    simp only [Bool.and_eq_true, decide_eq_true_eq] at hrange
    have hsame := hapart start hstart found (List.mem_of_find?_eq_some hfound)
    rw [digitValue?, hfound, Option.map_some, Option.some.injEq]
    omega
  · intro h
    obtain ⟨start, hfound, rfl⟩ := Option.map_eq_some_iff.mp h
    have hrange := List.find?_some hfound
    simp only [Bool.and_eq_true, decide_eq_true_eq] at hrange
    exact ⟨start, List.mem_of_find?_eq_some hfound, by omega, by omega⟩

theorem forall₂_isDigitOf_iff {row : List Char} {digits : List Nat} :
    List.Forall₂ IsDigitOf row digits ↔
      (∀ c ∈ row, isDigit c) ∧ row.filterMap digitValue? = digits := by
  induction row generalizing digits with
  | nil =>
      rw [List.forall₂_nil_left_iff]
      exact ⟨fun h => ⟨List.forall_mem_nil _, h.symm⟩, fun h => h.2.symm⟩
  | cons c row ih =>
      rw [List.forall₂_cons_left_iff, List.forall_mem_cons]
      constructor
      · rintro ⟨value, rest, hvalue, hrest, rfl⟩
        obtain ⟨hrow, rfl⟩ := ih.mp hrest
        have hfirst := isDigitOf_iff.mp hvalue
        refine ⟨⟨?_, hrow⟩, List.filterMap_cons_some hfirst⟩
        rw [isDigit, hfirst]
        rfl
      · rintro ⟨⟨hdigit, hrow⟩, rfl⟩
        obtain ⟨value, hvalue⟩ := Option.isSome_iff_exists.mp hdigit
        exact ⟨value, _, isDigitOf_iff.mpr hvalue, ih.mpr ⟨hrow, rfl⟩,
          List.filterMap_cons_some hvalue⟩

/-- The first digit of a row stands for the highest power of ten. -/
theorem digitsValue_eq_ofDigits (digits : List Nat) :
    digitsValue digits = Nat.ofDigits 10 digits.reverse := by
  induction digits using List.reverseRecOn with
  | nil => rfl
  | append_singleton digits digit ih =>
      rw [List.reverse_append, List.reverse_singleton, List.singleton_append, Nat.ofDigits_cons,
        ← ih, digitsValue, List.foldl_append]
      exact Nat.add_comm _ _

end Text

open Text

namespace Number

/-- A text is a numeral for an integer: a sign, which may be missing, and digits of any scripts, at
least one and no more than are read. -/
def IsNumeral (text : List Char) (n : Int) : Prop :=
  ∃ sign ∈ signs, ∃ row digits, text = sign ++ row ∧ List.Forall₂ IsDigitOf row digits ∧
    1 ≤ row.length ∧ row.length ≤ maxDigits ∧
    n = (if sign = ['-'] then -1 else 1) * (Nat.ofDigits 10 digits.reverse : Nat)

/-- A text spells an integer: it is a numeral for it with blanks around. -/
def SpellsInteger (text : List Char) (n : Int) : Prop :=
  ∃ lead numeral trail, text = lead ++ numeral ++ trail ∧ (∀ c ∈ lead, isBlank c) ∧
    (∀ c ∈ trail, isBlank c) ∧ IsNumeral numeral n

variable {text : List Char} {n : Int}

theorem signed_eq_mul (negative : Bool) (size : Nat) :
    signed negative size = (if negative = true then -1 else 1) * (size : Int) := by
  unfold signed
  cases negative with
  | false => exact (Int.one_mul _).symm
  | true => exact Int.neg_eq_neg_one_mul _

/-- The reader of integers accepts numerals and nothing else. -/
theorem isNumeral_iff :
    IsNumeral text n ↔
      ∃ numeral, IntegerNumeral.read? text = some numeral ∧ numeral.value? = .ok n := by
  constructor
  · rintro ⟨sign, hsign, row, digits, rfl, hdigits, hone, hshort, rfl⟩
    obtain ⟨hrow, rfl⟩ := forall₂_isDigitOf_iff.mp hdigits
    refine ⟨_, IntegerNumeral.read?_append hsign hrow (List.ne_nil_of_length_pos hone), ?_⟩
    rw [IntegerNumeral.value?, length_filterMap_digitValue? hrow, if_pos hshort,
      IntegerNumeral.value, signed_eq_mul, digitsValue_eq_ofDigits]
    simp only [decide_eq_true_eq]
  · rintro ⟨numeral, hread, hvalue⟩
    obtain ⟨hne, hrow, hparts⟩ := IntegerNumeral.read?_eq_some_iff.mp hread
    obtain ⟨sign, hsign, htext, hnegative⟩ := exists_sign text
    rw [hparts, IntegerNumeral.value?, length_filterMap_digitValue? hrow] at hvalue
    split at hvalue
    · rename_i hshort
      refine ⟨sign, hsign, (takeSign text).2, _, htext, forall₂_isDigitOf_iff.mpr ⟨hrow, rfl⟩,
        List.length_pos_of_ne_nil hne, hshort, ?_⟩
      rw [← Except.ok.inj hvalue, IntegerNumeral.value, signed_eq_mul, digitsValue_eq_ofDigits,
        hnegative]
      simp only [decide_eq_true_eq]
    · cases hvalue

/-- A text is read as an integer exactly if it is a numeral for it when the blanks around it are
taken off. -/
theorem read?_eq_int_iff : read? text = .ok (some (.int n)) ↔ IsNumeral (trim text) n := by
  rw [isNumeral_iff, read?]
  cases hread : IntegerNumeral.read? (trim text) with
  | none => simp
  | some numeral =>
      cases hvalue : numeral.value? with
      | error e => simp [hvalue, bind, Except.bind]
      | ok m => simp [hvalue, bind, Except.bind, pure, Except.pure]

/-- Blanks around a numeral do not count. -/
theorem spellsInteger_iff : SpellsInteger text n ↔ IsNumeral (trim text) n := by
  constructor
  · rintro ⟨lead, numeral, trail, rfl, hlead, htrail, hnumeral⟩
    have hcore := hnumeral
    obtain ⟨sign, hsign, row, digits, rfl, hdigits, hone, -, -⟩ := hcore
    have hrow := (forall₂_isDigitOf_iff.mp hdigits).1
    rwa [trim_of_spells hlead htrail hsign hrow (List.ne_nil_of_length_pos hone)]
  · intro h
    obtain ⟨lead, trail, htext, hlead, htrail⟩ := exists_trim text
    exact ⟨lead, trim text, trail, htext, hlead, htrail, h⟩

end Number

end TableGateway
