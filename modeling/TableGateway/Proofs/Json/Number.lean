import Mathlib.Tactic.IntervalCases
import TableGateway.Json.Read
import TableGateway.Json.Write
import TableGateway.Proofs.Number.Shortest
import TableGateway.Proofs.Number.Write
import TableGateway.Proofs.Text.Find

namespace TableGateway.Json

open Text Number

/-! ## Spelling -/

/-- The parts of a number without its sign: the digits before and after the point and those of the
exponent, with its sign. -/
structure Spelling where
  whole : List Char
  fraction : List Char := []
  exponent : Option (Bool × List Char) := none

namespace Spelling

def fractionChars (n : Spelling) : List Char :=
  if n.fraction.isEmpty then [] else '.' :: n.fraction

def exponentChars (n : Spelling) : List Char :=
  match n.exponent with
  | none => []
  | some (negative, digits) => 'e' :: (if negative then '-' else '+') :: digits

def chars (n : Spelling) : List Char :=
  n.whole ++ (n.fractionChars ++ n.exponentChars)

def isWhole (n : Spelling) : Bool :=
  n.fraction.isEmpty && n.exponent.isNone

def exponent? (n : Spelling) : Option Int :=
  n.exponent.map fun (negative, digits) => signed negative (digitsValue (digitsOf digits))

/-- The number that is spelled, unless it is a whole number with too many digits. -/
def value? (n : Spelling) (negative : Bool) : Option Value :=
  if n.isWhole then (IntegerNumeral.mk negative (digitsOf n.whole)).value?.toOption.map .int
  else
    let numeral : DecimalNumeral :=
      ⟨negative, digitsOf n.whole, digitsOf n.fraction, n.exponent?.getD 0⟩
    some (.real numeral.toFloat)

/-- No zero stands in front of other digits, and no part is empty that is there at all. -/
structure IsValid (n : Spelling) : Prop where
  leading : n.whole = ['0'] ∨ ∃ first rest, n.whole = first :: rest ∧ first ≠ '0'
  whole : ∀ c ∈ n.whole, c.isDigit
  fraction : ∀ c ∈ n.fraction, c.isDigit
  exponent : ∀ part ∈ n.exponent, part.2 ≠ [] ∧ ∀ c ∈ part.2, c.isDigit

end Spelling

def EndsNumber (rest : List Char) : Prop :=
  ∀ c ∈ rest.head?, c.isDigit = false ∧ c ≠ '.' ∧ c ≠ 'e' ∧ c ≠ 'E'

variable {n : Spelling} {rest : List Char}

/-! ## Reading -/

theorem spanDigits_append {digits : List Char} (hdigits : ∀ c ∈ digits, c.isDigit)
    (hrest : ∀ c ∈ rest.head?, c.isDigit = false) :
    spanDigits (digits ++ rest) = (digits, rest) := by
  unfold spanDigits
  exact span_append hdigits hrest

/-- The exponent is taken whole: what follows a number cannot go on with it. -/
theorem takeExponent_append (hn : n.IsValid) (hrest : EndsNumber rest) :
    takeExponent (n.exponentChars ++ rest) = (n.exponent?, rest) := by
  unfold Spelling.exponentChars Spelling.exponent?
  cases hexponent : n.exponent with
  | none =>
      cases rest with
      | nil => rfl
      | cons c rest =>
          obtain ⟨-, -, hsmall, hcapital⟩ := hrest c rfl
          rw [List.nil_append, takeExponent, if_neg (not_or.mpr ⟨hsmall, hcapital⟩)]
          rfl
  | some part =>
      obtain ⟨negative, digits⟩ := part
      obtain ⟨hne, hdigits⟩ := hn.exponent _ hexponent
      have hspan := spanDigits_append hdigits fun c hc => (hrest c hc).1
      have hsign : takeSign ((if negative then '-' else '+') :: (digits ++ rest)) =
          (negative, digits ++ rest) := by
        cases negative <;> rfl
      have hempty : digits.isEmpty = false := by simpa using hne
      rw [List.cons_append, List.cons_append, takeExponent, if_pos (Or.inl rfl), hsign]
      dsimp only
      rw [hspan]
      dsimp only
      rw [hempty]
      rfl

theorem head?_exponentChars_append (hrest : EndsNumber rest) :
    ∀ c ∈ (n.exponentChars ++ rest).head?, c.isDigit = false ∧ c ≠ '.' := by
  intro c hc
  unfold Spelling.exponentChars at hc
  split at hc
  · obtain ⟨hdigit, hpoint, -⟩ := hrest c hc
    exact ⟨hdigit, hpoint⟩
  · cases hc
    decide

/-- Digits behind the point end where the exponent begins. -/
theorem takeFraction_append (hn : n.IsValid) (hrest : EndsNumber rest) :
    takeFraction (n.fractionChars ++ (n.exponentChars ++ rest)) =
      (n.fraction, n.exponentChars ++ rest) := by
  have hhead := head?_exponentChars_append (n := n) hrest
  generalize n.exponentChars ++ rest = behind at hhead ⊢
  unfold Spelling.fractionChars
  cases hfraction : n.fraction with
  | nil =>
      rw [List.isEmpty_nil, if_pos rfl, List.nil_append]
      unfold takeFraction
      split
      · exact absurd rfl (hhead '.' rfl).2
      · rfl
  | cons digit digits =>
      have hspan := spanDigits_append (hfraction ▸ hn.fraction) fun c hc => (hhead c hc).1
      simp only [List.isEmpty_cons, Bool.false_eq_true, if_false, List.cons_append, takeFraction]
      rw [← List.cons_append, hspan]
      rfl

theorem head?_fractionChars_append (hrest : EndsNumber rest) :
    ∀ c ∈ (n.fractionChars ++ (n.exponentChars ++ rest)).head?, c.isDigit = false := by
  intro c hc
  unfold Spelling.fractionChars at hc
  split at hc
  · exact (head?_exponentChars_append hrest c hc).1
  · cases hc
    decide

def readBehind? (negative : Bool) (whole behind : List Char) : Option (Value × List Char) :=
  let (fraction, rest) := takeFraction behind
  let (exponent, rest) := takeExponent rest
  if fraction.isEmpty && exponent.isNone then
    match (IntegerNumeral.mk negative (digitsOf whole)).value? with
    | .ok n => some (.int n, rest)
    | .error _ => none
  else
    let numeral : DecimalNumeral :=
      ⟨negative, digitsOf whole, digitsOf fraction, exponent.getD 0⟩
    some (.real numeral.toFloat, rest)

/-- No zero stands in front, so the digits before the point are taken at once. -/
theorem readNumber?_whole (hn : n.IsValid) (hrest : ∀ c ∈ rest.head?, c.isDigit = false)
    (negative : Bool) :
    readNumber? negative (n.whole ++ rest) = readBehind? negative n.whole rest := by
  rcases hn.leading with hzero | ⟨first, digits, hwhole, hfirst⟩
  · rw [hzero]
    rfl
  · have hempty : n.whole.isEmpty = false := by
      rw [hwhole]
      rfl
    unfold readNumber?
    rw [spanDigits_append hn.whole hrest]
    split
    · rename_i tail hfront
      rw [hwhole] at hfront
      exact absurd (List.cons.inj hfront).1 hfirst
    · dsimp only
      rw [hempty]
      rfl

/-- The reader takes exactly what spells a number, whatever follows. -/
theorem readNumber?_chars (hn : n.IsValid) (hrest : EndsNumber rest) (negative : Bool) :
    readNumber? negative (n.chars ++ rest) =
      (n.value? negative).map fun value => (value, rest) := by
  unfold Spelling.chars
  rw [List.append_assoc, List.append_assoc,
    readNumber?_whole hn (head?_fractionChars_append hrest), readBehind?,
    takeFraction_append hn hrest]
  dsimp only
  rw [takeExponent_append hn hrest]
  dsimp only
  unfold Spelling.value? Spelling.isWhole Spelling.exponent?
  rw [Option.isNone_map]
  split
  · cases (IntegerNumeral.mk negative (digitsOf n.whole)).value? <;> rfl
  · rfl

theorem Spelling.exists_value?_eq (h : n.isWhole = false) (negative : Bool) :
    ∃ x, n.value? negative = some (.real x) := by
  rw [value?, h]
  exact ⟨_, rfl⟩

/-! ## Words -/

theorem readPlain?_word {word : List Char} {value : Value} (h : (word, value) ∈ words)
    (rest : List Char) : readPlain? (word ++ rest) = some (value, rest) := by
  simp only [words, List.mem_cons, List.not_mem_nil, or_false, Prod.mk.injEq] at h
  rcases h with ⟨rfl, rfl⟩ | ⟨rfl, rfl⟩ | ⟨rfl, rfl⟩ | ⟨rfl, rfl⟩ | ⟨rfl, rfl⟩ | ⟨rfl, rfl⟩
  all_goals rfl

theorem exists_word_of_readWord? {text : List Char} {value : Value}
    (h : readWord? text = some (value, rest)) :
    ∃ word, (word, value) ∈ words ∧ text = word ++ rest := by
  obtain ⟨⟨word, value'⟩, hmem, hword⟩ := List.exists_of_findSome?_eq_some h
  obtain ⟨after, hafter, heq⟩ := Option.map_eq_some_iff.mp hword
  cases heq
  exact ⟨word, hmem, eq_append_of_dropFront? hafter⟩

/-- No word begins like a number. -/
theorem readWord?_eq_none {c : Char} {text : List Char} (hmem : c ∈ text.take 2) (hc : c.isDigit) :
    readWord? text = none := by
  have hall : words.all fun entry =>
      decide (2 ≤ entry.1.length) && (entry.1.take 2).all fun c => !c.isDigit := rfl
  rw [Option.eq_none_iff_forall_ne_some]
  rintro ⟨value, rest⟩ h
  obtain ⟨word, hword, rfl⟩ := exists_word_of_readWord? h
  obtain ⟨hlength, hletters⟩ := Bool.and_eq_true_iff.mp (List.all_eq_true.mp hall _ hword)
  rw [List.take_append_of_le_length (of_decide_eq_true hlength)] at hmem
  have hletter := List.all_eq_true.mp hletters c hmem
  rw [hc] at hletter
  cases hletter

theorem exists_cons_chars (hn : n.IsValid) : ∃ c tail, n.chars = c :: tail ∧ c.isDigit := by
  have hdigit := hn.whole
  rcases hn.leading with hwhole | ⟨c, tail, hwhole, -⟩
  all_goals
    rw [Spelling.chars, hwhole]
    exact ⟨_, _, rfl, hdigit _ (hwhole ▸ List.mem_cons_self)⟩

/-- A number with its sign is not taken for a word. -/
theorem readPlain?_chars (hn : n.IsValid) (hrest : EndsNumber rest) (negative : Bool) :
    readPlain? ((if negative then '-' :: n.chars else n.chars) ++ rest) =
      (n.value? negative).map fun value => (value, rest) := by
  obtain ⟨c, tail, hchars, hc⟩ := exists_cons_chars hn
  rw [← readNumber?_chars hn hrest, hchars]
  cases negative with
  | true =>
      have hword : readWord? ('-' :: c :: (tail ++ rest)) = none :=
        readWord?_eq_none (by simp) hc
      rw [if_pos rfl]
      unfold readPlain?
      rw [List.cons_append, List.cons_append, hword]
      rfl
  | false =>
      have hword : readWord? (c :: (tail ++ rest)) = none :=
        readWord?_eq_none (by simp) hc
      rw [if_neg Bool.false_ne_true]
      unfold readPlain?
      rw [List.cons_append, hword]
      split
      · rename_i hfound
        cases hfound
      · rename_i hminus
        rw [(List.cons.inj hminus).1] at hc
        cases hc
      · rfl

/-! ## Writing -/

variable {d : Digits}

theorem isDigit_digitChar {digit : Nat} (h : digit < 10) : (Nat.digitChar digit).isDigit := by
  interval_cases digit <;> rfl

theorem digitChar_ne_zero {digit : Nat} (h : digit < 10) (hne : digit ≠ 0) :
    Nat.digitChar digit ≠ '0' := by
  intro hzero
  have hpoint : 48 + digit = 48 := (Nat.toNat_digitChar_of_lt_ten h).symm.trans
    (congrArg Char.toNat hzero)
  omega

theorem isDigit_of_mem_digitChars {digits : List Nat} (h : ∀ digit ∈ digits, digit < 10) :
    ∀ c ∈ digitChars digits, c.isDigit := by
  intro c hc
  obtain ⟨digit, hdigit, rfl⟩ := List.mem_map.mp hc
  exact isDigit_digitChar (h digit hdigit)

theorem isDigit_of_mem_replicate {count : Nat} : ∀ c ∈ List.replicate count '0', c.isDigit := by
  intro c hc
  rw [List.eq_of_mem_replicate hc]
  rfl

theorem isDigit_of_mem_padded {width k : Nat} : ∀ c ∈ padded width k, c.isDigit := by
  intro c hc
  rcases List.mem_append.mp hc with hc | hc
  · exact isDigit_of_mem_replicate c hc
  · exact Nat.isDigit_of_mem_toDigits (by decide) (by decide) hc

theorem padded_ne_nil (width k : Nat) : padded width k ≠ [] :=
  List.append_ne_nil_of_right_ne_nil _ Nat.toDigits_ne_nil

theorem leading_digitChars (hd : d.IsNormal) {count : Nat} (hcount : count ≠ 0)
    (zeros : List Char) : ∃ first rest,
      digitChars (d.digits.take count) ++ zeros = first :: rest ∧ first ≠ '0' := by
  obtain ⟨digit, digits, hdigits, hne⟩ := hd.leading
  obtain ⟨count, rfl⟩ := Nat.exists_eq_succ_of_ne_zero hcount
  rw [hdigits, List.take_succ_cons]
  exact ⟨_, _, rfl, digitChar_ne_zero (hd.small digit (hdigits ▸ List.mem_cons_self)) hne⟩

/-- Digits on both sides of a point. -/
theorem exists_spelling_point {whole fraction : List Char}
    (hleading : whole = ['0'] ∨ ∃ first rest, whole = first :: rest ∧ first ≠ '0')
    (hwhole : ∀ c ∈ whole, c.isDigit) (hne : fraction ≠ [])
    (hfraction : ∀ c ∈ fraction, c.isDigit) :
    ∃ n : Spelling, n.chars = whole ++ '.' :: fraction ∧ n.IsValid ∧ n.isWhole = false := by
  have hempty : fraction.isEmpty = false := List.isEmpty_eq_false_iff.mpr hne
  refine ⟨{ whole, fraction }, ?_, ⟨hleading, hwhole, hfraction, ?_⟩, ?_⟩
  · simp [Spelling.chars, Spelling.fractionChars, Spelling.exponentChars, hempty]
  · simp
  · rw [Spelling.isWhole, hempty]
    rfl

@[simp] theorem digitChars_eq_nil_iff {digits : List Nat} : digitChars digits = [] ↔ digits = [] :=
  List.map_eq_nil_iff

/-- Digits laid out without an exponent are spelled as JSON wants them. -/
theorem exists_spelling_plain (hd : d.IsNormal) :
    ∃ n : Spelling, n.chars = d.plain ∧ n.IsValid ∧ n.isWhole = false := by
  obtain ⟨first, others, hcons, -⟩ := hd.leading
  have hdigits : d.digits ≠ [] := hcons ▸ List.cons_ne_nil first others
  unfold Digits.plain
  split
  · refine exists_spelling_point (.inl rfl) (by simp) ?_ ?_
    · exact List.append_ne_nil_of_right_ne_nil _ (mt digitChars_eq_nil_iff.mp hdigits)
    · exact List.forall_mem_append.mpr
        ⟨isDigit_of_mem_replicate, isDigit_of_mem_digitChars hd.small⟩
  · rename_i hpoint
    refine exists_spelling_point (.inr (leading_digitChars hd (by omega) _)) ?_ ?_ ?_
    · refine List.forall_mem_append.mpr ⟨isDigit_of_mem_digitChars ?_, isDigit_of_mem_replicate⟩
      exact fun digit hdigit => hd.small digit (List.mem_of_mem_take hdigit)
    · split
      · exact List.cons_ne_nil _ _
      · rename_i hrest
        simpa using hrest
    · split
      · simp
      · exact isDigit_of_mem_digitChars fun digit hdigit =>
          hd.small digit (List.mem_of_mem_drop hdigit)

/-- With an exponent part a number is never whole, even without a point. -/
theorem exists_spelling_scientific (hd : d.IsNormal) (layout : Layout) :
    ∃ n : Spelling, n.chars = d.scientific layout ∧ n.IsValid ∧ n.isWhole = false := by
  let n : Spelling :=
    { whole := digitChars (d.digits.take 1)
      fraction := digitChars (d.digits.drop 1)
      exponent := some (decide (d.point - 1 < 0),
        padded layout.exponentWidth (d.point - 1).natAbs) }
  refine ⟨n, ?_, ⟨.inr ?_, ?_, ?_, ?_⟩, ?_⟩
  · simp [n, Spelling.chars, Spelling.fractionChars, Spelling.exponentChars, Digits.scientific]
  · have hfirst := leading_digitChars hd Nat.one_ne_zero []
    rwa [List.append_nil] at hfirst
  · exact isDigit_of_mem_digitChars fun digit hdigit => hd.small digit (List.mem_of_mem_take hdigit)
  · exact isDigit_of_mem_digitChars fun digit hdigit => hd.small digit (List.mem_of_mem_drop hdigit)
  · rintro part hpart
    cases hpart
    exact ⟨padded_ne_nil _ _, isDigit_of_mem_padded⟩
  · exact Bool.and_false _

/-- However digits are laid out, they spell a number that is not whole. -/
theorem exists_spelling_write (hd : d.IsNormal) (layout : Layout) :
    ∃ n : Spelling, n.chars = d.write layout ∧ n.IsValid ∧ n.isWhole = false := by
  unfold Digits.write
  split
  · exact exists_spelling_plain hd
  · exact exists_spelling_scientific hd layout

/-- Every finite floating-point number is written as JSON spells numbers. -/
theorem exists_spelling_writeFloat {x : Float} (hnan : x.isNaN = false) (hinf : x.isInf = false) :
    ∃ n : Spelling, (writeFloat x).toList = (if hasMinus x then '-' :: n.chars else n.chars) ∧
      n.IsValid ∧ n.isWhole = false := by
  have hsize : ∃ n : Spelling, n.chars =
      (if x == 0 then "0.0".toList else (shortestDigits x).write Layout.standard) ∧
      n.IsValid ∧ n.isWhole = false := by
    by_cases hzero : x == 0
    · have htext : "0.0".toList = ['0'] ++ '.' :: ['0'] := rfl
      rw [if_pos hzero, htext]
      exact exists_spelling_point (.inl rfl) (by simp) (List.cons_ne_nil '0' []) (by simp)
    · rw [if_neg hzero]
      exact exists_spelling_write
        (isNormal_shortestDigits (sizeBits_ne_zero (Bool.not_eq_true _ ▸ hzero))) _
  obtain ⟨n, hchars, hvalid⟩ := hsize
  refine ⟨n, ?_, hvalid⟩
  unfold writeFloat
  rw [hnan, hinf, hchars, if_neg Bool.false_ne_true, String.toList_ofList]
  rfl

/-! ## Whole numbers -/

def wholeSpelling (k : Nat) : Spelling :=
  { whole := Nat.toDigits 10 k }

/-- No integer is written with a zero in front, except for zero itself. -/
theorem isValid_wholeSpelling (k : Nat) : (wholeSpelling k).IsValid := by
  have hdigits : ∀ c ∈ Nat.toDigits 10 k, c.isDigit :=
    fun c => Nat.isDigit_of_mem_toDigits (by decide) (by decide)
  refine ⟨?_, hdigits, List.forall_mem_nil _, by simp [wholeSpelling]⟩
  by_cases hk : k = 0
  · exact .inl (hk ▸ rfl)
  · right
    obtain ⟨first, rest, hfirst, hne⟩ := exists_decimalDigits_eq hk
    obtain ⟨c, cs, hcs, hc, -⟩ := List.map_eq_cons_iff.mp hfirst
    refine ⟨c, cs, hcs, ?_⟩
    rintro rfl
    exact hne hc.symm

/-- An integer is read back unless it has too many digits. -/
theorem value?_wholeSpelling (k : Nat) (negative : Bool) :
    (wholeSpelling k).value? negative =
      if (Nat.toDigits 10 k).length ≤ maxDigits then some (.int (signed negative k)) else none := by
  have hvalue : digitsValue (digitsOf (Nat.toDigits 10 k)) = k := by
    rw [digitsOf, digitsValue, List.foldl_map]
    exact Nat.ofDigitChars_ten_toDigits
  have hlength : (digitsOf (Nat.toDigits 10 k)).length = (Nat.toDigits 10 k).length :=
    List.length_map _
  have hwhole : (wholeSpelling k).isWhole = true := rfl
  rw [Spelling.value?, if_pos hwhole]
  simp only [IntegerNumeral.value?, IntegerNumeral.value, wholeSpelling, hlength, hvalue]
  split <;> rfl

end TableGateway.Json
