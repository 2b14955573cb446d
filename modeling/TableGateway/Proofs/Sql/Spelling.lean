import TableGateway.Proofs.Dispatch.Submission
import TableGateway.Proofs.Number.Write
import TableGateway.Proofs.Query.Identifier
import TableGateway.Proofs.Query.Reading
import TableGateway.Proofs.Sql.Form

/-!
# What statements spell

Each part of a statement spells lexemes of its own, whatever text of a client it was made from, and
the parts put together spell one of the four forms. With what is known about drafts this gives the
forms of all statements that a dispatch submits.
-/

namespace TableGateway.Sql

/-! ## Words -/

theorem spells_nameChars {s : String} (hne : s ≠ "") (h : s.toList.all isNameChar) :
    Spells s.toList [.word s] := by
  have h := List.all_eq_true.mp h
  obtain ⟨c, rest, hs⟩ : ∃ c rest, s.toList = c :: rest :=
    List.exists_cons_of_ne_nil (by simpa using hne)
  have hself : String.ofList (c :: rest) = s := by rw [← hs, String.ofList_toList]
  rw [hs] at h ⊢
  rw [← hself]
  exact spells_word h

theorem IsPlainName.ne_empty {s : String} (h : IsPlainName s) : s ≠ "" := by
  obtain ⟨c, rest, hs, -, -⟩ := h
  rintro rfl
  simp at hs

theorem IsPlainName.isNameChar {s : String} (h : IsPlainName s) :
    ∀ c ∈ s.toList, isNameChar c := by
  obtain ⟨c, rest, hs, hstart, hrest⟩ := h
  rw [hs]
  intro d hd
  rcases List.mem_cons.mp hd with rfl | hd
  · exact isNameChar_of_isNameStart hstart
  · exact hrest d hd

theorem IsPlainName.spells {s : String} (h : IsPlainName s) : Spells s.toList [.word s] :=
  spells_nameChars h.ne_empty (List.all_eq_true.mpr h.isNameChar)

/-- An identifier is a plain name, but for a line end, which separates and no more. -/
theorem spells_identifier {s : String} (h : isIdentifier s) :
    ∃ name : Name, Spells s.toList [name.lexeme] := by
  obtain ⟨c, name, hstart, hname, hs⟩ := isIdentifier_cases h
  have hplain : IsPlainName (String.ofList (c :: name)) :=
    ⟨c, name, String.toList_ofList, hstart, hname⟩
  have hspells : Spells (c :: name) [.word (String.ofList (c :: name))] := by
    simpa using hplain.spells
  refine ⟨⟨_, hplain⟩, ?_⟩
  rcases hs with hs | hs
  · rw [hs]
    exact hspells
  · rw [hs]
    exact hspells.newline

/-! ## Numbers -/

def Digits.ofNat (n : Nat) : Digits where
  text := Number.writeInt n
  ne_empty := by
    intro h
    have hnil : Nat.toDigits 10 n = [] := by rw [← Number.toList_writeInt, h, String.toList_empty]
    exact Nat.toDigits_ne_nil hnil
  isDigit := by
    intro c hc
    have hdigit := Number.isDigit_of_mem_writeInt hc
    simpa [Char.isDigit, Char.le_def] using hdigit

theorem Digits.value_ofNat (n : Nat) : (ofNat n).value = n := by
  have h : (ofNat n).text.toList = Nat.toDigits 10 n := Number.toList_writeInt n
  rw [value, h, Nat.ofDigitChars_ten_toDigits]

theorem Digits.spells_ofNat (n : Nat) :
    Spells (Number.writeInt n).toList [(ofNat n).lexeme] := by
  refine spells_nameChars (ofNat n).ne_empty (List.all_eq_true.mpr fun c hc => ?_)
  have hdigit := Number.isDigit_of_mem_writeInt hc
  simp [TableGateway.isNameChar, Char.isAlphanum, hdigit]

/-! ## Lists of parts -/

variable {α β : Type} {text : α → String} {lexemes : β → List Lexeme} {parts : List α}

theorem exists_forall₂_spells (h : ∀ part ∈ parts, ∃ b, Spells (text part).toList (lexemes b)) :
    ∃ bs : List β, List.Forall₂ (fun part b => Spells (text part).toList (lexemes b)) parts bs := by
  induction parts with
  | nil => exact ⟨[], .nil⟩
  | cons part parts ih =>
      obtain ⟨b, hb⟩ := h part (by simp)
      obtain ⟨bs, hbs⟩ := ih fun other hother => h other (by simp [hother])
      exact ⟨b :: bs, .cons hb hbs⟩

theorem forall₂_spells_map {bs : List β}
    (h : List.Forall₂ (fun part b => Spells (text part).toList (lexemes b)) parts bs) :
    List.Forall₂ Spells ((parts.map text).map String.toList) (bs.map lexemes) := by
  simpa only [List.forall₂_map_left_iff, List.forall₂_map_right_iff] using h

theorem spells_commaSeparated {bs : List β}
    (h : List.Forall₂ (fun part b => Spells (text part).toList (lexemes b)) parts bs) :
    Spells (", ".intercalate (parts.map text)).toList (commaSeparated (bs.map lexemes)) := by
  rw [String.toList_intercalate]
  exact spells_intercalate_comma (forall₂_spells_map h)

/-- Texts that spell lexemes when they stand in a row with blanks between them. -/
def SpellInRow (texts : List String) (lexemes : List Lexeme) : Prop :=
  ∃ spelled, List.Forall₂ Spells (texts.map String.toList) spelled ∧ spelled.flatten = lexemes

theorem spellInRow_nil : SpellInRow [] [] :=
  ⟨[], .nil, rfl⟩

theorem Spells.inRow {text : String} {lexemes : List Lexeme} (h : Spells text.toList lexemes) :
    SpellInRow [text] lexemes :=
  ⟨[lexemes], .cons h .nil, by simp⟩

theorem SpellInRow.append {texts more : List String} {lexemes following : List Lexeme}
    (h : SpellInRow texts lexemes) (hmore : SpellInRow more following) :
    SpellInRow (texts ++ more) (lexemes ++ following) := by
  obtain ⟨spelled, hspelled, rfl⟩ := h
  obtain ⟨rest, hrest, rfl⟩ := hmore
  refine ⟨spelled ++ rest, ?_, List.flatten_append⟩
  rw [List.map_append]
  exact List.rel_append hspelled hrest

theorem SpellInRow.spells {texts : List String} {lexemes : List Lexeme}
    (h : SpellInRow texts lexemes) : Spells (" ".intercalate texts).toList lexemes := by
  obtain ⟨spelled, hspelled, rfl⟩ := h
  rw [String.toList_intercalate]
  exact spells_intercalate_space hspelled

/-! ## Conditions -/

section Conditions

variable {regexOperator : String} (hregex : regexOperator = "REGEXP" ∨ regexOperator = "~")

theorem spells_placeholder : Spells ['?'] [.mark "?"] :=
  spells_mark (by decide)

theorem spells_symbol {op : Operator} (h : op ≠ .regex) :
    Spells op.symbol.toList [.mark op.symbol] := by
  cases op with
  | ne => simpa [Operator.symbol] using spells_bang_eq
  | ge => simpa [Operator.symbol] using spells_gt_eq
  | le => simpa [Operator.symbol] using spells_lt_eq
  | eq => simpa [Operator.symbol] using spells_mark (c := '=') (by decide)
  | gt => simpa [Operator.symbol] using spells_mark (c := '>') (by decide)
  | lt => simpa [Operator.symbol] using spells_mark (c := '<') (by decide)
  | regex => exact absurd rfl h

include hregex

theorem spells_regexOperator : Spells regexOperator.toList [regexLexeme regexOperator] := by
  rcases hregex with rfl | rfl
  · exact spells_nameChars (by decide) (by decide)
  · exact spells_mark (by decide)

theorem spells_operator (op : Operator) :
    ∃ lexeme, (lexeme ∈ comparisonMarks ∨ lexeme = regexLexeme regexOperator) ∧
      Spells (op.sql regexOperator).toList [lexeme] := by
  cases op with
  | regex => exact ⟨_, Or.inr rfl, spells_regexOperator hregex⟩
  | _ => exact ⟨_, Or.inl (by decide), spells_symbol (by decide)⟩

/-- A clause spells a comparison; its value is not part of the text. -/
theorem spells_comparison {c : Clause} (hc : isIdentifier c.field) :
    ∃ comparison : Comparison (regexLexeme regexOperator),
      Spells (c.comparison regexOperator).toList comparison.lexemes := by
  obtain ⟨name, hname⟩ := spells_identifier hc
  obtain ⟨lexeme, hmem, hop⟩ := spells_operator hregex c.op
  refine ⟨⟨name, lexeme, hmem⟩, ?_⟩
  have htext : (c.comparison regexOperator).toList =
      c.field.toList ++ ' ' :: ((c.op.sql regexOperator).toList ++ ' ' :: ['?']) := by
    simp [Clause.comparison]
  rw [htext]
  exact hname.space_append (hop.space_append spells_placeholder)

theorem spells_joined {c : Clause} (hc : isIdentifier c.field) :
    ∃ other : Join × Comparison (regexLexeme regexOperator),
      Spells (c.joined regexOperator).toList (.word other.1.word :: other.2.lexemes) := by
  obtain ⟨comparison, hcomparison⟩ := spells_comparison hregex hc
  have hjoin : Spells c.join.word.toList [.word c.join.word] := by
    cases c.join <;> exact spells_nameChars (by decide) (by decide)
  refine ⟨(c.join, comparison), ?_⟩
  have htext : (c.joined regexOperator).toList =
      c.join.word.toList ++ ' ' :: (c.comparison regexOperator).toList := by
    simp [Clause.joined]
  rw [htext]
  exact hjoin.space_append hcomparison

/-- Clauses with their joins between them spell a condition but for its first word. -/
theorem spells_predicate {first : Clause} {rest : List Clause}
    (h : ∀ c ∈ first :: rest, isIdentifier c.field) :
    ∃ condition : Condition (regexLexeme regexOperator),
      Spells (Predicate.ofClauses regexOperator (first :: rest)).sql.toList
        condition.lexemes.tail := by
  obtain ⟨comparison, hfirst⟩ := spells_comparison hregex (h first (by simp))
  obtain ⟨others, hothers⟩ := exists_forall₂_spells fun c hc =>
    spells_joined hregex (h c (List.mem_cons_of_mem _ hc))
  exact ⟨⟨comparison, others⟩,
    SpellInRow.spells ⟨_, .cons hfirst (forall₂_spells_map hothers), rfl⟩⟩

/-- The clauses of a query spell a condition or nothing. -/
theorem spellInRow_condition {clauses : List Clause} (h : ∀ c ∈ clauses, isIdentifier c.field) :
    ∃ condition : Option (Condition (regexLexeme regexOperator)),
      SpellInRow
        (if (Predicate.ofClauses regexOperator clauses).isGiven then
          ["WHERE " ++ (Predicate.ofClauses regexOperator clauses).sql] else [])
        (condition.elim [] Condition.lexemes) := by
  cases clauses with
  | nil => exact ⟨none, spellInRow_nil⟩
  | cons first rest =>
      obtain ⟨condition, hcondition⟩ := spells_predicate hregex h
      have hgiven : (Predicate.ofClauses regexOperator (first :: rest)).isGiven := by
        by_contra hempty
        have hnil : (Predicate.ofClauses regexOperator (first :: rest)).sql = "" := by
          simpa [Predicate.isGiven] using hempty
        rw [hnil] at hcondition
        simpa [Condition.lexemes, Comparison.lexemes] using hcondition.lexemes?_eq
      have hwhere : Spells "WHERE".toList [.word "WHERE"] :=
        spells_nameChars (by decide) (by decide)
      refine ⟨some condition, ?_⟩
      rw [if_pos hgiven]
      refine Spells.inRow ?_
      rw [String.toList_append]
      exact hwhere.space_append hcondition

end Conditions

/-! ## Order and paging -/

theorem spells_sortEntry {entry : SortEntry} (h : isIdentifier entry.field) :
    ∃ key : Name × Direction,
      Spells entry.sql.toList [key.1.lexeme, .word key.2.word] := by
  obtain ⟨name, hname⟩ := spells_identifier h
  have hdirection : Spells entry.direction.word.toList [.word entry.direction.word] := by
    cases entry.direction <;> exact spells_nameChars (by decide) (by decide)
  refine ⟨(name, entry.direction), ?_⟩
  have htext : entry.sql.toList = entry.field.toList ++ ' ' :: entry.direction.word.toList := by
    simp [SortEntry.sql]
  rw [htext]
  exact hname.space_append hdirection

theorem spellInRow_order {entries : List SortEntry}
    (h : ∀ entry ∈ entries, isIdentifier entry.field) :
    ∃ order, SpellInRow
      (if entries.isEmpty then []
        else ["ORDER BY " ++ ", ".intercalate (entries.map SortEntry.sql)])
      (orderLexemes order) := by
  cases entries with
  | nil => exact ⟨[], spellInRow_nil⟩
  | cons first rest =>
      obtain ⟨order, horder⟩ := exists_forall₂_spells fun entry hentry =>
        spells_sortEntry (h entry hentry)
      cases order with
      | nil => cases horder
      | cons key order =>
          have hkeys := spells_commaSeparated horder
          have hwords : SpellInRow ["ORDER", "BY"] [.word "ORDER", .word "BY"] :=
            (Spells.inRow (spells_nameChars (by decide) (by decide))).append
              (Spells.inRow (spells_nameChars (by decide) (by decide)))
          refine ⟨key :: order, Spells.inRow ?_⟩
          rw [String.toList_append]
          exact hwords.spells.space_append hkeys

theorem spellInRow_count {word front : String} (hne : word ≠ "")
    (hword : word.toList.all isNameChar) (hfront : front.toList = word.toList ++ [' '])
    (n : Nat) :
    SpellInRow [front ++ Number.writeInt n] [.word word, (Digits.ofNat n).lexeme] := by
  refine Spells.inRow ?_
  rw [String.toList_append, hfront, List.append_assoc, List.singleton_append]
  exact (spells_nameChars hne hword).space_append (Digits.spells_ofNat n)

/-- A limit and an offset are written as digits. -/
theorem spellInRow_paging {limit offset : Option Nat} (hlimit : ∀ n ∈ limit, 1 ≤ n)
    (hoffset : offset.isSome → limit.isSome) :
    ∃ paging : Option Paging, SpellInRow
      ((limit.map fun n => "LIMIT " ++ Number.writeInt n).toList ++
        (offset.map fun n => "OFFSET " ++ Number.writeInt n).toList)
      (paging.elim [] Paging.lexemes) := by
  cases limit with
  | none =>
      have hnone : offset = none := by simpa using hoffset
      subst hnone
      exact ⟨none, spellInRow_nil⟩
  | some n =>
      have hpos : 1 ≤ (Digits.ofNat n).value := (Digits.value_ofNat n).symm ▸ hlimit n rfl
      have hfirst : SpellInRow ["LIMIT " ++ Number.writeInt n]
          [.word "LIMIT", (Digits.ofNat n).lexeme] :=
        spellInRow_count (by decide) (by decide) (by decide) n
      cases offset with
      | none => exact ⟨some ⟨.ofNat n, hpos, none⟩, hfirst.append spellInRow_nil⟩
      | some m =>
          have hsecond : SpellInRow ["OFFSET " ++ Number.writeInt m]
              [.word "OFFSET", (Digits.ofNat m).lexeme] :=
            spellInRow_count (by decide) (by decide) (by decide) m
          exact ⟨some ⟨.ofNat n, hpos, some (.ofNat m)⟩, hfirst.append hsecond⟩

end TableGateway.Sql
