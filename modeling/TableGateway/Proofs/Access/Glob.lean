import TableGateway.Access.Glob

/-!
# What a shell pattern stands for

`Glob.Fits` says what a pattern stands for, one rule for each kind of piece. The table of marks that
decides about a text comes to the same: it says for each end part of the text whether the pieces
that are left stand for it.
-/

namespace TableGateway

namespace Glob

/-- A pattern stands for the whole of a text. Without an opening bracket in the pattern there are no
sets, and every character but the star and the question mark stands for itself. -/
inductive Fits : List Char → List Char → Prop
  | nil : Fits [] []
  | star {pattern text : List Char} (passed : List Char) (h : Fits pattern text) :
    Fits ('*' :: pattern) (passed ++ text)
  | one {pattern text : List Char} (c : Char) (h : Fits pattern text) :
    Fits ('?' :: pattern) (c :: text)
  | set {pattern inside after text : List Char} {c : Char}
    (hset : splitSet? pattern = some (inside, after)) (hc : (readSet inside).holds c)
    (h : Fits after text) : Fits ('[' :: pattern) (c :: text)
  | same {pattern text : List Char} {c : Char} (hstar : c ≠ '*') (hone : c ≠ '?')
    (hset : c = '[' → splitSet? pattern = none) (h : Fits pattern text) :
    Fits (c :: pattern) (c :: text)

/-! ## Marks -/

def stand (pieces : List Piece) (text : List Char) : Bool :=
  (marks pieces text).headD false

theorem marks_of_ne_star {piece : Piece} (h : piece ≠ .star) (pieces : List Piece)
    (text : List Char) :
    marks (piece :: pieces) text =
      List.zipWith (fun c b => piece.accepts c && b) text (marks pieces text).tail ++ [false] := by
  cases piece with
  | star => exact absurd rfl h
  | _ => rfl

theorem length_marksFrom (all : List Bool) : (marksFrom all).length = all.length := by
  induction all with
  | nil => rfl
  | cons b rest ih => rw [marksFrom, List.length_cons, ih, List.length_cons]

theorem length_marks (pieces : List Piece) (text : List Char) :
    (marks pieces text).length = text.length + 1 := by
  induction pieces with
  | nil => simp [marks]
  | cons piece pieces ih =>
      by_cases hpiece : piece = .star
      · rw [hpiece, marks, length_marksFrom, ih]
      · rw [marks_of_ne_star hpiece]
        simp [ih]

theorem exists_marks_eq (pieces : List Piece) (text : List Char) :
    ∃ rest, marks pieces text = stand pieces text :: rest := by
  obtain ⟨b, rest, hmarks⟩ := List.exists_cons_of_length_eq_add_one (length_marks pieces text)
  exact ⟨rest, by rw [stand, hmarks, List.headD_cons]⟩

theorem marks_nil (pieces : List Piece) : marks pieces [] = [stand pieces []] := by
  obtain ⟨rest, hmarks⟩ := exists_marks_eq pieces []
  have hlength := length_marks pieces []
  rw [hmarks, List.length_cons, List.length_nil, Nat.add_right_cancel_iff] at hlength
  rw [hmarks, List.length_eq_zero_iff.mp hlength]

/-- The marks of a text go on with those of what follows its first character. -/
theorem tail_marks_cons (pieces : List Piece) (c : Char) (text : List Char) :
    (marks pieces (c :: text)).tail = marks pieces text := by
  induction pieces with
  | nil => simp [marks]
  | cons piece pieces ih =>
      by_cases hpiece : piece = .star
      · obtain ⟨rest, hmarks⟩ := exists_marks_eq pieces (c :: text)
        rw [hmarks, List.tail_cons] at ih
        rw [hpiece, marks, marks, hmarks, ih, marksFrom, List.tail_cons]
      · obtain ⟨rest, hmarks⟩ := exists_marks_eq pieces text
        rw [marks_of_ne_star hpiece, marks_of_ne_star hpiece, ih, hmarks, List.zipWith_cons_cons]
        rfl

theorem marks_cons (pieces : List Piece) (c : Char) (text : List Char) :
    marks pieces (c :: text) = stand pieces (c :: text) :: marks pieces text := by
  obtain ⟨rest, hmarks⟩ := exists_marks_eq pieces (c :: text)
  have htail := tail_marks_cons pieces c text
  rw [hmarks, List.tail_cons] at htail
  rw [hmarks, htail]

/-! ## What pieces stand for -/

theorem Piece.accepts_char_iff {c d : Char} : (Piece.char c).accepts d ↔ c = d :=
  decide_eq_true_iff

section Pieces

variable {piece : Piece} {pieces : List Piece} {text : List Char}

theorem stand_nil_iff : stand [] text ↔ text = [] := by
  cases text <;> simp [stand, marks]

/-- A piece other than a star stands for exactly one character. -/
theorem stand_cons_iff (hpiece : piece ≠ .star) :
    stand (piece :: pieces) text ↔
      ∃ c rest, text = c :: rest ∧ piece.accepts c ∧ stand pieces rest := by
  rw [stand, marks_of_ne_star hpiece]
  cases text with
  | nil => simp
  | cons c text =>
      obtain ⟨others, hmarks⟩ := exists_marks_eq pieces text
      rw [tail_marks_cons, hmarks, List.zipWith_cons_cons, List.cons_append, List.headD_cons,
        Bool.and_eq_true]
      constructor
      · rintro ⟨hc, h⟩
        exact ⟨c, text, rfl, hc, h⟩
      · rintro ⟨_, _, heq, hc, h⟩
        obtain ⟨rfl, rfl⟩ := List.cons.inj heq
        exact ⟨hc, h⟩

theorem stand_char_iff {c : Char} :
    stand (.char c :: pieces) text ↔ ∃ rest, text = c :: rest ∧ stand pieces rest := by
  rw [stand_cons_iff (by simp)]
  constructor
  · rintro ⟨d, rest, rfl, hd, h⟩
    obtain rfl : c = d := Piece.accepts_char_iff.mp hd
    exact ⟨rest, rfl, h⟩
  · rintro ⟨rest, rfl, h⟩
    exact ⟨c, rest, rfl, Piece.accepts_char_iff.mpr rfl, h⟩

theorem stand_star_eq_any (pieces : List Piece) (text : List Char) :
    stand (.star :: pieces) text = (marks pieces text).any id := by
  obtain ⟨rest, hmarks⟩ := exists_marks_eq pieces text
  rw [stand, marks, hmarks, marksFrom, List.headD_cons, List.any_cons, id]

/-- A star passes over any front of the text. -/
theorem stand_star_iff :
    stand (.star :: pieces) text ↔ ∃ passed rest, text = passed ++ rest ∧ stand pieces rest := by
  rw [stand_star_eq_any]
  induction text with
  | nil =>
      rw [marks_nil, List.any_cons, List.any_nil, Bool.or_false, id]
      constructor
      · intro h
        exact ⟨[], [], rfl, h⟩
      · rintro ⟨passed, rest, heq, h⟩
        rwa [(List.append_eq_nil_iff.mp heq.symm).2] at h
  | cons c text ih =>
      rw [marks_cons, List.any_cons, Bool.or_eq_true, ih]
      constructor
      · rintro (h | ⟨passed, rest, rfl, h⟩)
        · exact ⟨[], _, rfl, h⟩
        · exact ⟨c :: passed, rest, rfl, h⟩
      · rintro ⟨passed, rest, heq, h⟩
        cases passed with
        | nil =>
            obtain rfl : c :: text = rest := heq
            exact Or.inl h
        | cons _ passed =>
            obtain ⟨rfl, rfl⟩ := List.cons.inj heq
            exact Or.inr ⟨passed, rest, rfl, h⟩

end Pieces

/-! ## What patterns stand for -/

/-- Splitting a pattern into pieces loses nothing of what it stands for. -/
theorem stand_pieces_iff {pattern text : List Char} :
    stand (pieces pattern) text ↔ Fits pattern text := by
  fun_induction pieces pattern generalizing text with
  | case1 =>
      rw [stand_nil_iff]
      constructor
      · rintro rfl
        exact .nil
      · rintro ⟨⟩
        rfl
  | case2 rest ih =>
      rw [stand_star_iff]
      constructor
      · rintro ⟨passed, text, rfl, h⟩
        exact .star passed (ih.mp h)
      · intro h
        cases h with
        | star passed h => exact ⟨passed, _, rfl, ih.mpr h⟩
        | same hstar => exact absurd rfl hstar
  | case3 rest ih =>
      rw [stand_cons_iff (by simp)]
      constructor
      · rintro ⟨c, text, rfl, -, h⟩
        exact .one c (ih.mp h)
      · intro h
        cases h with
        | one c h => exact ⟨c, _, rfl, rfl, ih.mpr h⟩
        | same _ hone => exact absurd rfl hone
  | case4 rest inside after hset ih =>
      rw [stand_cons_iff (by simp)]
      constructor
      · rintro ⟨c, text, rfl, hc, h⟩
        exact .set hset hc (ih.mp h)
      · intro h
        cases h with
        | set hset' hc h =>
            obtain ⟨rfl, rfl⟩ := Prod.mk.inj (Option.some.inj (hset.symm.trans hset'))
            exact ⟨_, _, rfl, hc, ih.mpr h⟩
        | same _ _ hnone => cases hset.symm.trans (hnone rfl)
  | case5 rest hset ih =>
      rw [stand_char_iff]
      constructor
      · rintro ⟨text, rfl, h⟩
        exact .same (by decide) (by decide) (fun _ => hset) (ih.mp h)
      · intro h
        cases h with
        | set hset' => cases hset.symm.trans hset'
        | same _ _ _ h => exact ⟨_, rfl, ih.mpr h⟩
  | case6 c rest hstar hone hbracket ih =>
      rw [stand_char_iff]
      constructor
      · rintro ⟨text, rfl, h⟩
        exact .same hstar hone (fun hc => absurd hc hbracket) (ih.mp h)
      · intro h
        cases h with
        | star => exact absurd rfl hstar
        | one => exact absurd rfl hone
        | set => exact absurd rfl hbracket
        | same _ _ _ h => exact ⟨_, rfl, ih.mpr h⟩

end Glob

/-- A pattern matches exactly the texts that it stands for. -/
theorem globMatches_iff {pattern text : String} :
    globMatches pattern text ↔ Glob.Fits pattern.toList text.toList :=
  Glob.stand_pieces_iff

theorem globMatches_star (text : String) : globMatches "*" text := by
  rw [globMatches_iff, ← List.append_nil text.toList]
  exact .star text.toList .nil

end TableGateway
