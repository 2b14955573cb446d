import TableGateway.Database.Report
import TableGateway.Proofs.Text.Blank
import TableGateway.Proofs.Text.Mark

/-!
# What is shown of a failure

A failure is shown without the statement and without links. Taking a link out joins what stands on
both sides of it, and across such a joint a mark can come about that was on neither side.
-/

namespace TableGateway

open Text

/-- What must not be shown: the mark of a statement, the mark of one of its lines, a whole link. -/
inductive IsHidden : List Char → Prop
  | statement : IsHidden statementMark
  | line : IsHidden lineMark
  | link {inside : List Char} (h : ')' ∉ inside) : IsHidden (linkMark ++ (inside ++ [')']))

structure IsShowable (text : List Char) : Prop where
  ne_nil : text ≠ []
  free : ∀ mark, IsHidden mark → ¬ mark <:+: text

/-- The pieces of a text between its links. A link takes the blanks in front of it along and ends
at the first parenthesis. -/
inductive Pieces : List Char → List (List Char) → Prop
  | whole {text : List Char}
    (h : ∀ inside, ')' ∉ inside → ¬ linkMark ++ (inside ++ [')']) <:+: text) : Pieces text [text]
  | link {piece blanks inside rest : List Char} {pieces : List (List Char)}
    (hpiece : ¬ linkMark <:+: piece) (hend : ∀ c ∈ piece.getLast?, isBlank c = false)
    (hblanks : ∀ c ∈ blanks, isBlank c) (hinside : ')' ∉ inside) (hrest : Pieces rest pieces) :
    Pieces (piece ++ (blanks ++ (linkMark ++ (inside ++ ')' :: rest)))) (piece :: pieces)

/-- Across a joint between pieces stands what must not be shown: the piece in front ends with the
first part of it and the piece behind begins with the rest. Blanks at the outer ends do not count,
as they are taken off. -/
def JoinsToHidden (pieces : List (List Char)) : Prop :=
  ∃ front back first rest, pieces = front ++ back ∧ IsHidden (first ++ rest) ∧ first ≠ [] ∧
    rest ≠ [] ∧ first <:+ front.flatten.dropWhile isBlank ∧ rest <+: trimEnd back.flatten

def DatabaseError.unmarked (e : DatabaseError) : List Char :=
  before lineMark (before statementMark e.rawMessage.toList)

/-- What is shown of a failure is not fit to be shown: a joint is to blame, or nothing but blanks
was left and the failure's own name is no better. -/
inductive DatabaseError.Exposes (e : DatabaseError) : Prop
  | joint {pieces : List (List Char)} (h : Pieces e.unmarked pieces) (hjoint : JoinsToHidden pieces)
  | name {pieces : List (List Char)} (h : Pieces e.unmarked pieces)
    (hblank : ∀ c ∈ pieces.flatten, isBlank c) (hname : ¬ IsShowable e.name.toList)

variable {text piece blanks inside rest after : List Char} {pieces : List (List Char)} {c : Char}

/-! ## Links -/

theorem dropWhile_append_linkMark (hblanks : ∀ c ∈ blanks, isBlank c) (rest : List Char) :
    (blanks ++ (linkMark ++ rest)).dropWhile isBlank = linkMark ++ rest :=
  dropWhile_isBlank_append hblanks (fun _ hc => Option.some.inj hc ▸ by decide)
    (List.cons_ne_nil '(' _)

theorem dropLink?_append (hinside : ')' ∉ inside) (rest : List Char) :
    dropLink? (linkMark ++ (inside ++ ')' :: rest)) = some rest := by
  have hstop : (inside ++ ')' :: rest).dropWhile (· ≠ ')') = ')' :: rest := by
    rw [List.dropWhile_append_of_pos (by simpa using fun c hc => ne_of_mem_of_not_mem hc hinside)]
    simp
  rw [dropLink?, dropFront?_append]
  simp only [Option.bind_eq_bind, Option.bind_some, hstop]

theorem exists_dropLink? (h : ')' ∈ rest) : ∃ after, dropLink? (linkMark ++ rest) = some after := by
  obtain ⟨inside, after, rfl, hinside⟩ := List.eq_append_cons_of_mem h
  exact ⟨after, dropLink?_append hinside after⟩

/-- A link that is dropped ends at its first closing parenthesis. -/
theorem eq_of_dropLink? (h : dropLink? text = some after) :
    ∃ inside, ')' ∉ inside ∧ text = linkMark ++ (inside ++ ')' :: after) := by
  simp only [dropLink?, Option.bind_eq_bind, Option.bind_eq_some_iff] at h
  obtain ⟨rest, hrest, h⟩ := h
  refine ⟨rest.takeWhile (· ≠ ')'), fun hmem => by simpa using List.mem_takeWhile_imp hmem, ?_⟩
  split at h
  · cases h
  · rename_i c tail hdrop
    have hc : c = ')' := by
      have hhead := List.head?_dropWhile_not (· ≠ ')') rest
      rw [hdrop] at hhead
      simpa using hhead
    cases h
    subst hc
    rw [eq_append_of_dropFront? hrest, ← hdrop, List.takeWhile_append_dropWhile]

theorem removeLinks_of_dropLink? (h : dropLink? (text.dropWhile isBlank) = some after) :
    removeLinks text = removeLinks after := by
  cases text with
  | nil => cases h
  | cons c rest =>
      rw [removeLinks]
      split <;> simp_all

theorem removeLinks_cons (h : dropLink? ((c :: rest).dropWhile isBlank) = none) :
    removeLinks (c :: rest) = c :: removeLinks rest := by
  rw [removeLinks]
  split <;> simp_all

/-! ## Pieces -/

/-- No link begins inside a piece: neither is it whole there, nor does it reach past the end. -/
theorem dropLink?_piece (hne : piece ≠ []) (hpiece : ¬ linkMark <:+: piece)
    (hend : ∀ c ∈ piece.getLast?, isBlank c = false) (hblanks : ∀ c ∈ blanks, isBlank c)
    (rest : List Char) :
    dropLink? ((piece ++ (blanks ++ (linkMark ++ rest))).dropWhile isBlank) = none := by
  -- The piece ends in a character that is no blank, so a link would have to begin inside it.
  have hcore : piece.dropWhile isBlank ≠ [] := by
    intro hnil
    obtain ⟨last, hlast⟩ := Option.isSome_iff_exists.mp (List.getLast?_isSome.mpr hne)
    have hblank := List.dropWhile_eq_nil_iff.mp hnil last (List.mem_of_getLast? hlast)
    rw [hend last hlast] at hblank
    cases hblank
  rw [List.dropWhile_append, if_neg (by simpa using hcore)]
  by_contra hlink
  obtain ⟨after, hafter⟩ := Option.ne_none_iff_exists'.mp hlink
  obtain ⟨inside, -, heq⟩ := eq_of_dropLink? hafter
  have hstarts :
      linkMark <+: piece.dropWhile isBlank ++ (blanks ++ '(' :: (linkMark.tail ++ rest)) :=
    ⟨_, heq.symm⟩
  refine hpiece ((prefix_of_prefix_gap (by decide) ?_ hcore hstarts).isInfix.trans ?_)
  · rintro d hd hblank
    cases hd
    exact absurd (hblanks _ hblank) (by decide)
  · exact (List.dropWhile_suffix _).isInfix

/-- Taking out the first link leaves the piece in front of it, without the blanks between them. -/
theorem removeLinks_piece (hpiece : ¬ linkMark <:+: piece)
    (hend : ∀ c ∈ piece.getLast?, isBlank c = false) (hblanks : ∀ c ∈ blanks, isBlank c)
    (hinside : ')' ∉ inside) (rest : List Char) :
    removeLinks (piece ++ (blanks ++ (linkMark ++ (inside ++ ')' :: rest)))) =
      piece ++ removeLinks rest := by
  induction piece with
  | nil =>
      refine removeLinks_of_dropLink? ?_
      rw [List.nil_append, dropWhile_append_linkMark hblanks, dropLink?_append hinside]
  | cons c piece ih =>
      have hnone := dropLink?_piece (List.cons_ne_nil c piece) hpiece hend hblanks
        (inside ++ ')' :: rest)
      rw [List.cons_append] at hnone
      rw [List.cons_append, removeLinks_cons hnone, ih fun h => hpiece (List.infix_cons h)]
      · rfl
      · intro d hd
        refine hend d ?_
        cases piece with
        | nil => cases hd
        | cons e piece => rwa [List.getLast?_cons_cons]

/-- A text in which no link is closed stays as it is. -/
theorem removeLinks_whole (h : ∀ inside, ')' ∉ inside → ¬ linkMark ++ (inside ++ [')']) <:+: text) :
    removeLinks text = text := by
  induction text with
  | nil => rw [removeLinks]
  | cons c rest ih =>
      have hnone : dropLink? ((c :: rest).dropWhile isBlank) = none := by
        by_contra hlink
        obtain ⟨after, hafter⟩ := Option.ne_none_iff_exists'.mp hlink
        obtain ⟨inside, hinside, heq⟩ := eq_of_dropLink? hafter
        refine h inside hinside (List.IsInfix.trans ?_ (List.dropWhile_suffix isBlank).isInfix)
        rw [heq]
        exact ⟨[], after, by simp⟩
      rw [removeLinks_cons hnone, ih]
      exact fun inside hinside hrest => h inside hinside (List.infix_cons hrest)

/-- Taking out links leaves the pieces, put together. -/
theorem Pieces.removeLinks_eq (h : Pieces text pieces) : removeLinks text = pieces.flatten := by
  induction h with
  | whole h => rw [removeLinks_whole h, List.flatten_singleton]
  | link hpiece hend hblanks hinside hrest ih =>
      rw [removeLinks_piece hpiece hend hblanks hinside, ih, List.flatten_cons]

/-- A character at which no link begins goes to the front of the first piece. -/
theorem Pieces.cons (h : Pieces text pieces)
    (hnone : dropLink? ((c :: text).dropWhile isBlank) = none) :
    ∃ pieces, Pieces (c :: text) pieces := by
  have hfront : ∀ rest, c :: text = linkMark ++ rest → ')' ∉ rest := by
    intro rest heq hmem
    obtain ⟨after, hafter⟩ := exists_dropLink? hmem
    have hdrop := dropWhile_append_linkMark (List.forall_mem_nil _) rest
    rw [List.nil_append] at hdrop
    rw [heq, hdrop, hafter] at hnone
    cases hnone
  cases h with
  | whole h =>
      refine ⟨[c :: text], .whole fun inside hinside hoccurs => ?_⟩
      rcases List.infix_cons_iff.mp hoccurs with ⟨after, hstarts⟩ | hrest
      · rw [List.append_assoc] at hstarts
        exact hfront _ hstarts.symm (by simp)
      · exact h inside hinside hrest
  | @link piece blanks inside rest pieces hpiece hend hblanks hinside hrest =>
      refine ⟨(c :: piece) :: pieces, ?_⟩
      rw [← List.cons_append]
      refine .link ?_ ?_ hblanks hinside hrest
      · intro hoccurs
        rcases List.infix_cons_iff.mp hoccurs with ⟨after, hstarts⟩ | hoccurs
        · refine hfront (after ++ (blanks ++ (linkMark ++ (inside ++ ')' :: rest)))) ?_ (by simp)
          rw [← List.cons_append, ← hstarts, List.append_assoc]
        · exact hpiece hoccurs
      · intro d hd
        cases piece with
        | nil =>
            -- A blank right in front of a link would have gone with it.
            cases hd
            by_contra hblank
            have hall : ∀ d ∈ c :: blanks, isBlank d :=
              List.forall_mem_cons.mpr ⟨by simpa using hblank, hblanks⟩
            have hdrop := dropWhile_append_linkMark hall (inside ++ ')' :: rest)
            rw [List.nil_append, ← List.cons_append, hdrop, dropLink?_append hinside] at hnone
            cases hnone
        | cons e piece =>
            refine hend d ?_
            rwa [List.getLast?_cons_cons] at hd

/-- Every text falls into pieces at its links. -/
theorem exists_pieces (text : List Char) : ∃ pieces, Pieces text pieces := by
  induction text using removeLinks.induct with
  | case1 =>
      refine ⟨[[]], .whole fun inside _ h => ?_⟩
      cases List.eq_nil_of_infix_nil h
  | case2 c rest after hlink ih =>
      obtain ⟨pieces, hpieces⟩ := ih
      obtain ⟨inside, hinside, heq⟩ := eq_of_dropLink? hlink
      refine ⟨[] :: pieces, ?_⟩
      rw [← List.takeWhile_append_dropWhile (p := isBlank) (l := c :: rest), heq,
        ← List.nil_append (_ ++ _)]
      exact .link (by decide) (fun _ h => by cases h) (fun d hd => List.mem_takeWhile_imp hd)
        hinside hpieces
  | case3 c rest hnone ih =>
      obtain ⟨pieces, hpieces⟩ := ih
      exact hpieces.cons hnone

/-! ## Marks -/

theorem IsHidden.ne_nil {mark : List Char} (h : IsHidden mark) : mark ≠ [] := by
  cases h <;> exact List.cons_ne_nil _ _

theorem Pieces.isInfix (h : Pieces text pieces) (hmem : piece ∈ pieces) : piece <:+: text := by
  induction h with
  | whole h => rw [List.mem_singleton.mp hmem]
  | @link front blanks inside rest pieces _ _ _ _ _ ih =>
      rcases List.mem_cons.mp hmem with rfl | hmem
      · exact (List.prefix_append _ _).isInfix
      · refine (ih hmem).trans ⟨front ++ blanks ++ linkMark ++ inside ++ [')'], [], ?_⟩
        simp only [List.append_assoc, List.cons_append, List.nil_append, List.append_nil]

/-- No piece holds a whole link. -/
theorem Pieces.not_isInfix_link (h : Pieces text pieces) (hmem : piece ∈ pieces)
    (hinside : ')' ∉ inside) : ¬ linkMark ++ (inside ++ [')']) <:+: piece := by
  induction h with
  | whole h =>
      rw [List.mem_singleton.mp hmem]
      exact h inside hinside
  | link hpiece _ _ _ _ ih =>
      rcases List.mem_cons.mp hmem with rfl | hmem
      · exact fun hlink => hpiece ((List.prefix_append _ _).isInfix.trans hlink)
      · exact ih hmem

theorem not_statementMark_infix_unmarked (e : DatabaseError) :
    ¬ statementMark <:+: e.unmarked := fun h =>
  not_isInfix_before (by decide) _ (h.trans (before_isPrefix lineMark _).isInfix)

theorem not_lineMark_infix_unmarked (e : DatabaseError) : ¬ lineMark <:+: e.unmarked :=
  not_isInfix_before (by decide) _

theorem Pieces.not_isInfix_hidden {e : DatabaseError} {mark : List Char}
    (h : Pieces e.unmarked pieces) (hmem : piece ∈ pieces) (hmark : IsHidden mark) :
    ¬ mark <:+: piece := by
  have hoccurs := h.isInfix hmem
  cases hmark with
  | statement => exact fun hin => not_statementMark_infix_unmarked e (hin.trans hoccurs)
  | line => exact fun hin => not_lineMark_infix_unmarked e (hin.trans hoccurs)
  | link hinside => exact h.not_isInfix_link hmem hinside

/-- What stands behind a mark does not matter, whichever mark it is. -/
theorem before_marks_append {mark : List Char} (hmark : mark = statementMark ∨ mark = lineMark)
    (front back : List Char) :
    before lineMark (before statementMark (front ++ (mark ++ back))) =
      before lineMark (before statementMark front) := by
  rcases hmark with rfl | rfl
  · have hstatement : before statementMark (front ++ (statementMark ++ back)) =
        before statementMark front :=
      before_append_mark (by decide) front back
    rw [hstatement]
  · by_cases h : statementMark <:+: front
    · rw [before_append_of_isInfix h]
    · have hline : before statementMark (lineMark ++ back) =
          lineMark ++ before statementMark back :=
        before_append_of_notMem (by decide) _ back
      have hfront : before statementMark (front ++ (lineMark ++ back)) =
          front ++ before statementMark (lineMark ++ back) :=
        before_append_of_not_isInfix (by decide) h _
      rw [hfront, hline, before_eq_self h]
      exact before_append_mark (by decide) front _

/-! ## Joints -/

/-- Pieces that hold nothing hidden show something hidden exactly if a joint makes it. -/
theorem joinsToHidden_iff
    (hpieces : ∀ piece ∈ pieces, ∀ mark, IsHidden mark → ¬ mark <:+: piece) :
    JoinsToHidden pieces ↔ ∃ mark, IsHidden mark ∧ mark <:+: trim pieces.flatten := by
  constructor
  · rintro ⟨front, back, first, rest, rfl, hmark, hfirst, hrest, ⟨before, hfront⟩, ⟨after, hback⟩⟩
    refine ⟨first ++ rest, hmark, before, after, ?_⟩
    rw [List.flatten_append, trim_append_of_ne_nil, ← hfront, ← hback]
    · simp only [List.append_assoc]
    · rw [← hfront]
      exact List.append_ne_nil_of_right_ne_nil before hfirst
    · rw [← hback]
      exact List.append_ne_nil_of_left_ne_nil hrest after
  · rintro ⟨mark, hmark, before, after, hoccurs⟩
    obtain ⟨lead, trail, hflatten, hlead, htrail⟩ := exists_trim pieces.flatten
    have hsplit : pieces.flatten = (lead ++ before) ++ (mark ++ (after ++ trail)) := by
      rw [hflatten, ← hoccurs]
      simp only [List.append_assoc]
    obtain ⟨front, back, first, rest, rfl, rfl, hfirst, hrest, hfront, hback⟩ :=
      exists_joint hmark.ne_nil (fun piece hpiece => hpieces piece hpiece mark hmark) hsplit
    have hstarts : before ++ first <+: trim (front ++ back).flatten :=
      ⟨rest ++ after, by rw [← hoccurs]; simp only [List.append_assoc]⟩
    have hsuffix : rest ++ after <:+ trim (front ++ back).flatten :=
      ⟨before ++ first, by rw [← hoccurs]; simp only [List.append_assoc]⟩
    refine ⟨front, back, first, rest, rfl, hmark, hfirst, hrest, ⟨before, ?_⟩, ⟨after, ?_⟩⟩
    · rw [hfront, List.append_assoc, dropWhile_isBlank_append hlead]
      · exact fun c hc => isBlank_head_of_prefix_trim hstarts hc
      · exact List.append_ne_nil_of_right_ne_nil before hfirst
    · rw [hback, ← List.append_assoc, trimEnd_append htrail]
      · exact fun c hc => isBlank_last_of_suffix_trim hsuffix hc
      · exact List.append_ne_nil_of_left_ne_nil hrest after

theorem isShowable_of_notMem (hne : text ≠ []) (hstatement : '[' ∉ text) (hline : '\n' ∉ text)
    (hlink : '(' ∉ text) : IsShowable text := by
  refine ⟨hne, fun mark hmark hoccurs => ?_⟩
  cases hmark with
  | statement => exact hstatement (hoccurs.subset List.mem_cons_self)
  | line => exact hline (hoccurs.subset List.mem_cons_self)
  | link hinside => exact hlink (hoccurs.subset List.mem_cons_self)

/-! ## Messages -/

def DatabaseError.unlinked (e : DatabaseError) : List Char :=
  trim (removeLinks e.unmarked)

theorem DatabaseError.toList_message (e : DatabaseError) :
    e.message.toList = if e.unlinked = [] then e.name.toList else e.unlinked := by
  have hshown : scrub e.rawMessage.toList = e.unlinked := rfl
  simp only [message, hshown, apply_ite String.toList, String.toList_ofList]
  by_cases hnil : e.unlinked = []
  · rw [if_pos hnil, hnil]
    rfl
  · rw [if_neg hnil, if_neg]
    simpa using hnil

theorem DatabaseError.joinsToHidden_iff {e : DatabaseError} (h : Pieces e.unmarked pieces) :
    JoinsToHidden pieces ↔ ∃ mark, IsHidden mark ∧ mark <:+: e.unlinked := by
  rw [unlinked, h.removeLinks_eq]
  exact TableGateway.joinsToHidden_iff fun piece hpiece mark hmark =>
    h.not_isInfix_hidden hpiece hmark

/-- What is shown is unfit exactly if something hidden is in the text without links, or if nothing
is left of it and the failure's name is unfit. -/
theorem DatabaseError.exposes_iff (e : DatabaseError) :
    e.Exposes ↔ (∃ mark, IsHidden mark ∧ mark <:+: e.unlinked) ∨
      e.unlinked = [] ∧ ¬ IsShowable e.name.toList := by
  constructor
  · rintro (⟨h, hjoint⟩ | ⟨h, hblank, hname⟩)
    · exact Or.inl ((joinsToHidden_iff h).mp hjoint)
    · rw [← h.removeLinks_eq] at hblank
      exact Or.inr ⟨trim_eq_nil_iff.mpr hblank, hname⟩
  · obtain ⟨pieces, h⟩ := exists_pieces e.unmarked
    rintro (hmark | ⟨hnil, hname⟩)
    · exact .joint h ((joinsToHidden_iff h).mpr hmark)
    · refine .name h ?_ hname
      rw [← h.removeLinks_eq]
      exact trim_eq_nil_iff.mp hnil

theorem DatabaseError.not_isShowable_of_isInfix {e : DatabaseError} {mark : List Char}
    (hmark : IsHidden mark) (hoccurs : mark <:+: e.unlinked) : ¬ IsShowable e.message.toList := by
  have hne : e.unlinked ≠ [] := by
    intro hnil
    rw [hnil] at hoccurs
    exact hmark.ne_nil (List.eq_nil_of_infix_nil hoccurs)
  rw [e.toList_message, if_neg hne]
  exact fun h => h.free mark hmark hoccurs

/-- **What is shown of a failure.** The message of a failure is not empty and holds no mark of a
statement and no link, exactly if no joint between pieces makes one and, where only blanks are left,
the failure's own name is fit to be shown. -/
theorem isShowable_message_iff (e : DatabaseError) :
    IsShowable e.message.toList ↔ ¬ e.Exposes := by
  rw [e.exposes_iff]
  constructor
  · rintro h (⟨mark, hmark, hoccurs⟩ | ⟨hnil, hname⟩)
    · exact DatabaseError.not_isShowable_of_isInfix hmark hoccurs h
    · rw [e.toList_message, if_pos hnil] at h
      exact hname h
  · intro h
    obtain ⟨hfree, hnamed⟩ := not_or.mp h
    rw [e.toList_message]
    split
    · rename_i hnil
      by_contra hname
      exact hnamed ⟨hnil, hname⟩
    · rename_i hne
      exact ⟨hne, fun mark hmark hoccurs => hfree ⟨mark, hmark, hoccurs⟩⟩

def splitReport : DatabaseError where
  name := "DataError"
  text := "bad value: [SQ (Background on this error at: x)L: secret]"

theorem pieces_splitReport :
    Pieces splitReport.unmarked ["bad value: [SQ".toList, "L: secret]".toList] := by
  have hunmarked : splitReport.unmarked = "bad value: [SQ".toList ++
      ([' '] ++ (linkMark ++ (" x".toList ++ ')' :: "L: secret]".toList))) := by
    decide
  have hlast : ∀ inside, ')' ∉ inside →
      ¬ linkMark ++ (inside ++ [')']) <:+: "L: secret]".toList := by
    intro inside _ hoccurs
    have hmem : '(' ∈ "L: secret]".toList := hoccurs.subset List.mem_cons_self
    exact absurd hmem (by decide)
  have hend : "bad value: [SQ".toList.getLast? = some 'Q' := by decide
  rw [hunmarked]
  refine .link (by decide) ?_ (List.forall_mem_singleton.mpr (by decide)) (by decide) (.whole hlast)
  rw [hend]
  rintro c ⟨⟩
  decide

/-- A link in the middle of a mark keeps the mark from being found until the link is gone. -/
theorem not_isShowable_splitReport :
    ¬ ∀ e : DatabaseError, IsShowable e.name.toList → IsShowable e.message.toList := by
  intro hall
  have hname : IsShowable splitReport.name.toList :=
    isShowable_of_notMem (by decide) (by decide) (by decide) (by decide)
  have hjoint : JoinsToHidden ["bad value: [SQ".toList, "L: secret]".toList] :=
    ⟨["bad value: [SQ".toList], ["L: secret]".toList], "[SQ".toList, "L:".toList, rfl, .statement,
      by decide, by decide, by decide, by decide⟩
  obtain ⟨mark, hmark, hoccurs⟩ := (DatabaseError.joinsToHidden_iff pieces_splitReport).mp hjoint
  exact DatabaseError.not_isShowable_of_isInfix hmark hoccurs (hall splitReport hname)

end TableGateway
