import TableGateway.Proofs.Text.Find

namespace TableGateway.Text

variable {mark text front gap back lead trail : List Char} {c : Char}

theorem dropFront?_eq_none_iff : dropFront? mark text = none ↔ ¬ mark <+: text := by
  constructor
  · rintro h ⟨after, rfl⟩
    rw [dropFront?_append] at h
    cases h
  · intro h
    cases hfront : dropFront? mark text with
    | none => rfl
    | some after => exact absurd ⟨after, (eq_append_of_dropFront? hfront).symm⟩ h

/-- A mark at the front of a text does not reach across a gap to a character that it holds at most
at its own front. -/
theorem prefix_of_prefix_gap (hc : c ∉ mark.tail) (hlast : ∀ d ∈ mark.getLast?, d ∉ gap)
    (hfront : front ≠ []) (h : mark <+: front ++ (gap ++ c :: back)) : mark <+: front := by
  obtain ⟨after, h⟩ := h
  rcases List.append_eq_append_iff.mp h with ⟨extra, hextra, -⟩ | ⟨extra, rfl, hextra⟩
  · exact ⟨extra, hextra.symm⟩
  · by_cases hnil : extra = []
    · rw [hnil, List.append_nil]
    · obtain ⟨last, hend⟩ := Option.isSome_iff_exists.mp (List.getLast?_isSome.mpr hnil)
      have hgap : last ∉ gap :=
        hlast last (by rwa [List.getLast?_append_of_ne_nil _ hnil, Option.mem_def])
      have hmem := List.mem_of_getLast? hend
      rcases List.append_eq_append_iff.mp hextra with ⟨past, hpast, hback⟩ | ⟨past, hpast, -⟩
      · cases past with
        | nil => exact absurd (by rwa [hpast, List.append_nil] at hmem) hgap
        | cons d past =>
            obtain ⟨rfl, -⟩ := List.cons.inj hback
            rw [List.tail_append_of_ne_nil hfront, hpast] at hc
            exact absurd (by simp) hc
      · exact absurd (hpast ▸ List.mem_append_left past hmem) hgap

theorem prefix_of_prefix_cons (hc : c ∉ mark.tail) (hfront : front ≠ [])
    (h : mark <+: front ++ c :: back) : mark <+: front := by
  have hgap : mark <+: front ++ ([] ++ c :: back) := h
  exact prefix_of_prefix_gap hc (fun _ _ => List.not_mem_nil) hfront hgap

theorem before_of_isPrefix (h : mark <+: text) : before mark text = [] := by
  obtain ⟨after, rfl⟩ := h
  rw [before, cut?_self_append]
  rfl

theorem before_cons (h : ¬ mark <+: c :: text) :
    before mark (c :: text) = c :: before mark text := by
  rw [before, cut?, dropFront?_eq_none_iff.mpr h, before]
  cases cut? mark text <;> rfl

theorem before_eq_self (h : ¬ mark <:+: text) : before mark text = text := by
  rw [before, cut?_eq_none_iff.mpr h]
  rfl

theorem before_isPrefix (mark text : List Char) : before mark text <+: text := by
  rw [before]
  cases hcut : cut? mark text with
  | none => exact List.prefix_refl text
  | some found => exact ⟨mark ++ found.2, (eq_append_of_cut? hcut).symm⟩

/-- No mark is left in front of its first occurrence. -/
theorem not_isInfix_before (hmark : mark ≠ []) (text : List Char) :
    ¬ mark <:+: before mark text := by
  induction text with
  | nil =>
      intro h
      exact hmark (List.eq_nil_of_infix_nil (h.trans (before_isPrefix mark []).isInfix))
  | cons c text ih =>
      by_cases hfront : mark <+: c :: text
      · rw [before_of_isPrefix hfront]
        exact fun h => hmark (List.eq_nil_of_infix_nil h)
      · rw [before_cons hfront]
        intro h
        rcases List.infix_cons_iff.mp h with hstarts | hrest
        · refine hfront (hstarts.trans ?_)
          exact List.prefix_cons_inj c |>.mpr (before_isPrefix mark text)
        · exact ih hrest

theorem before_append_of_notMem (hc : c ∉ front) (mark back : List Char) :
    before (c :: mark) (front ++ back) = front ++ before (c :: mark) back := by
  rw [before, cut?_append hc, before]
  cases cut? (c :: mark) back <;> rfl

/-- What follows a mark does not matter to what stands before its first occurrence. -/
theorem before_append_of_isInfix (h : mark <:+: front) (back : List Char) :
    before mark (front ++ back) = before mark front := by
  induction front with
  | nil =>
      rw [List.eq_nil_of_infix_nil h, before_of_isPrefix (List.nil_prefix),
        before_of_isPrefix List.nil_prefix]
  | cons c front ih =>
      by_cases hfront : mark <+: c :: front
      · rw [before_of_isPrefix hfront, before_of_isPrefix (hfront.trans (List.prefix_append _ _))]
      · have hrest := (List.infix_cons_iff.mp h).resolve_left hfront
        have hlonger : ¬ mark <+: c :: (front ++ back) := by
          intro hstarts
          have hlength := hrest.length_le.trans (Nat.le_succ front.length)
          exact hfront (List.prefix_of_prefix_length_le hstarts (List.prefix_append _ back) hlength)
        rw [List.cons_append, before_cons hlonger, before_cons hfront, ih hrest]

/-- A mark that does not occur in the front is looked for behind it, if it cannot reach out. -/
theorem before_append_of_not_isInfix (hc : c ∉ mark.tail) (h : ¬ mark <:+: front)
    (back : List Char) :
    before mark (front ++ c :: back) = front ++ before mark (c :: back) := by
  induction front with
  | nil => rfl
  | cons d front ih =>
      have hfront : ¬ mark <+: d :: (front ++ c :: back) := fun hstarts =>
        h (prefix_of_prefix_cons hc (List.cons_ne_nil d front) hstarts).isInfix
      rw [List.cons_append, before_cons hfront, ih fun hrest => h (List.infix_cons hrest),
        List.cons_append]

theorem before_append_mark (hc : c ∉ mark) (front back : List Char) :
    before (c :: mark) (front ++ (c :: mark ++ back)) = before (c :: mark) front := by
  by_cases h : c :: mark <:+: front
  · exact before_append_of_isInfix h _
  · rw [List.cons_append, before_append_of_not_isInfix hc h, ← List.cons_append,
      before_of_isPrefix (List.prefix_append _ _), List.append_nil, before_eq_self h]

/-- A mark in a row of parts none of which holds it lies across a joint. -/
theorem exists_joint {parts : List (List Char)} (hmark : mark ≠ [])
    (hparts : ∀ part ∈ parts, ¬ mark <:+: part) (h : parts.flatten = lead ++ (mark ++ trail)) :
    ∃ front back first rest, parts = front ++ back ∧ mark = first ++ rest ∧ first ≠ [] ∧
      rest ≠ [] ∧ front.flatten = lead ++ first ∧ back.flatten = rest ++ trail := by
  induction parts generalizing lead with
  | nil =>
      have hnil := (List.append_eq_nil_iff.mp (List.append_eq_nil_iff.mp h.symm).2).1
      exact absurd hnil hmark
  | cons part parts ih =>
      rw [List.flatten_cons] at h
      -- The first part ends before the mark, inside it or behind it.
      by_cases hlead : part <+: lead
      · obtain ⟨extra, rfl⟩ := hlead
        rw [List.append_assoc, List.append_cancel_left_eq] at h
        obtain ⟨front, back, first, rest, rfl, hsplit, hfirst, hrest, hfront, hback⟩ :=
          ih (fun other hother => hparts other (List.mem_cons_of_mem part hother)) h
        refine ⟨part :: front, back, first, rest, rfl, hsplit, hfirst, hrest, ?_, hback⟩
        rw [List.flatten_cons, hfront, List.append_assoc]
      · obtain ⟨first, hpart, hmarkTrail⟩ :
            ∃ first, part = lead ++ first ∧ mark ++ trail = first ++ parts.flatten := by
          rcases List.append_eq_append_iff.mp h with ⟨extra, hextra, -⟩ | ⟨extra, hextra, htrail⟩
          · exact absurd ⟨extra, hextra.symm⟩ hlead
          · exact ⟨extra, hextra, htrail⟩
        rcases List.append_eq_append_iff.mp hmarkTrail with
          ⟨rest, hfirst, -⟩ | ⟨rest, hsplit, hrest⟩
        · refine absurd ⟨lead, rest, ?_⟩ (hparts part List.mem_cons_self)
          rw [hpart, hfirst, List.append_assoc]
        · refine ⟨[part], parts, first, rest, rfl, hsplit, ?_, ?_, by simpa using hpart, hrest⟩
          · rintro rfl
            exact hlead (by rw [hpart, List.append_nil])
          · rintro rfl
            refine hparts part List.mem_cons_self ⟨lead, [], ?_⟩
            rw [hpart, hsplit, List.append_nil, List.append_nil]

end TableGateway.Text
