import Mathlib.Algebra.GroupWithZero.Nat

namespace TableGateway.Text

variable {c : Char} {sep : String} {texts : List String}

theorem toList_intercalate_cons (sep first : String) (rest : List String) :
    ∃ tail, (sep.intercalate (first :: rest)).toList = first.toList ++ tail := by
  rw [String.toList_intercalate]
  cases rest with
  | nil => exact ⟨[], by simp⟩
  | cons next rest =>
      rw [List.map_cons, List.map_cons, List.intercalate_cons_cons, List.append_assoc]
      exact ⟨_, rfl⟩

/-- A character that is not in the separator occurs as often as in the texts together. -/
theorem count_intercalate (hsep : c ∉ sep.toList) (texts : List String) :
    (sep.intercalate texts).toList.count c = (texts.map fun text => text.toList.count c).sum := by
  rw [String.toList_intercalate]
  induction texts with
  | nil => simp
  | cons first rest ih =>
      cases rest with
      | nil => simp
      | cons next rest =>
          rw [List.map_cons, List.map_cons, List.intercalate_cons_cons, List.count_append,
            List.count_append, List.count_eq_zero.mpr hsep, Nat.add_zero, ← List.map_cons, ih]
          exact List.sum_cons.symm

theorem notMem_intercalate (hsep : c ∉ sep.toList) (h : ∀ text ∈ texts, c ∉ text.toList) :
    c ∉ (sep.intercalate texts).toList := by
  rw [← List.count_eq_zero, count_intercalate hsep, List.sum_eq_zero_iff_forall_eq_nat]
  intro count hcount
  obtain ⟨text, htext, rfl⟩ := List.mem_map.mp hcount
  exact List.count_eq_zero.mpr (h text htext)

/-- Each of the joined texts can be found in the whole. -/
theorem isInfix_intercalate (sep : String) {text : String} (h : text ∈ texts) :
    text.toList <:+: (sep.intercalate texts).toList := by
  rw [String.toList_intercalate]
  induction texts with
  | nil => cases h
  | cons first rest ih =>
      cases rest with
      | nil => exact ⟨[], [], by simp [List.mem_singleton.mp h]⟩
      | cons next rest =>
          rw [List.map_cons, List.map_cons, List.intercalate_cons_cons, ← List.map_cons]
          rcases List.mem_cons.mp h with rfl | h
          · rw [List.append_assoc]
            exact (List.prefix_append _ _).isInfix
          · exact (ih h).trans (List.suffix_append _ _).isInfix

/-- Between two rows of parts stands one more separator. -/
theorem intercalate_append (sep : List Char) {front rest : List (List Char)} (hfront : front ≠ [])
    (hrest : rest ≠ []) :
    sep.intercalate (front ++ rest) = sep.intercalate front ++ sep ++ sep.intercalate rest := by
  obtain ⟨next, rest, rfl⟩ := List.exists_cons_of_ne_nil hrest
  induction front with
  | nil => exact absurd rfl hfront
  | cons first front ih =>
      cases front with
      | nil => rw [List.singleton_append, List.intercalate_cons_cons, List.intercalate_singleton]
      | cons second front =>
          rw [List.cons_append, List.cons_append, List.intercalate_cons_cons, ← List.cons_append,
            ih (List.cons_ne_nil _ _), List.intercalate_cons_cons]
          simp only [List.append_assoc]

/-- Rows of parts that were joined, joined again, are all parts joined at once. -/
theorem intercalate_map_intercalate (sep : List Char) {rows : List (List (List Char))}
    (h : ∀ row ∈ rows, row ≠ []) :
    sep.intercalate (rows.map sep.intercalate) = sep.intercalate rows.flatten := by
  induction rows with
  | nil => rfl
  | cons row rows ih =>
      cases rows with
      | nil => simp
      | cons next rows =>
          have hrest : (next :: rows).flatten ≠ [] := by
            rw [List.flatten_cons]
            exact List.append_ne_nil_of_left_ne_nil (h next (by simp)) _
          have htail := ih fun other hother => h other (List.mem_cons_of_mem row hother)
          calc sep.intercalate ((row :: next :: rows).map sep.intercalate)
              = sep.intercalate row ++ sep ++
                  sep.intercalate ((next :: rows).map sep.intercalate) :=
                List.intercalate_cons_cons
            _ = sep.intercalate row ++ sep ++ sep.intercalate (next :: rows).flatten := by
                rw [htail]
            _ = sep.intercalate (row :: next :: rows).flatten :=
                (intercalate_append sep (h row List.mem_cons_self) hrest).symm

/-- The first place of a character splits a text in one way only. -/
theorem eq_of_append_cons_eq {front front' rest rest' : List Char} (hfront : c ∉ front)
    (hfront' : c ∉ front') (h : front ++ c :: rest = front' ++ c :: rest') :
    front = front' ∧ rest = rest' := by
  induction front generalizing front' with
  | nil =>
      cases front' with
      | nil => exact ⟨rfl, (List.cons.inj h).2⟩
      | cons d front' => exact absurd (by simp [(List.cons.inj h).1]) hfront'
  | cons d front ih =>
      cases front' with
      | nil => exact absurd (by simp [(List.cons.inj h).1]) hfront
      | cons d' front' =>
          obtain ⟨hd, htail⟩ := List.cons.inj h
          obtain ⟨hsame, hrest⟩ := ih (fun hc => hfront (List.mem_cons_of_mem _ hc))
            (fun hc => hfront' (List.mem_cons_of_mem _ hc)) htail
          exact ⟨by rw [hd, hsame], hrest⟩

/-- Parts without the first character of the separator can be told apart again. -/
theorem eq_of_intercalate_eq {sep : List Char} {parts others : List (List Char)}
    (hparts : ∀ part ∈ parts, c ∉ part) (hothers : ∀ part ∈ others, c ∉ part)
    (hlength : parts.length = others.length)
    (h : (c :: sep).intercalate parts = (c :: sep).intercalate others) : parts = others := by
  induction parts generalizing others with
  | nil => exact (List.length_eq_zero_iff.mp hlength.symm).symm
  | cons part parts ih =>
      cases others with
      | nil => simp at hlength
      | cons other others =>
          have hlength : parts.length = others.length := by simpa using hlength
          have htail := ih (fun p hp => hparts p (List.mem_cons_of_mem _ hp))
            (fun p hp => hothers p (List.mem_cons_of_mem _ hp)) hlength
          -- A separator stands behind a part only if another one follows.
          cases parts with
          | nil =>
              cases List.length_eq_zero_iff.mp hlength.symm
              simpa using h
          | cons next parts =>
              cases others with
              | nil => simp at hlength
              | cons next' others =>
                  simp only [List.intercalate_cons_cons, List.append_assoc, List.cons_append] at h
                  obtain ⟨hfirst, hrest⟩ :=
                    eq_of_append_cons_eq (hparts part (by simp)) (hothers other (by simp)) h
                  rw [hfirst, htail (List.append_cancel_left hrest)]

end TableGateway.Text
