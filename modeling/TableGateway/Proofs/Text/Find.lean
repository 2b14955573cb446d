import Mathlib.Data.List.Infix
import Mathlib.Data.List.TakeDrop
import TableGateway.Text.Find

namespace TableGateway.Text

variable {mark text rest before after : List Char} {c m : Char}

theorem dropFront?_append (mark after : List Char) :
    dropFront? mark (mark ++ after) = some after := by
  induction mark with
  | nil => rw [List.nil_append, dropFront?]
  | cons m mark ih => rw [List.cons_append, dropFront?, if_pos rfl, ih]

theorem eq_append_of_dropFront? (h : dropFront? mark text = some after) : text = mark ++ after := by
  induction mark generalizing text with
  | nil =>
      rw [dropFront?] at h
      exact Option.some.inj h
  | cons m mark ih =>
      cases text with
      | nil => cases h
      | cons c text =>
          rw [dropFront?] at h
          split at h
          · rename_i hmark
            rw [ih h, hmark, List.cons_append]
          · cases h

/-- Cutting a text at a mark loses nothing but the mark. -/
theorem eq_append_of_cut? (h : cut? mark text = some (before, after)) :
    text = before ++ (mark ++ after) := by
  induction text generalizing before with
  | nil =>
      rw [cut?] at h
      obtain ⟨rest, hfront, heq⟩ := Option.map_eq_some_iff.mp h
      cases heq
      exact (eq_append_of_dropFront? hfront :)
  | cons c text ih =>
      rw [cut?] at h
      split at h
      · rename_i rest hfront
        cases h
        exact (eq_append_of_dropFront? hfront :)
      · obtain ⟨⟨front, back⟩, hcut, heq⟩ := Option.map_eq_some_iff.mp h
        cases heq
        rw [ih hcut, List.cons_append]

theorem infix_of_cut? (h : cut? mark text = some (before, after)) : mark <:+: text := by
  rw [eq_append_of_cut? h, ← List.append_assoc]
  exact ⟨before, after, rfl⟩

/-- A mark is not found exactly if it does not occur. -/
theorem cut?_eq_none_iff : cut? mark text = none ↔ ¬ mark <:+: text := by
  constructor
  · intro h hoccurs
    induction text with
    | nil =>
        obtain rfl := List.eq_nil_of_infix_nil hoccurs
        cases h
    | cons c text ih =>
        rw [cut?] at h
        split at h
        · cases h
        · rename_i hfront
          rcases List.infix_cons_iff.mp hoccurs with ⟨after, hprefix⟩ | hrest
          · rw [← hprefix, dropFront?_append] at hfront
            cases hfront
          · exact ih (Option.map_eq_none_iff.mp h) hrest
  · intro h
    cases hcut : cut? mark text with
    | none => rfl
    | some found => exact absurd (infix_of_cut? hcut) h

theorem cut?_self_append (mark after : List Char) :
    cut? mark (mark ++ after) = some ([], after) := by
  have hfront := dropFront?_append mark after
  cases htext : mark ++ after with
  | nil =>
      rw [htext] at hfront
      rw [cut?, hfront]
      rfl
  | cons c rest =>
      rw [htext] at hfront
      rw [cut?, hfront]

/-- A mark is looked for behind a text in which its first character does not occur. -/
theorem cut?_append (hm : m ∉ before) (mark rest : List Char) :
    cut? (m :: mark) (before ++ rest) =
      (cut? (m :: mark) rest).map fun found => (before ++ found.1, found.2) := by
  induction before with
  | nil => simp
  | cons c before ih =>
      obtain ⟨hc, hbefore⟩ := not_or.mp (mt List.mem_cons.mpr hm)
      rw [List.cons_append, cut?, dropFront?, if_neg hc, ih hbefore]
      dsimp only
      rw [Option.map_map]
      rfl

theorem span_append {p : Char → Bool} (htext : ∀ c ∈ text, p c)
    (hrest : ∀ c ∈ rest.head?, p c = false) : (text ++ rest).span p = (text, rest) := by
  rw [List.span_eq_takeWhile_dropWhile, List.takeWhile_append_of_pos htext,
    List.dropWhile_append_of_pos htext]
  cases rest with
  | nil => simp
  | cons c rest => simp [hrest c rfl]

end TableGateway.Text
