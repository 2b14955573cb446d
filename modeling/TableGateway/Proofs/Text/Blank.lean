import Mathlib.Data.List.TakeWhile
import TableGateway.Text.Blank

namespace TableGateway.Text

variable {lead core trail text : List Char}

theorem exists_trim (text : List Char) :
    ∃ lead trail, text = lead ++ trim text ++ trail ∧ (∀ c ∈ lead, isBlank c) ∧
      ∀ c ∈ trail, isBlank c := by
  let rest := text.dropWhile isBlank
  refine ⟨text.takeWhile isBlank, (rest.reverse.takeWhile isBlank).reverse, ?_, ?_, ?_⟩
  · have hback : rest = trim text ++ (rest.reverse.takeWhile isBlank).reverse := by
      rw [trim, trimEnd, ← List.reverse_append, List.takeWhile_append_dropWhile,
        List.reverse_reverse]
    rw [List.append_assoc, ← hback, List.takeWhile_append_dropWhile]
  · exact fun c hc => List.mem_takeWhile_imp hc
  · exact fun c hc => List.mem_takeWhile_imp (List.mem_reverse.mp hc)

theorem dropWhile_isBlank_append (hlead : ∀ c ∈ lead, isBlank c)
    (hcore : ∀ c ∈ core.head?, isBlank c = false) (hne : core ≠ []) :
    (lead ++ core).dropWhile isBlank = core := by
  rw [List.dropWhile_append_of_pos hlead]
  cases core with
  | nil => exact absurd rfl hne
  | cons c rest => simp [hcore c rfl]

theorem trimEnd_append (htrail : ∀ c ∈ trail, isBlank c)
    (hlast : ∀ c ∈ core.getLast?, isBlank c = false) (hne : core ≠ []) :
    trimEnd (core ++ trail) = core := by
  have hback : (trail.reverse ++ core.reverse).dropWhile isBlank = core.reverse := by
    refine dropWhile_isBlank_append (by simpa using htrail) ?_ (by simpa using hne)
    rwa [List.head?_reverse]
  rw [trimEnd, List.reverse_append, hback, List.reverse_reverse]

/-- Blanks around a text that has none at its ends are taken off. -/
theorem trim_append (hlead : ∀ c ∈ lead, isBlank c) (htrail : ∀ c ∈ trail, isBlank c)
    (hhead : ∀ c ∈ core.head?, isBlank c = false)
    (hlast : ∀ c ∈ core.getLast?, isBlank c = false) (hne : core ≠ []) :
    trim (lead ++ core ++ trail) = core := by
  have hfront : (lead ++ core ++ trail).dropWhile isBlank = core ++ trail := by
    rw [List.append_assoc]
    refine dropWhile_isBlank_append hlead ?_ (by simp [hne])
    cases core with
    | nil => exact absurd rfl hne
    | cons first core => exact hhead
  rw [trim, hfront, trimEnd_append htrail hlast hne]

theorem trim_eq_self (h : ∀ c ∈ core, isBlank c = false) : trim core = core := by
  by_cases hne : core = []
  · subst hne
    rfl
  · have htrim := trim_append (List.forall_mem_nil _) (List.forall_mem_nil _)
      (fun c hc => h c (List.mem_of_mem_head? hc)) (fun c hc => h c (List.mem_of_mem_getLast? hc))
      hne
    rwa [List.nil_append, List.append_nil] at htrim

theorem trim_eq_nil_iff : trim text = [] ↔ ∀ c ∈ text, isBlank c := by
  constructor
  · intro h
    obtain ⟨lead, trail, htext, hlead, htrail⟩ := exists_trim text
    rw [htext, h, List.append_nil]
    exact List.forall_mem_append.mpr ⟨hlead, htrail⟩
  · intro h
    rw [trim, List.dropWhile_eq_nil_iff.mpr h]
    rfl

section Ends

variable {front back : List Char} {c : Char}

theorem isBlank_head_of_dropWhile (h : front <+: text.dropWhile isBlank) (hc : c ∈ front.head?) :
    isBlank c = false := by
  have hhead := List.head?_dropWhile_not isBlank text
  obtain ⟨tail, htail⟩ := h
  rw [← htail, List.head?_append, Option.mem_def.mp hc] at hhead
  simpa using hhead

theorem isBlank_head_of_prefix_trim (h : front <+: trim text) (hc : c ∈ front.head?) :
    isBlank c = false := by
  have htrim : trim text <+: text.dropWhile isBlank := by
    rw [trim, trimEnd, ← List.reverse_suffix, List.reverse_reverse]
    exact List.dropWhile_suffix _
  exact isBlank_head_of_dropWhile (h.trans htrim) hc

theorem isBlank_last_of_suffix_trim (h : back <:+ trim text) (hc : c ∈ back.getLast?) :
    isBlank c = false := by
  rw [trim, trimEnd, ← List.reverse_prefix, List.reverse_reverse] at h
  exact isBlank_head_of_dropWhile h (by rwa [List.head?_reverse])

/-- Of two parts that are not blank, each loses the blanks at its own outer end. -/
theorem trim_append_of_ne_nil (hfront : front.dropWhile isBlank ≠ []) (hback : trimEnd back ≠ []) :
    trim (front ++ back) = front.dropWhile isBlank ++ trimEnd back := by
  have hlast : back.reverse.dropWhile isBlank ≠ [] := by
    rwa [trimEnd, ne_eq, List.reverse_eq_nil_iff] at hback
  rw [trim, List.dropWhile_append, if_neg (by simpa using hfront), trimEnd, List.reverse_append,
    List.dropWhile_append, if_neg (by simpa using hlast), List.reverse_append, List.reverse_reverse,
    trimEnd]

end Ends

end TableGateway.Text
