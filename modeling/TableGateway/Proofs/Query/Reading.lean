import TableGateway.Proofs.Action
import TableGateway.Proofs.Number.Read
import TableGateway.Query.Basic

namespace TableGateway

/-! ## Fragments -/

theorem SortEntry.isIdentifier_of_read? {item : List Char} {entry : SortEntry}
    (h : SortEntry.read? item = some entry) : isIdentifier entry.field := by
  unfold read? at h
  split at h
  all_goals
    split at h
    · rename_i hname
      cases h
      exact hname
    · cases h

theorem isIdentifier_of_mem_readSort {raw : String} {entry : SortEntry}
    (h : entry ∈ (readSort raw).1) : isIdentifier entry.field := by
  obtain ⟨item, -, hitem⟩ := List.mem_filterMap.mp h
  exact SortEntry.isIdentifier_of_read? hitem

theorem le_of_readCount? {least n : Nat} {raw : String} (h : readCount? least raw = .ok (some n)) :
    least ≤ n := by
  obtain ⟨number, -, h⟩ := bind_eq_ok_iff.mp h
  split at h
  · rename_i k
    split at h
    · rename_i hle
      cases h
      omega
    · cases h
  · cases h

/-- No other name than an identifier becomes a field. -/
theorem Token.isIdentifier_of_read {fragment : String} {c : Clause}
    (h : Token.read fragment = .ok (.clause c)) : isIdentifier c.field := by
  unfold read at h
  split at h
  · cases h
  · dsimp only at h
    split at h
    · split at h <;> cases h
    · split at h
      · rename_i hfield
        obtain ⟨value, -, h⟩ := bind_eq_ok_iff.mp h
        cases h
        exact hfield
      · cases h

/-! ## Soundness of what was read -/

structure Query.Sound (q : Query) : Prop where
  filters : ∀ c ∈ q.filters, isIdentifier c.field
  sort : ∀ entry ∈ q.sort, isIdentifier entry.field
  limit : ∀ n ∈ q.limit, 1 ≤ n

theorem Query.sound_empty : ({} : Query).Sound :=
  ⟨by simp, by simp, by simp⟩

theorem Query.Sound.skip {q : Query} (h : q.Sound) (s : Skipped) : (q.skip s).Sound :=
  ⟨h.filters, h.sort, h.limit⟩

theorem Query.Sound.addFilter {q : Query} (h : q.Sound) {c : Clause}
    (hc : isIdentifier c.field) : (q.addFilter c).Sound := by
  refine ⟨?_, h.sort, h.limit⟩
  intro other hother
  rcases List.mem_append.mp hother with hother | hother
  · exact h.filters other hother
  · rw [List.mem_singleton.mp hother]
    exact hc

/-- Control words keep a query sound. -/
theorem Reading.sound_addControl {r r' : Reading} {word : Control} {raw : String}
    (h : r.query.Sound) (hr' : r.addControl word raw = .ok r') : r'.query.Sound := by
  cases word with
  | sort =>
      cases hr'
      exact ⟨h.filters, fun entry => isIdentifier_of_mem_readSort, h.limit⟩
  | limit =>
      obtain ⟨count, hcount, hr'⟩ := bind_eq_ok_iff.mp hr'
      cases count with
      | none =>
          cases hr'
          exact h.skip _
      | some n =>
          cases hr'
          exact ⟨h.filters, h.sort, by rintro m ⟨⟩; exact le_of_readCount? hcount⟩
  | offset =>
      obtain ⟨count, -, hr'⟩ := bind_eq_ok_iff.mp hr'
      cases count with
      | none =>
          cases hr'
          exact h.skip _
      | some n =>
          cases hr'
          exact ⟨h.filters, h.sort, h.limit⟩

/-- One step of a reading keeps the query sound. -/
theorem Reading.sound_addFragment {r r' : Reading} {fragment : List Char} (h : r.query.Sound)
    (hr' : r.addFragment fragment = .ok r') : r'.query.Sound := by
  obtain ⟨token, htoken, hr'⟩ := bind_eq_ok_iff.mp hr'
  cases token with
  | clause c =>
      cases hr'
      exact h.addFilter (Token.isIdentifier_of_read htoken)
  | control word raw => exact sound_addControl h hr'
  | skipped s =>
      cases hr'
      exact h.skip s

theorem Reading.sound_addAll {r : Reading} (h : r.query.Sound) (rest : List (List Char)) :
    (r.addAll rest).1.query.Sound := by
  induction rest generalizing r with
  | nil => exact h
  | cons fragment rest ih =>
      unfold addAll
      cases hr : r.addFragment fragment with
      | ok r' => exact ih (sound_addFragment h hr)
      | error e => exact h

theorem Query.Sound.complete {q : Query} (h : q.Sound) : q.complete.Sound := by
  unfold Query.complete
  split
  · exact ⟨h.filters, h.sort, by rintro n ⟨⟩; decide⟩
  · exact h

theorem Query.isSome_limit_complete {q : Query} (h : q.complete.offset.isSome) :
    q.complete.limit.isSome := by
  unfold complete at h ⊢
  by_cases hcond : (q.offset.isSome && q.limit.isNone) = true
  · rw [if_pos hcond]
    rfl
  · rw [if_neg hcond] at h ⊢
    simpa [h, Option.isSome_iff_ne_none] using hcond

theorem Query.sound_of_read {raw : String} {q : Query} (h : Query.read raw = .ok q) : q.Sound := by
  unfold read at h
  split at h
  · rename_i reading hreading
    cases h
    have hsound := Reading.sound_addAll (r := {}) Query.sound_empty (fragments raw)
    rw [← Reading.ofText, hreading] at hsound
    exact hsound.complete
  · cases h

theorem Query.isSome_limit_of_read {raw : String} {q : Query} (h : Query.read raw = .ok q)
    (hoffset : q.offset.isSome) : q.limit.isSome := by
  unfold read at h
  split at h
  · cases h
    exact isSome_limit_complete hoffset
  · cases h

/-! ## Readings that break off -/

variable {e : Number.Error}

theorem readCount?_eq_error_iff (least : Nat) {raw : String} :
    readCount? least raw = .error e ↔ Number.read? raw.toList = .error e := by
  unfold readCount?
  cases Number.read? raw.toList with
  | error e' => simp [bind, Except.bind]
  | ok number =>
      simp only [bind, Except.bind, reduceCtorEq, iff_false]
      split
      · simp [pure, Except.pure]
      · simp [pure, Except.pure]

theorem Operator.readValue_eq_error_iff {op : Operator} {raw : String} :
    op.readValue raw = .error e ↔ op ≠ .regex ∧ Number.read? raw.toList = .error e := by
  have htext : Value.ofText raw = .error e ↔ Number.read? raw.toList = .error e := by
    unfold Value.ofText
    cases Number.read? raw.toList with
    | error e' => simp [bind, Except.bind]
    | ok number => cases number <;> simp [bind, Except.bind, pure, Except.pure]
  cases op with
  | regex => simp [readValue]
  | _ => simpa [readValue] using htext

/-- A control word fails only over the number behind it; a sort order has none. -/
theorem Reading.addControl_eq_error_iff {r : Reading} {word : Control} {raw : String} :
    r.addControl word raw = .error e ↔ word ≠ .sort ∧ Number.read? raw.toList = .error e := by
  cases word with
  | sort => simp [addControl, pure, Except.pure]
  | limit =>
      rw [← readCount?_eq_error_iff 1]
      unfold addControl
      cases readCount? 1 raw with
      | error e' => simp [bind, Except.bind]
      | ok count => cases count <;> simp [bind, Except.bind, pure, Except.pure]
  | offset =>
      rw [← readCount?_eq_error_iff 0]
      unfold addControl
      cases readCount? 0 raw with
      | error e' => simp [bind, Except.bind]
      | ok count => cases count <;> simp [bind, Except.bind, pure, Except.pure]

theorem Control.ofName?_eq_some_iff {name : String} {word : Control} :
    Control.ofName? name = some word ↔ name = word.name := by
  constructor
  · intro h
    simpa [eq_comm] using List.find?_some h
  · rintro rfl
    cases word <;> decide

/-- What stands behind an operator and a field is read as a number where it may be one: in a filter
that is no pattern, and in a limit or offset. -/
def ReadsNumber (op : Operator) (field : String) : Prop :=
  op ≠ .regex ∧ isIdentifier field ∧ field ≠ "sort" ∧ (field ∈ ["limit", "offset"] → op = .eq)

theorem readsNumber_control_iff {op : Operator} {word : Control} :
    ReadsNumber op word.name ↔ op = .eq ∧ word ≠ .sort := by
  cases word <;> cases op <;> simp [ReadsNumber, Control.name] <;> decide

theorem readsNumber_iff_of_ofName? {op : Operator} {field : String}
    (h : Control.ofName? field = none) :
    ReadsNumber op field ↔ op ≠ .regex ∧ isIdentifier field := by
  have hne : ∀ word : Control, field ≠ word.name := by
    intro word hname
    rw [Control.ofName?_eq_some_iff.mpr hname] at h
    cases h
  have hsort : field ≠ "sort" := hne .sort
  have hlimit : field ≠ "limit" := hne .limit
  have hoffset : field ≠ "offset" := hne .offset
  simp [ReadsNumber, hsort, hlimit, hoffset]

def HoldsOverlong (text : List Char) (n : Nat) : Prop :=
  ∃ op key raw, findOperator? text = some (op, key, raw) ∧
    ReadsNumber op (String.ofList (takeJoin key).2) ∧ Number.SpellsOverlong raw n

/-- A fragment fails exactly if an integer in it is too long. -/
theorem Reading.addFragment_eq_error_iff {r : Reading} {fragment : List Char} :
    r.addFragment fragment = .error e ↔
      ∃ n, HoldsOverlong (Text.Percent.decode fragment) n ∧ e = .tooLong n := by
  unfold addFragment HoldsOverlong Token.read
  rw [String.toList_ofList]
  cases hfound : findOperator? (Text.Percent.decode fragment) with
  | none => simp [addToken, bind, Except.bind]
  | some found =>
      obtain ⟨op, key, raw⟩ := found
      have hread : Number.read? (String.ofList raw).toList = .error e ↔
          ∃ n, Number.SpellsOverlong raw n ∧ e = .tooLong n := by
        rw [String.toList_ofList, Number.read?_eq_error_iff]
      have hholds : (∃ n, (∃ op' key' raw', some (op, key, raw) = some (op', key', raw') ∧
          ReadsNumber op' (String.ofList (takeJoin key').2) ∧ Number.SpellsOverlong raw' n) ∧
            e = .tooLong n) ↔
          ReadsNumber op (String.ofList (takeJoin key).2) ∧
            Number.read? (String.ofList raw).toList = .error e := by
        rw [hread]
        constructor
        · rintro ⟨n, ⟨_, _, _, ⟨⟩, hnumber, hlong⟩, rfl⟩
          exact ⟨hnumber, n, hlong, rfl⟩
        · rintro ⟨hnumber, n, hlong, rfl⟩
          exact ⟨n, ⟨op, key, raw, rfl, hnumber, hlong⟩, rfl⟩
      rw [hholds]
      dsimp only
      generalize String.ofList (takeJoin key).2 = field
      cases hword : Control.ofName? field with
      | some word =>
          rw [Control.ofName?_eq_some_iff.mp hword, readsNumber_control_iff, and_assoc,
            ← addControl_eq_error_iff (r := r)]
          by_cases hop : op = .eq <;> simp [hop, addToken, bind, Except.bind]
      | none =>
          rw [readsNumber_iff_of_ofName? hword, and_right_comm, ← Operator.readValue_eq_error_iff]
          by_cases hfield : isIdentifier field
          · cases op.readValue (String.ofList raw) <;>
              simp [hfield, addToken, bind, Except.bind, pure, Except.pure]
          · simp [hfield, addToken, bind, Except.bind]

/-- The first of some fragments that holds a number of too many digits holds one of `n`. -/
def BreaksOff (rest : List (List Char)) (n : Nat) : Prop :=
  ∃ front fragment back, rest = front ++ fragment :: back ∧
    (∀ earlier ∈ front, ∀ m, ¬ HoldsOverlong (Text.Percent.decode earlier) m) ∧
    HoldsOverlong (Text.Percent.decode fragment) n

theorem not_breaksOff_nil {n : Nat} : ¬ BreaksOff [] n := by
  simp [BreaksOff]

/-- The first fragment with a number that is too long decides. -/
theorem breaksOff_cons_iff {fragment : List Char} {rest : List (List Char)} {n : Nat} :
    BreaksOff (fragment :: rest) n ↔ HoldsOverlong (Text.Percent.decode fragment) n ∨
      (∀ m, ¬ HoldsOverlong (Text.Percent.decode fragment) m) ∧ BreaksOff rest n := by
  constructor
  · rintro ⟨front, fragment', back, hrest, hfront, hlong⟩
    cases front with
    | nil =>
        cases hrest
        exact Or.inl hlong
    | cons earlier front =>
        cases hrest
        exact Or.inr ⟨hfront fragment (by simp), front, fragment', back, rfl,
          fun other hother => hfront other (List.mem_cons_of_mem _ hother), hlong⟩
  · rintro (hlong | ⟨hfine, front, fragment', back, rfl, hfront, hlong⟩)
    · exact ⟨[], fragment, rest, rfl, by simp, hlong⟩
    · refine ⟨fragment :: front, fragment', back, rfl, ?_, hlong⟩
      intro earlier hearlier
      rcases List.mem_cons.mp hearlier with rfl | hearlier
      · exact hfine
      · exact hfront earlier hearlier

/-- A reading breaks off at the first fragment with a number that is too long. -/
theorem Reading.addAll_eq_error_iff {r : Reading} {rest : List (List Char)} :
    (r.addAll rest).2 = some e ↔ ∃ n, BreaksOff rest n ∧ e = .tooLong n := by
  -- What was read before plays no part, but it changes with each fragment.
  induction rest generalizing r with
  | nil => simp [addAll, not_breaksOff_nil]
  | cons fragment rest ih =>
      simp only [breaksOff_cons_iff]
      unfold addAll
      cases hr : r.addFragment fragment with
      | error e' =>
          obtain ⟨m, hlong, rfl⟩ := addFragment_eq_error_iff.mp hr
          constructor
          · rintro ⟨⟩
            exact ⟨m, Or.inl hlong, rfl⟩
          · rintro ⟨n, hlong' | ⟨hfine, -⟩, rfl⟩
            · have hr' := (addFragment_eq_error_iff (r := r)).mpr ⟨n, hlong', rfl⟩
              exact congrArg some (Except.error.inj (hr.symm.trans hr'))
            · exact absurd hlong (hfine m)
      | ok r' =>
          have hfine : ∀ m, ¬ HoldsOverlong (Text.Percent.decode fragment) m := by
            intro m hlong
            rw [addFragment_eq_error_iff.mpr ⟨m, hlong, rfl⟩] at hr
            cases hr
          refine ih.trans (exists_congr fun n => and_congr_left fun _ => ?_)
          constructor
          · exact fun h => Or.inr ⟨hfine, h⟩
          · rintro (hlong | ⟨-, h⟩)
            · exact absurd hlong (hfine n)
            · exact h

/-- A query is not read exactly if a number in it is too long; all else that is wrong with a query
is skipped. -/
theorem Query.read_eq_error_iff {raw : String} :
    Query.read raw = .error e ↔ ∃ n, BreaksOff (fragments raw) n ∧ e = .tooLong n := by
  rw [← Reading.addAll_eq_error_iff (r := {}), ← Reading.ofText]
  unfold read
  split
  · rename_i reading hreading
    simp [hreading]
  · rename_i e' hreading
    simp [hreading]

end TableGateway
