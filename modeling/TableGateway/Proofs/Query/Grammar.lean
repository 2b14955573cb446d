import TableGateway.Proofs.Action
import TableGateway.Proofs.Query.Fragment

/-!
# The grammar of a fragment

A fragment is read as the clause or the control word that it spells, and what spells neither is
skipped whole. One thing is let through beside the grammar: a line end behind the name of a field.
-/

namespace TableGateway

open Text

/-- A fragment is a mark for OR or none, a key, an operator and a raw value, and no operator that is
looked for before that one occurs anywhere in it. -/
structure Spells (fragment : String) (join : Join) (key : String) (op : Operator) (raw : String) :
    Prop where
  text : fragment = join.mark ++ key ++ op.symbol ++ raw
  first : ∀ earlier ∈ Operator.searchOrder.takeWhile (· ≠ op),
    ¬ earlier.symbol.toList <:+: fragment.toList

/-- A fragment spells a clause on a plain name that is no control word. What a pattern is compared
with is the raw value itself, anything else is what the raw value is read as. -/
structure SpellsClause (fragment : String) (c : Clause) : Prop where
  plain : Sql.IsPlainName c.field
  free : c.field ∉ ["sort", "limit", "offset"]
  spelled : ∃ raw, Spells fragment c.join c.field c.op raw ∧
    if c.op = .regex then c.value = .text raw else Value.ofText raw = .ok c.value

def SpellsControl (fragment : String) (word : Control) (raw : String) : Prop :=
  ∃ join, Spells fragment join word.name .eq raw

/-- A fragment is read by the grammar: as what it spells, or as skipped. -/
structure KeepsToGrammar (fragment : String) (token : Token) : Prop where
  clause : ∀ c, token = .clause c ↔ SpellsClause fragment c
  control : ∀ word raw, token = .control word raw ↔ SpellsControl fragment word raw
  other : (∀ c, ¬ SpellsClause fragment c) → (∀ word raw, ¬ SpellsControl fragment word raw) →
    ∃ reason, token = .skipped ⟨fragment, reason⟩

/-- A fragment has a line end between the plain name of a field and the operator. -/
def BreaksField (fragment : String) : Prop :=
  ∃ join field op raw, Sql.IsPlainName field ∧ Spells fragment join (field ++ "\n") op raw

variable {fragment key raw : String} {join : Join} {op : Operator} {token : Token} {c : Clause}
  {word : Control}

/-! ## Operators -/

/-- The operator is found behind the key: it cannot begin inside, and no other is looked for before
it. -/
theorem findOperator?_of_spells (hkey : isIdentifier key) (h : Spells fragment join key op raw) :
    findOperator? fragment.toList = some (op, join.mark.toList ++ key.toList, raw.toList) := by
  have htext : fragment.toList =
      (join.mark.toList ++ key.toList) ++ (op.symbol.toList ++ raw.toList) := by
    rw [h.text]
    simp only [String.toList_append, List.append_assoc]
  have hchars : ∀ c ∈ join.mark.toList ++ key.toList, IsKeyChar c := by
    intro c hc
    rcases List.mem_append.mp hc with hc | hc
    · cases join with
      | and => cases hc
      | or => exact Or.inr (Or.inr (List.mem_singleton.mp hc))
    · exact isKeyChar_of_mem_identifier hkey hc
  have hleads : op.Leads raw.toList := by
    intro earlier hearlier hoccurs
    refine h.first earlier hearlier (hoccurs.trans ?_)
    rw [htext]
    exact (List.suffix_append _ _).isInfix
  rw [htext]
  exact findOperator?_append hchars hleads

theorem eq_mark_append_takeJoin (text : List Char) :
    text = (takeJoin text).1.mark.toList ++ (takeJoin text).2 := by
  unfold takeJoin
  split
  · simp [Join.mark]
  · rfl

/-- What is found around an operator spells the fragment, whatever the key is. -/
theorem spells_of_findOperator? {front back : List Char}
    (h : findOperator? fragment.toList = some (op, front, back)) :
    Spells fragment (takeJoin front).1 (String.ofList (takeJoin front).2) op
      (String.ofList back) := by
  obtain ⟨before, found, after, horder, hfound, hbefore⟩ := List.findSome?_eq_some_iff.mp h
  obtain ⟨⟨_, _⟩, hcut, heq⟩ := Option.map_eq_some_iff.mp hfound
  cases heq
  refine ⟨?_, ?_⟩
  · rw [← String.toList_inj, eq_append_of_cut? hcut]
    simp only [String.toList_append, String.toList_ofList, ← eq_mark_append_takeJoin,
      List.append_assoc]
  · intro earlier hearlier hoccurs
    have hmem : earlier ∈ before := by
      rw [horder, List.takeWhile_append] at hearlier
      split at hearlier
      · simpa using hearlier
      · exact List.takeWhile_subset _ hearlier
    have hnone := Option.map_eq_none_iff.mp (hbefore earlier hmem)
    exact cut?_eq_none_iff.mp hnone hoccurs

/-! ## Tokens -/

theorem Control.isPlainName_name (word : Control) : Sql.IsPlainName word.name := by
  cases word with
  | sort => exact ⟨'s', ['o', 'r', 't'], rfl, rfl, List.all_eq_true.mp rfl⟩
  | limit => exact ⟨'l', ['i', 'm', 'i', 't'], rfl, rfl, List.all_eq_true.mp rfl⟩
  | offset => exact ⟨'o', ['f', 'f', 's', 'e', 't'], rfl, rfl, List.all_eq_true.mp rfl⟩

/-- A fragment is read by what it spells, as soon as the key is an identifier. -/
theorem Token.read_of_spells (hkey : isIdentifier key) (h : Spells fragment join key op raw) :
    Token.read fragment =
      match Control.ofName? key with
      | some word =>
        if op = .eq then .ok (.control word raw) else .ok (.skipped ⟨fragment, .onlyEquals word⟩)
      | none => (op.readValue raw).bind fun value =>
        .ok (.clause { field := key, op, value, join }) := by
  rw [Token.read, findOperator?_of_spells hkey h]
  simp only [takeJoin_mark_append hkey, String.ofList_toList, hkey, if_true]
  rfl

/-- A fragment is read as a clause exactly if it spells that clause on a name that is no control
word. -/
theorem Token.read_eq_clause_iff :
    Token.read fragment = .ok (.clause c) ↔
      isIdentifier c.field ∧ Control.ofName? c.field = none ∧
        ∃ raw, Spells fragment c.join c.field c.op raw ∧ c.op.readValue raw = .ok c.value := by
  constructor
  · intro h
    rw [Token.read] at h
    split at h
    · cases h
    · rename_i op front back hfound
      have hspells := spells_of_findOperator? hfound
      dsimp only at h
      split at h
      · split at h <;> cases h
      · rename_i hfree
        split at h
        · rename_i hident
          obtain ⟨value, hvalue, heq⟩ := bind_eq_ok_iff.mp h
          cases heq
          exact ⟨hident, hfree, _, hspells, hvalue⟩
        · cases h
  · rintro ⟨hident, hfree, raw, hspells, hvalue⟩
    rw [Token.read_of_spells hident hspells, hfree, hvalue]
    rfl

/-- A fragment is read as a control word exactly if it spells one. -/
theorem Token.read_eq_control_iff :
    Token.read fragment = .ok (.control word raw) ↔ SpellsControl fragment word raw := by
  constructor
  · intro h
    rw [Token.read] at h
    split at h
    · cases h
    · rename_i op front back hfound
      have hspells := spells_of_findOperator? hfound
      dsimp only at h
      split at h
      · rename_i found hname
        split at h
        · rename_i hop
          cases h
          subst hop
          rw [Control.ofName?_eq_some_iff.mp hname] at hspells
          exact ⟨_, hspells⟩
        · cases h
      · split at h
        · obtain ⟨value, -, heq⟩ := bind_eq_ok_iff.mp h
          cases heq
        · cases h
  · rintro ⟨join, hspells⟩
    have hident := isIdentifier_of_isPlainName word.isPlainName_name
    rw [Token.read_of_spells hident hspells, Control.ofName?_eq_some_iff.mpr rfl]
    rfl

/-- A fragment is skipped as a whole. -/
theorem Token.raw_of_read_skipped {s : Skipped} (h : Token.read fragment = .ok (.skipped s)) :
    s.raw = fragment := by
  rw [Token.read] at h
  split at h
  · cases h
    rfl
  · dsimp only at h
    split at h
    · split at h <;> cases h
      rfl
    · split at h
      · obtain ⟨value, -, heq⟩ := bind_eq_ok_iff.mp h
        cases heq
      · cases h
        rfl

/-! ## The grammar -/

theorem Control.ofName?_eq_none_iff {name : String} :
    Control.ofName? name = none ↔ name ∉ ["sort", "limit", "offset"] := by
  rw [Option.eq_none_iff_forall_ne_some]
  simp only [ne_eq, Control.ofName?_eq_some_iff]
  constructor
  · intro h hmem
    have hnames : name ∈ [Control.sort, .limit, .offset].map Control.name := hmem
    obtain ⟨word, -, hword⟩ := List.mem_map.mp hnames
    exact h word hword.symm
  · rintro h word rfl
    cases word <;> exact h (by decide)

theorem Operator.readValue_eq_ok_iff {value : Value} :
    op.readValue raw = .ok value ↔
      if op = .regex then value = .text raw else Value.ofText raw = .ok value := by
  unfold Operator.readValue
  split
  · simp [eq_comm]
  · rename_i hop
    rw [if_neg hop]

theorem isNameTail_append_newline {rest : List Char} (h : ∀ c ∈ rest, isNameChar c) :
    isNameTail (rest ++ ['\n']) := by
  induction rest with
  | nil => rfl
  | cons c rest ih =>
      rw [List.cons_append, isNameTail, h c List.mem_cons_self, Bool.true_and]
      · exact ih fun d hd => h d (List.mem_cons_of_mem c hd)
      · simp

/-- An identifier is a plain name, or one with a line end behind it. -/
theorem isIdentifier_iff {s : String} :
    isIdentifier s ↔ Sql.IsPlainName s ∨ ∃ name, Sql.IsPlainName name ∧ s = name ++ "\n" := by
  constructor
  · intro h
    obtain ⟨c, name, hstart, hname, hs | hs⟩ := isIdentifier_cases h
    · exact Or.inl ⟨c, name, hs, hstart, hname⟩
    · refine Or.inr ⟨String.ofList (c :: name), ⟨c, name, String.toList_ofList, hstart, hname⟩, ?_⟩
      rw [← String.toList_inj, hs]
      simp
  · rintro (hplain | ⟨name, ⟨c, rest, hname, hstart, hrest⟩, rfl⟩)
    · exact isIdentifier_of_isPlainName hplain
    · have htail := isNameTail_append_newline hrest
      simp [isIdentifier, hname, hstart, htail]

theorem not_isPlainName_append_newline {name : String} : ¬ Sql.IsPlainName (name ++ "\n") := by
  intro h
  have hline : isNameChar '\n' := h.isNameChar '\n' (by simp)
  exact absurd hline (by decide)

/-- A fragment that is read keeps to the grammar exactly if no line end stands between the name of a
field and the operator. -/
theorem keepsToGrammar_iff_not_breaksField (h : Token.read fragment = .ok token) :
    KeepsToGrammar fragment token ↔ ¬ BreaksField fragment := by
  constructor
  · rintro hkeeps ⟨join, field, op, raw, hfield, hspells⟩
    have hident : isIdentifier (field ++ "\n") := isIdentifier_iff.mpr (Or.inr ⟨field, hfield, rfl⟩)
    have hfree : Control.ofName? (field ++ "\n") = none := by
      rw [Option.eq_none_iff_forall_ne_some]
      intro word hword
      have hplain := word.isPlainName_name
      rw [← Control.ofName?_eq_some_iff.mp hword] at hplain
      exact not_isPlainName_append_newline hplain
    rw [Token.read_of_spells hident hspells, hfree] at h
    obtain ⟨value, -, heq⟩ := bind_eq_ok_iff.mp h
    cases heq
    have hclause := (hkeeps.clause _).mp rfl
    exact not_isPlainName_append_newline hclause.plain
  · intro hfine
    have hclause : ∀ c, token = .clause c ↔ SpellsClause fragment c := by
      intro c
      have htoken : token = .clause c ↔ Token.read fragment = .ok (.clause c) := by
        rw [h, Except.ok.injEq]
      rw [htoken, Token.read_eq_clause_iff]
      constructor
      · rintro ⟨hident, hfree, raw, hspells, hvalue⟩
        rcases isIdentifier_iff.mp hident with hplain | ⟨field, hfield, hline⟩
        · exact ⟨hplain, Control.ofName?_eq_none_iff.mp hfree, raw, hspells,
            Operator.readValue_eq_ok_iff.mp hvalue⟩
        · rw [hline] at hspells
          exact absurd ⟨_, field, _, raw, hfield, hspells⟩ hfine
      · rintro ⟨hplain, hfree, raw, hspells, hvalue⟩
        exact ⟨isIdentifier_of_isPlainName hplain, Control.ofName?_eq_none_iff.mpr hfree, raw,
          hspells, Operator.readValue_eq_ok_iff.mpr hvalue⟩
    have hcontrol : ∀ word raw, token = .control word raw ↔ SpellsControl fragment word raw := by
      intro word raw
      rw [← Token.read_eq_control_iff, h, Except.ok.injEq]
    refine ⟨hclause, hcontrol, ?_⟩
    intro hnoClause hnoControl
    cases token with
    | clause c => exact absurd ((hclause c).mp rfl) (hnoClause c)
    | control word raw => exact absurd ((hcontrol word raw).mp rfl) (hnoControl word raw)
    | skipped s =>
        refine ⟨s.reason, ?_⟩
        rw [← Token.raw_of_read_skipped h]

theorem keepsToGrammar_iff_not_breaksField_adults :
    Token.read "|age>=18" =
        .ok (.clause { field := "age", op := .ge, value := .int 18, join := .or }) ∧
      (KeepsToGrammar "|age>=18"
          (.clause { field := "age", op := .ge, value := .int 18, join := .or }) ↔
        ¬ BreaksField "|age>=18") := by
  have hread : Token.read "|age>=18" =
      .ok (.clause { field := "age", op := .ge, value := .int 18, join := .or }) := by
    rfl
  exact ⟨hread, keepsToGrammar_iff_not_breaksField hread⟩

/-- A line end behind a field is taken for a part of its name. -/
theorem not_keepsToGrammar_lineEnd :
    ¬ ∀ fragment token, Token.read fragment = .ok token → KeepsToGrammar fragment token := by
  intro hall
  have hread : Token.read "a\n=1" =
      .ok (.clause { field := "a\n", op := .eq, value := .int 1, join := .and }) := by
    rfl
  have hplain := (((hall _ _ hread).clause _).mp rfl).plain
  have hline : ("a\n" : String) = "a" ++ "\n" := by decide
  rw [hline] at hplain
  exact not_isPlainName_append_newline hplain

end TableGateway
