import TableGateway.Proofs.Query.Fragment
import TableGateway.Proofs.Text.Intercalate
import TableGateway.Proofs.Text.Percent

/-!
# Writing queries

A query can be written as a text that is read as that query again. Clauses keep their order, and
the sort order, the limit and the offset may stand anywhere among them.
-/

namespace TableGateway

open Text Number

/-! ## Parts -/

inductive QueryPart
  | clause (c : Clause)
  | sort (entries : List SortEntry)
  | limit (n : Nat)
  | offset (n : Nat)

def QueryPart.text : QueryPart → String
  | .clause c => c.text
  | .sort entries => Control.sort.text (",".intercalate (entries.map SortEntry.text))
  | .limit n => Control.limit.text (writeInt n)
  | .offset n => Control.offset.text (writeInt n)

/-- The parts of a query as its text: each coded but for some marks, with an ampersand between any
two. -/
def QueryPart.render (marks : List Char) (parts : List QueryPart) : String :=
  "&".intercalate (parts.map fun part =>
    String.ofList (Percent.encodeBut marks part.text.toList))

def QueryPart.token : QueryPart → Token
  | .clause c => .clause c
  | .sort entries => .control .sort (",".intercalate (entries.map SortEntry.text))
  | .limit n => .control .limit (writeInt n)
  | .offset n => .control .offset (writeInt n)

/-- What a part may be for its text to be read as that part. A line end behind the name of a sort
entry would be taken off as a blank, so these names are plain. -/
def QueryPart.IsReadable : QueryPart → Prop
  | .clause c => c.IsReadable
  | .sort entries => entries ≠ [] ∧ ∀ entry ∈ entries, Sql.IsPlainName entry.field
  | .limit n => 1 ≤ n ∧ (Nat.toDigits 10 n).length ≤ maxDigits
  | .offset n => (Nat.toDigits 10 n).length ≤ maxDigits

def Query.add (q : Query) : QueryPart → Query
  | .clause c => q.addFilter c
  | .sort entries => { q with sort := entries }
  | .limit n => { q with limit := some n }
  | .offset n => { q with offset := some n }

variable {part : QueryPart} {parts : List QueryPart} {marks : List Char} {q : Query}

/-- The text of a part is read as that part. -/
theorem QueryPart.read_text (h : part.IsReadable) : Token.read part.text = .ok part.token := by
  cases part with
  | clause c => exact Token.read_clause h
  | sort entries =>
      refine Token.read_control .sort fun m hm => ?_
      simp only [List.mem_cons, List.not_mem_nil, or_false] at hm
      rcases hm with rfl | rfl | rfl <;>
        exact notMem_sortText h.2 (by decide) (by decide) (by decide)
  | limit n | offset n =>
      refine Token.read_control _ fun m hm => ?_
      simp only [List.mem_cons, List.not_mem_nil, or_false] at hm
      rcases hm with rfl | rfl | rfl <;> exact notMem_writeInt (by decide) n

/-- A part that was read back adds what it was written for. -/
theorem Reading.addToken_token (h : part.IsReadable) (r : Reading) :
    r.addToken part.token = .ok { r with query := r.query.add part } := by
  cases part with
  | clause c => rfl
  | sort entries =>
      rw [QueryPart.token, Reading.addToken, Reading.addControl, readSort_text h.1 h.2]
      simp [pure, Except.pure, Query.add]
  | limit n =>
      rw [QueryPart.token, Reading.addToken, Reading.addControl, readCount?_writeInt h.1 h.2]
      rfl
  | offset n =>
      rw [QueryPart.token, Reading.addToken, Reading.addControl,
        readCount?_writeInt (Nat.zero_le n) h]
      rfl

theorem Reading.addFragment_encodeBut (hpercent : '%' ∉ marks) (h : part.IsReadable)
    (r : Reading) :
    r.addFragment (Percent.encodeBut marks part.text.toList) =
      .ok { r with query := r.query.add part } := by
  rw [Reading.addFragment, Percent.decode_encodeBut hpercent, String.ofList_toList,
    QueryPart.read_text h, ← Reading.addToken_token h]
  rfl

theorem Reading.addAll_encodeBut (hpercent : '%' ∉ marks) (h : ∀ part ∈ parts, part.IsReadable)
    (r : Reading) :
    r.addAll (parts.map fun part => Percent.encodeBut marks part.text.toList) =
      ({ r with query := parts.foldl Query.add r.query }, none) := by
  induction parts generalizing r with
  | nil => rfl
  | cons part parts ih =>
      have hpart := Reading.addFragment_encodeBut hpercent (h part List.mem_cons_self) r
      rw [List.map_cons, Reading.addAll, hpart]
      exact ih (fun other hother => h other (List.mem_cons_of_mem part hother)) _

/-! ## Fragments of a written query -/

/-- No part begins with a question mark, so none is lost at the front of a query. -/
theorem QueryPart.exists_text_eq (h : part.IsReadable) :
    ∃ c rest, part.text.toList = c :: rest ∧ c ≠ '?' := by
  have hcontrol : ∀ (word : Control) (raw : String),
      ∃ c rest, (word.text raw).toList = c :: rest ∧ c ≠ '?' := by
    intro word raw
    rw [Control.text, String.toList_append, String.toList_append]
    cases word with
    | sort => exact ⟨'s', _, rfl, by decide⟩
    | limit => exact ⟨'l', _, rfl, by decide⟩
    | offset => exact ⟨'o', _, rfl, by decide⟩
  cases part with
  | clause c =>
      obtain ⟨first, rest, hfield, hstart⟩ := exists_toList_of_isIdentifier h.identifier
      simp only [QueryPart.text, Clause.text, String.toList_append, hfield]
      cases c.join with
      | and => exact ⟨first, _, rfl, ne_of_isNameStart hstart (by decide)⟩
      | or => exact ⟨'|', _, rfl, by decide⟩
  | sort entries | limit n | offset n => exact hcontrol _ _

theorem QueryPart.toList_render (marks : List Char) (parts : List QueryPart) :
    (render marks parts).toList =
      ['&'].intercalate (parts.map fun part => Percent.encodeBut marks part.text.toList) := by
  rw [render, String.toList_intercalate, List.map_map]
  exact congrArg ['&'].intercalate (List.map_congr_left fun part _ => String.toList_ofList)

/-- A written query does not begin with the question mark that would be taken off. -/
theorem QueryPart.toList_render_ne_cons (h : ∀ part ∈ parts, part.IsReadable)
    (after : List Char) : (render marks parts).toList ≠ '?' :: after := by
  intro hafter
  cases parts with
  | nil => cases hafter
  | cons first rest =>
      obtain ⟨c, text, htext, hmark⟩ := exists_text_eq (h first List.mem_cons_self)
      obtain ⟨tail, htail⟩ := toList_intercalate_cons "&"
        (String.ofList (Percent.encodeBut marks first.text.toList))
        (rest.map fun part => String.ofList (Percent.encodeBut marks part.text.toList))
      rw [render, List.map_cons, htail, String.toList_ofList, htext] at hafter
      have hhead := congrArg List.head? hafter
      rw [List.head?_append] at hhead
      rcases Percent.head?_encodeBut marks c text with hcoded | hcoded
      · rw [hcoded] at hhead
        exact hmark (Option.some.inj hhead)
      · rw [hcoded] at hhead
        cases hhead

theorem QueryPart.encodeBut_text_ne_nil (hpercent : '%' ∉ marks) (h : part.IsReadable) :
    Percent.encodeBut marks part.text.toList ≠ [] := by
  obtain ⟨c, text, htext, -⟩ := exists_text_eq h
  refine Percent.encodeBut_ne_nil hpercent ?_
  rw [htext]
  exact List.cons_ne_nil c text

/-- The fragments of a written query are its parts, coded. -/
theorem fragments_render (hpercent : '%' ∉ marks) (hampersand : '&' ∉ marks)
    (h : ∀ part ∈ parts, part.IsReadable) :
    fragments (QueryPart.render marks parts) =
      parts.map fun part => Percent.encodeBut marks part.text.toList := by
  rw [fragments]
  split
  · rename_i after hafter
    exact absurd hafter (QueryPart.toList_render_ne_cons h after)
  · rw [QueryPart.toList_render]
    cases parts with
    | nil => rfl
    | cons first rest =>
        rw [List.splitOn_intercalate '&' _ (by simp), List.filter_eq_self]
        · intro fragment hfragment
          obtain ⟨part, hpart, rfl⟩ := List.mem_map.mp hfragment
          simpa using QueryPart.encodeBut_text_ne_nil hpercent (h part hpart)
        · intro fragment hfragment
          obtain ⟨part, -, rfl⟩ := List.mem_map.mp hfragment
          exact Percent.notMem_encodeBut (fun h => hampersand h.1) (by decide) (by decide)

/-! ## Arrangements -/

def QueryPart.clause? : QueryPart → Option Clause
  | .clause c => some c
  | _ => none

def Query.controls (q : Query) : List QueryPart :=
  (if q.sort = [] then [] else [.sort q.sort]) ++ (q.limit.map .limit).toList ++
    (q.offset.map .offset).toList

/-- The parts of a query in some order: the clauses in theirs, anything else anywhere among them. -/
structure Query.Arranges (q : Query) (parts : List QueryPart) : Prop where
  clauses : parts.filterMap QueryPart.clause? = q.filters
  controls : (parts.filter fun part => part.clause?.isNone).Perm q.controls

/-- A query whose parts can be read, with no offset but behind a limit and nothing skipped. -/
structure Query.IsReadable (q : Query) : Prop where
  filters : ∀ c ∈ q.filters, c.IsReadable
  sort : ∀ entry ∈ q.sort, Sql.IsPlainName entry.field
  limit : ∀ n, q.limit = some n → 1 ≤ n ∧ (Nat.toDigits 10 n).length ≤ maxDigits
  offset : ∀ n, q.offset = some n → (Nat.toDigits 10 n).length ≤ maxDigits
  limited : q.offset.isSome → q.limit.isSome
  skipped : q.skipped = []

theorem Query.mem_controls (h : part ∈ q.controls) :
    part = .sort q.sort ∧ q.sort ≠ [] ∨ (∃ n, q.limit = some n ∧ part = .limit n) ∨
      ∃ n, q.offset = some n ∧ part = .offset n := by
  simp only [Query.controls, List.mem_append, Option.mem_toList, Option.map_eq_some_iff] at h
  rcases h with (h | ⟨n, hn, rfl⟩) | ⟨n, hn, rfl⟩
  · split at h
    · cases h
    · rename_i hne
      exact Or.inl ⟨List.mem_singleton.mp h, hne⟩
  · exact Or.inr (Or.inl ⟨n, hn, rfl⟩)
  · exact Or.inr (Or.inr ⟨n, hn, rfl⟩)

theorem Query.IsReadable.controls (hq : q.IsReadable) : ∀ part ∈ q.controls, part.IsReadable := by
  intro part hpart
  rcases Query.mem_controls hpart with ⟨rfl, hne⟩ | ⟨n, hn, rfl⟩ | ⟨n, hn, rfl⟩
  · exact ⟨hne, hq.sort⟩
  · exact hq.limit n hn
  · exact hq.offset n hn

/-- However the parts of a query are arranged, they stay readable. -/
theorem Query.Arranges.isReadable (hq : q.IsReadable) (h : q.Arranges parts) :
    ∀ part ∈ parts, part.IsReadable := by
  intro part hpart
  cases hclause : part.clause? with
  | some c =>
      have hmem : c ∈ q.filters := h.clauses ▸ List.mem_filterMap.mpr ⟨part, hpart, hclause⟩
      cases part with
      | clause c' =>
          cases hclause
          exact hq.filters c hmem
      | sort entries | limit n | offset n => cases hclause
  | none =>
      refine hq.controls part (h.controls.mem_iff.mp (List.mem_filter.mpr ⟨hpart, ?_⟩))
      rw [hclause]
      rfl

/-- Clauses can be added before everything else. -/
theorem foldl_add_eq (parts : List QueryPart) (q : Query) :
    parts.foldl Query.add q =
      (parts.filter fun part => part.clause?.isNone).foldl Query.add
        { q with filters := q.filters ++ parts.filterMap QueryPart.clause? } := by
  induction parts generalizing q with
  | nil => simp
  | cons part parts ih =>
      rw [List.foldl_cons, ih]
      cases part with
      | clause c =>
          have hsome : (QueryPart.clause c).clause? = some c := rfl
          rw [List.filter_cons_of_neg (by simp [hsome]), List.filterMap_cons_some hsome]
          simp only [Query.add, Query.addFilter, List.append_assoc, List.singleton_append]
      | sort entries | limit n | offset n =>
          rw [List.filter_cons_of_pos rfl, List.filterMap_cons_none rfl, List.foldl_cons]
          rfl

/-- No two controls of a query set the same, so their order does not matter. -/
theorem Query.add_comm_of_mem_controls {x y : QueryPart} (hx : x ∈ q.controls)
    (hy : y ∈ q.controls) (q' : Query) : (q'.add x).add y = (q'.add y).add x := by
  rcases mem_controls hx with ⟨rfl, -⟩ | ⟨n, hn, rfl⟩ | ⟨n, hn, rfl⟩
  · rcases mem_controls hy with ⟨rfl, -⟩ | ⟨m, hm, rfl⟩ | ⟨m, hm, rfl⟩ <;> rfl
  · rcases mem_controls hy with ⟨rfl, -⟩ | ⟨m, hm, rfl⟩ | ⟨m, hm, rfl⟩
    · rfl
    · rw [Option.some.inj (hn.symm.trans hm)]
    · rfl
  · rcases mem_controls hy with ⟨rfl, -⟩ | ⟨m, hm, rfl⟩ | ⟨m, hm, rfl⟩
    · rfl
    · rfl
    · rw [Option.some.inj (hn.symm.trans hm)]

theorem Query.foldl_add_controls (hskipped : q.skipped = []) :
    q.controls.foldl add { filters := q.filters } = q := by
  obtain ⟨filters, sort, limit, offset, skipped⟩ := q
  cases hskipped
  rw [controls, List.foldl_append, List.foldl_append]
  by_cases hsort : sort = []
  · cases limit <;> cases offset <;> simp [hsort, add]
  · cases limit <;> cases offset <;> simp [hsort, add]

theorem Query.Arranges.foldl_add (hskipped : q.skipped = []) (h : q.Arranges parts) :
    parts.foldl Query.add {} = q := by
  have hcomm : ∀ x ∈ q.controls, ∀ y ∈ q.controls, ∀ q' : Query,
      (q'.add x).add y = (q'.add y).add x :=
    fun _ hx _ hy => Query.add_comm_of_mem_controls hx hy
  rw [foldl_add_eq, h.clauses, ← h.controls.symm.foldl_eq' hcomm]
  exact Query.foldl_add_controls hskipped

/-- **Written queries.** However the parts of a query are arranged and whatever marks but the
percent sign and the ampersand are left as they are, the text is read as that query, and nothing is
skipped, dropped or logged. -/
theorem read_render (hq : q.IsReadable) (h : q.Arranges parts) (hpercent : '%' ∉ marks)
    (hampersand : '&' ∉ marks) :
    Query.read (QueryPart.render marks parts) = .ok q ∧
      Query.notices (QueryPart.render marks parts) = [] := by
  have hreadable := h.isReadable hq
  have hread : Reading.ofText (QueryPart.render marks parts) = ({ query := q }, none) := by
    rw [Reading.ofText, fragments_render hpercent hampersand hreadable,
      Reading.addAll_encodeBut hpercent hreadable, h.foldl_add hq.skipped]
  have hcomplete : q.complete = q := by
    unfold Query.complete
    split
    · rename_i hoffset
      obtain ⟨hoffset, hlimit⟩ := Bool.and_eq_true_iff.mp hoffset
      exact absurd (hq.limited hoffset) (by simpa using hlimit)
    · rfl
  constructor
  · rw [Query.read, hread]
    exact congrArg Except.ok hcomplete
  · rw [Query.notices, hread]
    simp [hq.skipped]

def sampleQuery : Query where
  filters := [⟨"name", .regex, .text "a&b?é", .and⟩, ⟨"age", .gt, .int (-5), .or⟩]
  sort := [⟨"age", .desc⟩, ⟨"name", .asc⟩]
  limit := some 10
  offset := some 0

theorem read_render_sampleQuery :
    Query.read "limit%3D10&name%E2%89%88a%26b%3F%C3%A9&sort%3D-age%2Cname&%7Cage%3E-5&offset%3D0"
      = .ok sampleQuery := by
  let parts : List QueryPart :=
    [.limit 10, .clause ⟨"name", .regex, .text "a&b?é", .and⟩,
      .sort [⟨"age", .desc⟩, ⟨"name", .asc⟩], .clause ⟨"age", .gt, .int (-5), .or⟩, .offset 0]
  have hraw : QueryPart.render ['/'] parts =
      "limit%3D10&name%E2%89%88a%26b%3F%C3%A9&sort%3D-age%2Cname&%7Cage%3E-5&offset%3D0" := by
    decide +kernel
  have hname : Clause.IsReadable ⟨"name", .regex, .text "a&b?é", .and⟩ :=
    ⟨by decide, by decide, Or.inr ⟨_, rfl, Or.inl rfl⟩, by unfold Operator.Leads; decide⟩
  have hage : Clause.IsReadable ⟨"age", .gt, .int (-5), .or⟩ :=
    ⟨by decide, by decide, Or.inl ⟨-5, by decide, rfl, by decide⟩,
      by unfold Operator.Leads; decide⟩
  have hreadable : sampleQuery.IsReadable := {
    filters := by simpa [sampleQuery] using ⟨hname, hage⟩
    sort := by
      have hplain : Sql.IsPlainName "age" ∧ Sql.IsPlainName "name" :=
        ⟨⟨'a', ['g', 'e'], rfl, by decide, List.all_eq_true.mp (by decide)⟩,
          ⟨'n', ['a', 'm', 'e'], rfl, by decide, List.all_eq_true.mp (by decide)⟩⟩
      simpa [sampleQuery] using hplain
    limit := fun n hn => by
      cases hn
      decide
    offset := fun n hn => by
      cases hn
      decide
    limited := fun _ => rfl
    skipped := rfl }
  have harranged : sampleQuery.Arranges parts := ⟨rfl, .swap _ _ _⟩
  rw [← hraw]
  exact (read_render hreadable harranged (by decide) (by decide)).1

end TableGateway
