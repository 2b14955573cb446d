import TableGateway.Proofs.Query.Rendering
import TableGateway.Proofs.Query.Resemblance

/-!
# What fragments contribute

Each fragment of a query contributes one thing, whatever stands around it: a part of the query, or
the notice that it was skipped. A query is read exactly if each of its fragments contributes, and
then it is what they contribute together. So a query that consists of two can be read from both.
-/

namespace TableGateway

open Text

inductive Contribution
  | part (p : QueryPart)
  | skipped (s : Skipped)

namespace Contribution

def clause? : Contribution → Option Clause
  | .part (.clause c) => some c
  | _ => none

def skipped? : Contribution → Option Skipped
  | .skipped s => some s
  | _ => none

def sort? : Contribution → Option (List SortEntry)
  | .part (.sort entries) => some entries
  | _ => none

def limit? : Contribution → Option Nat
  | .part (.limit n) => some n
  | _ => none

def offset? : Contribution → Option Nat
  | .part (.offset n) => some n
  | _ => none

def addTo : Contribution → Query → Query
  | .part p, q => q.add p
  | .skipped s, q => q.skip s

end Contribution

def SpellsCount (least : Nat) (raw : String) (n : Nat) : Prop :=
  least ≤ n ∧ Number.read? raw.toList = .ok (some (.int n))

/-- A text can be read, but spells no whole number of at least `least`. -/
def MissesCount (least : Nat) (raw : String) : Prop :=
  (∃ number, Number.read? raw.toList = .ok number) ∧ ∀ n, ¬ SpellsCount least raw n

/-- What a token adds to a query: a limit or an offset only if it is a count, and otherwise no more
than the notice that it was skipped. -/
inductive Token.Yields : Token → Contribution → Prop
  | clause (c : Clause) : Yields (.clause c) (.part (.clause c))
  | skipped (s : Skipped) : Yields (.skipped s) (.skipped s)
  | sort (raw : String) : Yields (.control .sort raw) (.part (.sort (readSort raw).1))
  | limit {raw : String} {n : Nat} (h : SpellsCount 1 raw n) :
      Yields (.control .limit raw) (.part (.limit n))
  | badLimit {raw : String} (h : MissesCount 1 raw) :
      Yields (.control .limit raw) (.skipped ⟨"limit=" ++ raw, .badLimit⟩)
  | offset {raw : String} {n : Nat} (h : SpellsCount 0 raw n) :
      Yields (.control .offset raw) (.part (.offset n))
  | badOffset {raw : String} (h : MissesCount 0 raw) :
      Yields (.control .offset raw) (.skipped ⟨"offset=" ++ raw, .badOffset⟩)

def Contributes (fragment : List Char) (contribution : Contribution) : Prop :=
  ∃ token, readFragment fragment = .ok token ∧ token.Yields contribution

/-- Of some contributions the filters and skipped fragments are collected, while only the last sort
order and the last offset count. -/
structure Query.Collects (q : Query) (contributions : List Contribution) : Prop where
  filters : q.filters = contributions.filterMap Contribution.clause?
  skipped : q.skipped = contributions.filterMap Contribution.skipped?
  sort : q.sort = (contributions.filterMap Contribution.sort?).getLast?.getD []
  offset : q.offset = (contributions.filterMap Contribution.offset?).getLast?

/-- A query is what some contributions make together: only the last limit counts, and an offset
without a limit gets one that does not limit. -/
structure Query.Gathers (q : Query) (contributions : List Contribution) : Prop
    extends q.Collects contributions where
  limit : q.limit = (contributions.filterMap Contribution.limit?).getLast?.or
    (if q.offset.isSome then some unboundedLimit else none)

variable {raw : String} {least : Nat} {token : Token} {fragment : List Char}
  {rest : List (List Char)} {contribution contribution' : Contribution}
  {contributions : List Contribution} {q : Query}

/-! ## One fragment -/

/-- A count is an integer that is large enough; a number with a point is none. -/
theorem readCount?_eq_some_iff {n : Nat} :
    readCount? least raw = .ok (some n) ↔ SpellsCount least raw n := by
  constructor
  · intro h
    have hle := le_of_readCount? h
    obtain ⟨number, hnumber, h⟩ := bind_eq_ok_iff.mp h
    split at h
    · rename_i k
      split at h
      · cases h
        refine ⟨hle, ?_⟩
        rw [hnumber, Int.toNat_of_nonneg (by omega)]
      · cases h
    · cases h
  · rintro ⟨hle, hread⟩
    have hle : (least : Int) ≤ n := by omega
    rw [readCount?, hread]
    simp [hle, bind, Except.bind, pure, Except.pure]

/-- What is no count is missed, unless it cannot be read at all. -/
theorem readCount?_eq_none_iff : readCount? least raw = .ok none ↔ MissesCount least raw := by
  constructor
  · intro h
    obtain ⟨number, hnumber, -⟩ := bind_eq_ok_iff.mp h
    refine ⟨⟨number, hnumber⟩, fun n hn => ?_⟩
    rw [readCount?_eq_some_iff.mpr hn] at h
    cases h
  · rintro ⟨⟨number, hnumber⟩, hmisses⟩
    cases hcount : readCount? least raw with
    | error e =>
        rw [readCount?_eq_error_iff, hnumber] at hcount
        cases hcount
    | ok count =>
        cases count with
        | none => rfl
        | some n => exact absurd (readCount?_eq_some_iff.mp hcount) (hmisses n)

theorem SpellsCount.unique {n m : Nat} (hn : SpellsCount least raw n)
    (hm : SpellsCount least raw m) : n = m := by
  have h := hn.2.symm.trans hm.2
  simpa using h

/-- A token adds one thing only. -/
theorem Token.Yields.unique (h : token.Yields contribution) (h' : token.Yields contribution') :
    contribution = contribution' := by
  cases h with
  | clause | skipped | sort =>
      cases h'
      rfl
  | limit hn =>
      cases h' with
      | limit hm => rw [hn.unique hm]
      | badLimit hmisses => exact absurd hn (hmisses.2 _)
  | badLimit hmisses =>
      cases h' with
      | limit hn => exact absurd hn (hmisses.2 _)
      | badLimit => rfl
  | offset hn =>
      cases h' with
      | offset hm => rw [hn.unique hm]
      | badOffset hmisses => exact absurd hn (hmisses.2 _)
  | badOffset hmisses =>
      cases h' with
      | offset hn => exact absurd hn (hmisses.2 _)
      | badOffset => rfl

/-- A fragment contributes no more than one thing. -/
theorem Contributes.unique (h : Contributes fragment contribution)
    (h' : Contributes fragment contribution') : contribution = contribution' := by
  obtain ⟨token, hread, hyields⟩ := h
  obtain ⟨token', hread', hyields'⟩ := h'
  rw [hread] at hread'
  cases hread'
  exact hyields.unique hyields'

theorem Reading.addToken_of_yields (h : token.Yields contribution) (r : Reading) :
    ∃ dropped, r.addToken token = .ok { query := contribution.addTo r.query, dropped } := by
  cases h with
  | clause | skipped | sort => exact ⟨_, rfl⟩
  | limit hn | offset hn =>
      rw [addToken, addControl, readCount?_eq_some_iff.mpr hn]
      exact ⟨_, rfl⟩
  | badLimit hmisses | badOffset hmisses =>
      rw [addToken, addControl, readCount?_eq_none_iff.mpr hmisses]
      exact ⟨_, rfl⟩

/-- Whatever token is taken in, it contributed. -/
theorem Reading.exists_yields_of_addToken {r r' : Reading} (h : r.addToken token = .ok r') :
    ∃ contribution, token.Yields contribution := by
  cases token with
  | clause c => exact ⟨_, .clause c⟩
  | skipped s => exact ⟨_, .skipped s⟩
  | control word raw =>
      cases word with
      | sort => exact ⟨_, .sort raw⟩
      | limit =>
          obtain ⟨count, hcount, -⟩ := bind_eq_ok_iff.mp h
          cases count with
          | some n => exact ⟨_, .limit (readCount?_eq_some_iff.mp hcount)⟩
          | none => exact ⟨_, .badLimit (readCount?_eq_none_iff.mp hcount)⟩
      | offset =>
          obtain ⟨count, hcount, -⟩ := bind_eq_ok_iff.mp h
          cases count with
          | some n => exact ⟨_, .offset (readCount?_eq_some_iff.mp hcount)⟩
          | none => exact ⟨_, .badOffset (readCount?_eq_none_iff.mp hcount)⟩

theorem Reading.addFragment_of_contributes (h : Contributes fragment contribution) (r : Reading) :
    ∃ dropped, r.addFragment fragment = .ok { query := contribution.addTo r.query, dropped } := by
  obtain ⟨token, hread, hyields⟩ := h
  obtain ⟨dropped, hadd⟩ := addToken_of_yields hyields r
  exact ⟨dropped, bind_eq_ok_iff.mpr ⟨token, hread, hadd⟩⟩

theorem Reading.exists_contributes_of_addFragment {r r' : Reading}
    (h : r.addFragment fragment = .ok r') : ∃ contribution, Contributes fragment contribution := by
  obtain ⟨token, hread, hadd⟩ := bind_eq_ok_iff.mp h
  obtain ⟨contribution, hyields⟩ := exists_yields_of_addToken hadd
  exact ⟨contribution, token, hread, hyields⟩

/-! ## All fragments -/

def Query.addAll (q : Query) (contributions : List Contribution) : Query :=
  contributions.foldl (fun q contribution => contribution.addTo q) q

theorem Reading.addAll_of_contributes (h : List.Forall₂ Contributes rest contributions)
    (r : Reading) :
    ∃ dropped, r.addAll rest = ({ query := r.query.addAll contributions, dropped }, none) := by
  induction h generalizing r with
  | nil => exact ⟨r.dropped, rfl⟩
  | cons hfragment _ ih =>
      obtain ⟨dropped, hadd⟩ := addFragment_of_contributes hfragment r
      rw [addAll, hadd]
      exact ih _

theorem Reading.exists_contributes_of_addAll {r : Reading} (h : (r.addAll rest).2 = none) :
    ∃ contributions, List.Forall₂ Contributes rest contributions := by
  induction rest generalizing r with
  | nil => exact ⟨[], .nil⟩
  | cons fragment rest ih =>
      unfold addAll at h
      cases hr : r.addFragment fragment with
      | error e =>
          rw [hr] at h
          cases h
      | ok r' =>
          rw [hr] at h
          obtain ⟨contribution, hfragment⟩ := exists_contributes_of_addFragment hr
          obtain ⟨contributions, hrest⟩ := ih h
          exact ⟨contribution :: contributions, .cons hfragment hrest⟩

/-- The last of some contributions is appended, or takes the place of one before it. -/
theorem Query.addAll_concat (contributions : List Contribution) (contribution : Contribution) :
    q.addAll (contributions ++ [contribution]) = contribution.addTo (q.addAll contributions) := by
  rw [addAll, List.foldl_append]
  rfl

/-- One more contribution is collected behind the others. -/
theorem Query.Collects.addTo (h : q.Collects contributions) (contribution : Contribution) :
    (contribution.addTo q).Collects (contributions ++ [contribution]) := by
  obtain ⟨hfilters, hskipped, hsort, hoffset⟩ := h
  cases contribution with
  | skipped s =>
      constructor <;>
        simp [Contribution.addTo, Query.skip, Contribution.clause?, Contribution.skipped?,
          Contribution.sort?, Contribution.offset?, *]
  | part p =>
      cases p <;> constructor <;>
        simp [Contribution.addTo, Query.add, Query.addFilter, Contribution.clause?,
          Contribution.skipped?, Contribution.sort?, Contribution.offset?, *]

theorem Contribution.limit_addTo
    (h : q.limit = (contributions.filterMap limit?).getLast?) (contribution : Contribution) :
    (contribution.addTo q).limit =
      ((contributions ++ [contribution]).filterMap limit?).getLast? := by
  cases contribution with
  | skipped s => simp [addTo, Query.skip, limit?, h]
  | part p => cases p <;> simp [addTo, Query.add, Query.addFilter, limit?, h]

theorem Query.collects_addAll (contributions : List Contribution) :
    (({} : Query).addAll contributions).Collects contributions ∧
      (({} : Query).addAll contributions).limit =
        (contributions.filterMap Contribution.limit?).getLast? := by
  -- The last contribution decides, so the induction is from the end.
  induction contributions using List.reverseRecOn with
  | nil => exact ⟨⟨rfl, rfl, rfl, rfl⟩, rfl⟩
  | append_singleton contributions contribution ih =>
      obtain ⟨hcollects, hlimit⟩ := ih
      rw [addAll_concat]
      exact ⟨hcollects.addTo contribution, contribution.limit_addTo hlimit⟩

theorem Query.complete_eq (q : Query) :
    q.complete = { q with
      limit := q.limit.or (if q.offset.isSome then some unboundedLimit else none) } := by
  obtain ⟨filters, sort, limit, offset, skipped⟩ := q
  cases limit <;> cases offset <;> rfl

theorem Query.gathers_complete_addAll (contributions : List Contribution) :
    (({} : Query).addAll contributions).complete.Gathers contributions := by
  obtain ⟨hcollects, hlimit⟩ := collects_addAll contributions
  rw [complete_eq]
  exact ⟨⟨hcollects.filters, hcollects.skipped, hcollects.sort, hcollects.offset⟩, by rw [hlimit]⟩

/-- Contributions make one query only. -/
theorem Query.Gathers.unique {q' : Query} (h : q.Gathers contributions)
    (h' : q'.Gathers contributions) : q = q' := by
  have hoffset : q.offset = q'.offset := h.offset.trans h'.offset.symm
  have hlimit : q.limit = q'.limit := by rw [h.limit, h'.limit, hoffset]
  obtain ⟨filters, sort, limit, offset, skipped⟩ := q
  obtain ⟨filters', sort', limit', offset', skipped'⟩ := q'
  obtain rfl : filters = filters' := h.filters.trans h'.filters.symm
  obtain rfl : sort = sort' := h.sort.trans h'.sort.symm
  obtain rfl : limit = limit' := hlimit
  obtain rfl : offset = offset' := hoffset
  obtain rfl : skipped = skipped' := h.skipped.trans h'.skipped.symm
  rfl

/-- A query is read exactly if each of its fragments contributes, as what these contributions make
together. -/
theorem Query.read_eq_ok_iff :
    Query.read raw = .ok q ↔
      ∃ contributions, List.Forall₂ Contributes (fragments raw) contributions ∧
        q.Gathers contributions := by
  have hread : ∀ contributions, List.Forall₂ Contributes (fragments raw) contributions →
      Query.read raw = .ok (({} : Query).addAll contributions).complete := by
    intro contributions hcontributes
    obtain ⟨dropped, hadd⟩ := Reading.addAll_of_contributes hcontributes {}
    rw [read, Reading.ofText, hadd]
  constructor
  · intro h
    have hfine : (Reading.ofText raw).2 = none := by
      unfold read at h
      split at h
      · rename_i hreading
        rw [hreading]
      · cases h
    obtain ⟨contributions, hcontributes⟩ := Reading.exists_contributes_of_addAll hfine
    rw [hread contributions hcontributes] at h
    cases h
    exact ⟨contributions, hcontributes, gathers_complete_addAll contributions⟩
  · rintro ⟨contributions, hcontributes, hgathers⟩
    rw [hread contributions hcontributes,
      hgathers.unique (gathers_complete_addAll contributions)]

/-! ## Two queries in one -/

/-- Each of the fragments that contribute contributes one thing. -/
theorem existsUnique_of_contributes (h : List.Forall₂ Contributes rest contributions) :
    ∀ fragment ∈ rest, ∃! contribution, Contributes fragment contribution := by
  induction h with
  | nil => simp
  | cons hfirst _ ih =>
      rw [List.forall_mem_cons]
      exact ⟨⟨_, hfirst, fun _ hother => hother.unique hfirst⟩, ih⟩

/-- An ampersand keeps the fragments on both sides of it apart. -/
theorem fragments_append {a b : String} (hmark : ∀ text, b.toList ≠ '?' :: text) :
    fragments (a ++ "&" ++ b) = fragments a ++ fragments b := by
  have hsplit : ∀ front : List Char, (front ++ '&' :: b.toList).splitOn '&' =
      front.splitOn '&' ++ b.toList.splitOn '&' :=
    fun front => List.splitOn_append_cons_self front b.toList
  have htext : (a ++ "&" ++ b).toList = a.toList ++ '&' :: b.toList := by
    simp
  have hb : fragments b = (b.toList.splitOn '&').filter fun fragment => !fragment.isEmpty := by
    rw [fragments]
    split
    · exact absurd ‹_› (hmark _)
    · rfl
  rw [hb, fragments, fragments, htext, ← List.filter_append, ← hsplit]
  -- Only a question mark in front of the first query is taken off.
  cases a.toList with
  | nil => rfl
  | cons c rest =>
      by_cases hc : c = '?'
      · subst hc
        rfl
      · simp [hc]

/-- **Independent fragments.** A query that consists of two that can be read can be read: each
fragment contributes one thing, filters and skipped fragments are those of both in order, and the
rest is what the contributions of all fragments make together. -/
theorem Query.exists_read_append {a b : String} {qa qb : Query}
    (hmark : ∀ text, b.toList ≠ '?' :: text) (ha : Query.read a = .ok qa)
    (hb : Query.read b = .ok qb) :
    ∃ q contributions, Query.read (a ++ "&" ++ b) = .ok q ∧
      q.filters = qa.filters ++ qb.filters ∧ q.skipped = qa.skipped ++ qb.skipped ∧
      fragments (a ++ "&" ++ b) = fragments a ++ fragments b ∧
      (∀ fragment ∈ fragments a ++ fragments b,
        ∃! contribution, Contributes fragment contribution) ∧
      List.Forall₂ Contributes (fragments a ++ fragments b) contributions ∧
      q.Gathers contributions := by
  obtain ⟨front, hfront, hqa⟩ := read_eq_ok_iff.mp ha
  obtain ⟨back, hback, hqb⟩ := read_eq_ok_iff.mp hb
  have hfragments := fragments_append (a := a) hmark
  have hcontributes := List.rel_append hfront hback
  have hgathers := gathers_complete_addAll (front ++ back)
  refine ⟨_, front ++ back, ?_, ?_, ?_, hfragments, existsUnique_of_contributes hcontributes,
    hcontributes, hgathers⟩
  · rw [read_eq_ok_iff, hfragments]
    exact ⟨_, hcontributes, hgathers⟩
  · rw [hgathers.filters, hqa.filters, hqb.filters, List.filterMap_append]
  · rw [hgathers.skipped, hqa.skipped, hqb.skipped, List.filterMap_append]

theorem Query.exists_read_append_adults :
    (∀ text, "sort=&limit=x&&offset=2&|name=b".toList ≠ '?' :: text) ∧
      ∃ q contributions,
        Query.read ("?age>=18&sort=name&limit=5" ++ "&" ++ "sort=&limit=x&&offset=2&|name=b") =
          .ok q ∧
        q.filters = [⟨"age", .ge, .int 18, .and⟩] ++ [⟨"name", .eq, .text "b", .or⟩] ∧
        q.skipped = [] ++ [⟨"limit=x", .badLimit⟩] ∧
        fragments ("?age>=18&sort=name&limit=5" ++ "&" ++ "sort=&limit=x&&offset=2&|name=b") =
          fragments "?age>=18&sort=name&limit=5" ++ fragments "sort=&limit=x&&offset=2&|name=b" ∧
        (∀ fragment ∈
            fragments "?age>=18&sort=name&limit=5" ++ fragments "sort=&limit=x&&offset=2&|name=b",
          ∃! contribution, Contributes fragment contribution) ∧
        List.Forall₂ Contributes
          (fragments "?age>=18&sort=name&limit=5" ++ fragments "sort=&limit=x&&offset=2&|name=b")
          contributions ∧
        q.Gathers contributions := by
  have hmark : ∀ text, "sort=&limit=x&&offset=2&|name=b".toList ≠ '?' :: text := by
    simp
  have hfront : Query.read "?age>=18&sort=name&limit=5" =
      .ok { filters := [⟨"age", .ge, .int 18, .and⟩], sort := [⟨"name", .asc⟩],
            limit := some 5 } := by
    rfl
  have hback : Query.read "sort=&limit=x&&offset=2&|name=b" =
      .ok { filters := [⟨"name", .eq, .text "b", .or⟩], limit := some unboundedLimit,
            offset := some 2, skipped := [⟨"limit=x", .badLimit⟩] } := by
    rfl
  exact ⟨hmark, Query.exists_read_append hmark hfront hback⟩

end TableGateway
