import TableGateway.Proofs.Agreement
import TableGateway.Proofs.Query.Reading
import TableGateway.Query.Predicate

namespace TableGateway

open Text

structure Clause.Resembles (c c' : Clause) : Prop where
  field : c.field = c'.field
  op : c.op = c'.op
  join : c.join = c'.join

theorem Clause.resembles_refl (c : Clause) : c.Resembles c :=
  ⟨rfl, rfl, rfl⟩

inductive Token.Resembles : Token → Token → Prop
  | same (token : Token) : Resembles token token
  | clause {c c' : Clause} (h : c.Resembles c') : Resembles (.clause c) (.clause c')

def readFragment (fragment : List Char) : Except Number.Error Token :=
  Token.read (String.ofList (Percent.decode fragment))

/-- The same fragment, or another filter on the same column with the same operator and join. -/
def FragmentsResemble (fragment fragment' : List Char) : Prop :=
  fragment = fragment' ∨ ∃ c c', readFragment fragment = .ok (.clause c) ∧
    readFragment fragment' = .ok (.clause c') ∧ c.Resembles c'

def QueryTextsResemble (raw raw' : String) : Prop :=
  List.Forall₂ FragmentsResemble (fragments raw) (fragments raw')

structure Query.Resembles (q q' : Query) : Prop where
  filters : List.Forall₂ Clause.Resembles q.filters q'.filters
  sort : q.sort = q'.sort
  limit : q.limit = q'.limit
  offset : q.offset = q'.offset
  skipped : q.skipped = q'.skipped

structure Reading.Resembles (r r' : Reading) : Prop where
  query : r.query.Resembles r'.query
  dropped : r.dropped = r'.dropped

theorem FragmentsResemble.read {fragment fragment' : List Char}
    (h : FragmentsResemble fragment fragment') :
    ResultsAgree Token.Resembles (readFragment fragment) (readFragment fragment') := by
  rcases h with rfl | ⟨c, c', hread, hread', hc⟩
  · cases readFragment fragment with
    | ok token => exact .ok (.same token)
    | error e => exact .error e
  · rw [hread, hread']
    exact .ok (.clause hc)

theorem Query.Resembles.skip {q q' : Query} (h : q.Resembles q') (s : Skipped) :
    (q.skip s).Resembles (q'.skip s) :=
  ⟨h.filters, h.sort, h.limit, h.offset, by rw [Query.skip, Query.skip, h.skipped]⟩

theorem Query.Resembles.addFilter {q q' : Query} (h : q.Resembles q') {c c' : Clause}
    (hc : c.Resembles c') : (q.addFilter c).Resembles (q'.addFilter c') :=
  ⟨List.rel_append h.filters (.cons hc .nil), h.sort, h.limit, h.offset, h.skipped⟩

theorem Query.Resembles.complete {q q' : Query} (h : q.Resembles q') :
    q.complete.Resembles q'.complete := by
  unfold Query.complete
  rw [h.offset, h.limit]
  split
  · exact ⟨h.filters, h.sort, rfl, rfl, h.skipped⟩
  · exact h

/-- What stands behind a control word is the same in both queries. -/
theorem Reading.Resembles.addControl {r r' : Reading} (h : r.Resembles r') (word : Control)
    (raw : String) : ResultsAgree Reading.Resembles (r.addControl word raw)
      (r'.addControl word raw) := by
  obtain ⟨hquery, hdropped⟩ := h
  cases word with
  | sort =>
      refine .ok ⟨⟨hquery.filters, rfl, hquery.limit, hquery.offset, hquery.skipped⟩, ?_⟩
      exact congrArg (· ++ _) hdropped
  | limit =>
      refine (resultsAgree_eq (readCount? 1 raw)).bind ?_
      rintro count _ rfl
      cases count with
      | some n =>
          exact .ok ⟨⟨hquery.filters, hquery.sort, rfl, hquery.offset, hquery.skipped⟩, hdropped⟩
      | none => exact .ok ⟨hquery.skip _, hdropped⟩
  | offset =>
      refine (resultsAgree_eq (readCount? 0 raw)).bind ?_
      rintro count _ rfl
      cases count with
      | some n =>
          exact .ok ⟨⟨hquery.filters, hquery.sort, hquery.limit, rfl, hquery.skipped⟩, hdropped⟩
      | none => exact .ok ⟨hquery.skip _, hdropped⟩

theorem Reading.Resembles.addToken {r r' : Reading} (h : r.Resembles r') {token token' : Token}
    (htoken : token.Resembles token') :
    ResultsAgree Reading.Resembles (r.addToken token) (r'.addToken token') := by
  cases htoken with
  | clause hc => exact .ok ⟨h.query.addFilter hc, h.dropped⟩
  | same =>
      cases token with
      | clause c => exact .ok ⟨h.query.addFilter c.resembles_refl, h.dropped⟩
      | control word raw => exact h.addControl word raw
      | skipped s => exact .ok ⟨h.query.skip s, h.dropped⟩

theorem Reading.Resembles.addFragment {r r' : Reading} (h : r.Resembles r')
    {fragment fragment' : List Char} (hfragment : FragmentsResemble fragment fragment') :
    ResultsAgree Reading.Resembles (r.addFragment fragment) (r'.addFragment fragment') :=
  hfragment.read.bind fun _ _ htoken => h.addToken htoken

/-- Readings resemble each other from fragment to fragment, and break off together. -/
theorem Reading.Resembles.addAll {r r' : Reading} (h : r.Resembles r')
    {rest rest' : List (List Char)} (hrest : List.Forall₂ FragmentsResemble rest rest') :
    (r.addAll rest).1.Resembles (r'.addAll rest').1 ∧ (r.addAll rest).2 = (r'.addAll rest').2 := by
  induction hrest generalizing r r' with
  | nil => exact ⟨h, rfl⟩
  | cons hfragment _ ih =>
      have hnext := h.addFragment hfragment
      unfold Reading.addAll
      generalize r.addFragment _ = next at hnext ⊢
      generalize r'.addFragment _ = next' at hnext ⊢
      cases hnext with
      | ok hnext => exact ih hnext
      | error e => exact ⟨h, rfl⟩

theorem Reading.resembles_ofText {raw raw' : String} (h : QueryTextsResemble raw raw') :
    (Reading.ofText raw).1.Resembles (Reading.ofText raw').1 ∧
      (Reading.ofText raw).2 = (Reading.ofText raw').2 := by
  have hempty : Reading.Resembles {} {} := ⟨⟨.nil, rfl, rfl, rfl, rfl⟩, rfl⟩
  exact hempty.addAll h

theorem Query.read_agrees {raw raw' : String} (h : QueryTextsResemble raw raw') :
    ResultsAgree Query.Resembles (Query.read raw) (Query.read raw') := by
  obtain ⟨hreading, hfailure⟩ := Reading.resembles_ofText h
  unfold Query.read
  rcases hraw : Reading.ofText raw with ⟨reading, failure⟩
  rcases hraw' : Reading.ofText raw' with ⟨reading', failure'⟩
  rw [hraw, hraw'] at hreading hfailure
  obtain rfl : failure = failure' := hfailure
  cases failure with
  | none => exact .ok hreading.query.complete
  | some e => exact .error e

/-- What is logged about a query does not depend on the values of its filters. -/
theorem Query.notices_eq {raw raw' : String} (h : QueryTextsResemble raw raw') :
    Query.notices raw = Query.notices raw' := by
  obtain ⟨hreading, hfailure⟩ := Reading.resembles_ofText h
  unfold Query.notices
  dsimp only
  rw [hfailure, hreading.dropped, hreading.query.skipped]

/-- The text of a condition depends on columns, operators and joins only. -/
theorem Predicate.sql_eq (regexOperator : String) {clauses clauses' : List Clause}
    (h : List.Forall₂ Clause.Resembles clauses clauses') :
    (Predicate.ofClauses regexOperator clauses).sql =
      (Predicate.ofClauses regexOperator clauses').sql := by
  have hcomparison : ∀ c c' : Clause, c.Resembles c' →
      c.comparison regexOperator = c'.comparison regexOperator := by
    intro c c' hc
    rw [Clause.comparison, Clause.comparison, hc.field, hc.op]
  have hjoined : ∀ rest rest', List.Forall₂ Clause.Resembles rest rest' →
      rest.map (Clause.joined regexOperator) = rest'.map (Clause.joined regexOperator) := by
    intro rest rest' hrest
    induction hrest with
    | nil => rfl
    | cons hc _ ih =>
        rw [List.map_cons, List.map_cons, ih, Clause.joined, Clause.joined, hc.join,
          hcomparison _ _ hc]
  cases h with
  | nil => rfl
  | cons hfirst hrest =>
      unfold Predicate.ofClauses Predicate.pieces
      dsimp only
      rw [hcomparison _ _ hfirst, hjoined _ _ hrest]

end TableGateway
