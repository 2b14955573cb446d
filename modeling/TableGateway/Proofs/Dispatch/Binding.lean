import Mathlib.Data.List.Nodup
import TableGateway.Proofs.Dispatch.Contract
import TableGateway.Proofs.Sql.BoundName

/-!
# Binding

The values of a statement are bound by names, and the names are found in its text again. Each
statement that a dispatch submits binds, and what a name is bound to is the value that belongs at
its place: a filter's, a column's or the number in the path.
-/

namespace TableGateway

open Sql

/-! ## Bound statements -/

def placeholderNames (count : Nat) : List String :=
  (List.range count).map placeholderName

theorem nodup_placeholderNames (count : Nat) : (placeholderNames count).Nodup :=
  List.Nodup.map placeholderName_injective List.nodup_range

variable {s : Statement} {bound : BoundStatement}

theorem Statement.bind?_eq_some (hcount : s.placeholderCount = s.params.length) :
    s.bind? = some {
      sql := String.ofList (namePlaceholders 0 s.sql.toList)
      bindings := s.params.zipIdx.map fun (value, place) => (placeholderName place, value) } :=
  if_pos hcount

/-- Each placeholder's name leads to the value at its place, however many there are. -/
theorem get?_zipIdx (values : List Value) (first place : Nat) :
    Record.get? ((values.zipIdx first).map fun (value, place) => (placeholderName place, value))
      (placeholderName (first + place)) = values[place]? := by
  induction values generalizing first place with
  | nil => rfl
  | cons value values ih =>
      rw [List.zipIdx_cons, List.map_cons]
      cases place with
      | zero => simp [Record.get?]
      | succ place =>
          have hne : placeholderName first ≠ placeholderName (first + (place + 1)) := by
            intro h
            have := placeholderName_injective h
            omega
          have hplace : first + (place + 1) = first + 1 + place := by omega
          rw [List.getElem?_cons_succ, ← ih (first + 1) place, ← hplace]
          simp [Record.get?, hne]

/-- A statement with as many values as question marks, all of them apart, binds its values in
order. -/
theorem Statement.exists_bind? (hcount : s.placeholderCount = s.params.length)
    (hname : Nameable s.sql.toList) :
    ∃ bound, s.bind? = some bound ∧
      boundNames false bound.sql.toList = placeholderNames s.params.length ∧
      bound.bindings.names = placeholderNames s.params.length ∧
      ∀ place, bound.bindings.get? (placeholderName place) = s.params[place]? := by
  refine ⟨_, bind?_eq_some hcount, ?_, ?_, ?_⟩
  · have hmarks : s.sql.toList.count '?' = s.params.length := hcount
    rw [String.toList_ofList, boundNames_namePlaceholders hname (fun _ => rfl), hmarks,
      placeholderNames, List.range_eq_range']
  · rw [placeholderNames, List.range_eq_range', ← List.zipIdx_map_snd, List.map_map]
    simp [Record.names, Function.comp_def]
  · intro place
    simpa using get?_zipIdx s.params 0 place

/-! ## Texts of statements -/

theorem nameable_identifier {name : String} (h : isIdentifier name) : Nameable name.toList :=
  nameable_of_notMem (notMem_identifier h (by decide) (by decide))
    (notMem_identifier h (by decide) (by decide))

theorem nameable_writeInt (n : Nat) : Nameable (Number.writeInt n).toList :=
  nameable_of_notMem (Number.notMem_writeInt (by decide) n) (Number.notMem_writeInt (by decide) n)

/-- A text that was configured brings no question mark and no colon along. -/
def IsInert (text : String) : Prop :=
  '?' ∉ text.toList ∧ ':' ∉ text.toList

instance (text : String) : Decidable (IsInert text) :=
  inferInstanceAs (Decidable (_ ∧ _))

theorem IsInert.nameable {text : String} (h : IsInert text) : Nameable text.toList :=
  nameable_of_notMem h.1 h.2

theorem IsInert.append {front back : String} (h : IsInert front) (h' : IsInert back) :
    IsInert (front ++ back) := by
  unfold IsInert
  rw [String.toList_append]
  exact ⟨List.not_mem_append h.1 h'.1, List.not_mem_append h.2 h'.2⟩

theorem isSeparator_blank : isSeparator " ".toList := by
  decide +kernel

theorem isSeparator_comma : isSeparator ", ".toList := by
  decide +kernel

theorem isInert_symbol (op : Operator) : IsInert op.symbol := by
  cases op <;> decide

section Conditions

variable {regexOperator : String} (hregex : IsInert regexOperator)

include hregex

/-- A blank keeps the placeholder of a comparison apart from its operator. -/
theorem nameable_comparison {c : Clause} (hc : isIdentifier c.field) :
    Nameable (c.comparison regexOperator).toList := by
  have hoperator : IsInert (c.op.sql regexOperator) := by
    cases c.op with
    | regex => exact hregex
    | _ => exact isInert_symbol _
  have htext : (c.comparison regexOperator).toList =
      c.field.toList ++ (" ".toList ++
        ((c.op.sql regexOperator).toList ++ (" ".toList ++ "?".toList))) := by
    simp only [Clause.comparison, String.toList_append, List.append_assoc]
    rfl
  rw [htext]
  exact (nameable_identifier hc).join isSeparator_blank
    (hoperator.nameable.join isSeparator_blank nameable_mark)

theorem nameable_joined {c : Clause} (hc : isIdentifier c.field) :
    Nameable (c.joined regexOperator).toList := by
  have hword : IsInert c.join.word := by cases c.join <;> decide
  have htext : (c.joined regexOperator).toList =
      c.join.word.toList ++ (" ".toList ++ (c.comparison regexOperator).toList) := by
    simp only [Clause.joined, String.toList_append, List.append_assoc]
  rw [htext]
  exact hword.nameable.join isSeparator_blank (nameable_comparison hregex hc)

/-- Conditions of identifiers are safe to put names into. -/
theorem nameable_predicate {clauses : List Clause} (h : ∀ c ∈ clauses, isIdentifier c.field) :
    Nameable (Predicate.ofClauses regexOperator clauses).sql.toList := by
  refine nameable_intercalate isSeparator_blank ?_
  intro piece hpiece
  cases clauses with
  | nil => cases hpiece
  | cons first rest =>
      rcases List.mem_cons.mp hpiece with rfl | hpiece
      · exact nameable_comparison hregex (h first List.mem_cons_self)
      · obtain ⟨c, hc, rfl⟩ := List.mem_map.mp hpiece
        exact nameable_joined hregex (h c (List.mem_cons_of_mem _ hc))

end Conditions

theorem nameable_sortEntry {entry : SortEntry} (h : isIdentifier entry.field) :
    Nameable entry.sql.toList := by
  have hword : IsInert entry.direction.word := by cases entry.direction <;> decide
  have htext : entry.sql.toList =
      entry.field.toList ++ (" ".toList ++ entry.direction.word.toList) := by
    simp only [SortEntry.sql, String.toList_append, List.append_assoc]
  rw [htext]
  exact (nameable_identifier h).join isSeparator_blank hword.nameable

/-- Behind the words of a statement stands a text of its own. -/
theorem nameable_phrase {words text : String} (hwords : IsInert words)
    (hlast : words.toList.getLast?.all isOpen) (h : Nameable text.toList) :
    Nameable (words ++ text).toList := by
  rw [String.toList_append]
  exact hwords.nameable.append h fun c hc => (Option.all_eq_true _ _).mp hlast c hc

theorem nameable_tailPieces {q : Query} {predicate : Predicate}
    (hpredicate : Nameable predicate.sql.toList)
    (hsort : ∀ entry ∈ q.sort, isIdentifier entry.field) :
    ∀ piece ∈ q.tailPieces predicate, Nameable piece.toList := by
  have horder : Nameable (", ".intercalate (q.sort.map SortEntry.sql)).toList := by
    refine nameable_intercalate isSeparator_comma ?_
    intro piece hpiece
    obtain ⟨entry, hentry, rfl⟩ := List.mem_map.mp hpiece
    exact nameable_sortEntry (hsort entry hentry)
  have hcount : ∀ (words : String) (count : Option Nat), IsInert words →
      words.toList.getLast?.all isOpen →
      ∀ piece ∈ (count.map fun n => words ++ Number.writeInt n).toList, Nameable piece.toList := by
    intro words count hwords hlast piece hpiece
    cases count with
    | none => cases hpiece
    | some n =>
        rw [List.mem_singleton.mp hpiece]
        exact nameable_phrase hwords hlast (nameable_writeInt n)
  intro piece hpiece
  simp only [Query.tailPieces, List.mem_append] at hpiece
  rcases hpiece with ((hpiece | hpiece) | hpiece) | hpiece
  · split at hpiece
    · rw [List.mem_singleton.mp hpiece]
      exact nameable_phrase (by decide) (by decide +kernel) hpredicate
    · cases hpiece
  · split at hpiece
    · cases hpiece
    · rw [List.mem_singleton.mp hpiece]
      exact nameable_phrase (by decide) (by decide +kernel) horder
  · exact hcount "LIMIT " q.limit (by decide) (by decide +kernel) piece hpiece
  · exact hcount "OFFSET " q.offset (by decide) (by decide +kernel) piece hpiece

/-- A name, an equals sign and a question mark. -/
theorem nameable_assignment {name : String} (h : isIdentifier name) :
    Nameable (name ++ " = ?").toList := by
  rw [String.toList_append]
  have hequals : isSeparator " = ".toList := by decide +kernel
  exact (nameable_identifier h).join hequals nameable_mark

section Statements

variable {resource : String} (hresource : IsInert resource)

include hresource

/-- No text of a client stands beside a placeholder in a select. -/
theorem nameable_selectStatement {regexOperator : String} {q : Query}
    (hregex : IsInert regexOperator) (hq : q.Sound) (id : Option Value) :
    Nameable (selectStatement regexOperator resource q id).sql.toList := by
  have hfront : IsInert ("SELECT * FROM " ++ resource) := .append (by decide) hresource
  have hall : ∀ clauses : List Clause, (∀ c ∈ clauses, isIdentifier c.field) →
      Nameable (" ".intercalate (("SELECT * FROM " ++ resource) ::
        q.tailPieces (Predicate.ofClauses regexOperator clauses))).toList := by
    intro clauses hclauses
    refine nameable_intercalate isSeparator_blank ?_
    intro piece hpiece
    rcases List.mem_cons.mp hpiece with rfl | hpiece
    · exact hfront.nameable
    · exact nameable_tailPieces (nameable_predicate hregex hclauses) hq.sort piece hpiece
  cases id with
  | none => exact hall q.filters hq.filters
  | some id =>
      refine hall [{ field := idColumn, op := .eq, value := id }] ?_
      intro c hc
      cases List.mem_singleton.mp hc
      exact (by decide : isIdentifier idColumn)

/-- Columns of an insert stand in front of its placeholders, which are kept apart by commas. -/
theorem nameable_insertStatement {body : Record} (hnames : ∀ name ∈ body.names, isIdentifier name) :
    Nameable (insertStatement resource body).sql.toList := by
  have hcolumns : Nameable (", ".intercalate body.names).toList := by
    refine nameable_intercalate isSeparator_comma ?_
    intro name hname
    exact nameable_identifier (hnames name hname)
  have hmarks : Nameable (", ".intercalate (body.map fun _ => "?")).toList := by
    refine nameable_intercalate isSeparator_comma ?_
    intro mark hmark
    obtain ⟨_, -, rfl⟩ := List.mem_map.mp hmark
    exact nameable_mark
  have htext : (insertStatement resource body).sql.toList =
      ("INSERT INTO " ++ resource).toList ++ (" (".toList ++
        ((", ".intercalate body.names).toList ++ (") VALUES (".toList ++
          ((", ".intercalate (body.map fun _ => "?")).toList ++ ")".toList)))) := by
    unfold insertStatement
    simp only [String.toList_append, List.append_assoc]
  rw [htext]
  have hfront : IsInert ("INSERT INTO " ++ resource) := .append (by decide) hresource
  have hclose : isSeparator ")".toList := by decide +kernel
  have hbetween : isSeparator ") VALUES (".toList := by decide +kernel
  have hvalues := hcolumns.join hbetween (hmarks.close hclose)
  exact hfront.nameable.join (by decide +kernel) hvalues

/-- A column and its placeholder are kept apart by the equals sign. -/
theorem nameable_updateStatement {body : Record} (hnames : ∀ name ∈ body.names, isIdentifier name)
    (id : Value) : Nameable (updateStatement resource body id).sql.toList := by
  have hassignments :
      Nameable (", ".intercalate (body.map fun field => field.1 ++ " = ?")).toList := by
    refine nameable_intercalate isSeparator_comma ?_
    intro assignment hassignment
    obtain ⟨field, hfield, rfl⟩ := List.mem_map.mp hassignment
    exact nameable_assignment (hnames field.1 (List.mem_map_of_mem hfield))
  have htext : (updateStatement resource body id).sql.toList =
      ("UPDATE " ++ resource).toList ++ (" SET ".toList ++
        ((", ".intercalate (body.map fun field => field.1 ++ " = ?")).toList ++
          (" WHERE ".toList ++ (idColumn ++ " = ?").toList))) := by
    unfold updateStatement
    simp only [String.toList_append, List.append_assoc]
  rw [htext]
  have hfront : IsInert ("UPDATE " ++ resource) := .append (by decide) hresource
  have hwhere : isSeparator " WHERE ".toList := by decide +kernel
  have hcondition := hassignments.join hwhere
    (nameable_assignment (by decide : isIdentifier idColumn))
  exact hfront.nameable.join (by decide +kernel) hcondition

theorem nameable_deleteStatement (id : Value) :
    Nameable (deleteStatement resource id).sql.toList := by
  have htext : (deleteStatement resource id).sql.toList =
      ("DELETE FROM " ++ resource).toList ++
        (" WHERE ".toList ++ (idColumn ++ " = ?").toList) := by
    unfold deleteStatement
    simp only [String.toList_append, List.append_assoc]
  rw [htext]
  have hfront : IsInert ("DELETE FROM " ++ resource) := .append (by decide) hresource
  exact hfront.nameable.join (by decide +kernel)
    (nameable_assignment (by decide : isIdentifier idColumn))

end Statements

/-! ## Drafts -/

variable {d : Dispatcher} {settings : ResourceSettings} {hasher : Option Hasher}
  {request : Request} {verb : Verb} {id : Option Value} {draft : Draft} {w : World}

theorem nameable_draft (hresource : IsInert request.resource)
    (hregex : IsInert settings.regexOperator)
    (h : request.draft settings hasher verb id = .ok draft) :
    Nameable draft.statement.sql.toList := by
  cases Request.drafts_of_draft_eq_ok h with
  | select hread =>
      exact nameable_selectStatement hresource hregex (Query.sound_of_read hread) id
  | insert hid hoffers hstored =>
      exact nameable_insertStatement hresource (hoffers.isIdentifier_stored hstored)
  | update hoffers hstored =>
      exact nameable_updateStatement hresource (hoffers.isIdentifier_stored hstored) _
  | delete => exact nameable_deleteStatement hresource _

theorem placeholderCount_draft (hresource : IsInert request.resource)
    (hregex : IsInert settings.regexOperator)
    (h : request.draft settings hasher verb id = .ok draft) :
    draft.statement.placeholderCount = draft.statement.params.length := by
  by_contra hne
  rcases (bind?_draft_eq_none_iff h).mp (Statement.bind?_eq_none_iff.mpr hne) with
    hmark | ⟨-, -, hmark, -⟩
  · exact hresource.1 hmark
  · exact hregex.1 hmark

/-! ## Dispatches -/

/-- The values of a statement that a request has run, in the order of their placeholders: those of
the filters, the number in the path, or the columns of the body. -/
inductive Dispatcher.Supplies (d : Dispatcher) (request : Request) : Statement → List Value → Prop
  | collection {q : Query} (hid : readId request.rawId = .ok none)
      (hread : Query.read request.query = .ok q) :
      Supplies d request (selectStatement d.settings.regexOperator request.resource q none)
        (q.filters.map Clause.value)
  | record {q : Query} {id : Value} (hid : readId request.rawId = .ok (some id))
      (hread : Query.read request.query = .ok q) :
      Supplies d request (selectStatement d.settings.regexOperator request.resource q (some id))
        [id]
  | insert {body stored : Record} (hbody : request.body = .record body)
      (hstored : List.Forall₂ (d.Stores request.resource) body stored) :
      Supplies d request (insertStatement request.resource stored) (stored.map Prod.snd)
  | update {body stored : Record} {id : Value} (hid : readId request.rawId = .ok (some id))
      (hbody : request.body = .record body)
      (hstored : List.Forall₂ (d.Stores request.resource) body stored) :
      Supplies d request (updateStatement request.resource stored id) (stored.map Prod.snd ++ [id])
  | delete {id : Value} (hid : readId request.rawId = .ok (some id)) :
      Supplies d request (deleteStatement request.resource id) [id]

theorem Dispatcher.Supplies.params_eq {values : List Value} (h : d.Supplies request s values) :
    s.params = values := by
  cases h <;> rfl

/-- The values of a draft come in the order of its placeholders. -/
theorem supplies_of_draft (honce : ∀ body : Record, request.body = .record body → body.NamesOnce)
    (hid : readId request.rawId = .ok id)
    (h : request.draft d.settings d.hasher verb id = .ok draft) :
    ∃ values, d.Supplies request draft.statement values := by
  cases Request.drafts_of_draft_eq_ok h with
  | select hread =>
      cases id with
      | none => exact ⟨_, .collection hid hread⟩
      | some number => exact ⟨_, .record hid hread⟩
  | insert _ hoffers hstored =>
      have hbody := hoffers.body_eq
      exact ⟨_, .insert hbody (stores_of_hashPassword (honce _ hbody) hstored)⟩
  | update hoffers hstored =>
      have hbody := hoffers.body_eq
      exact ⟨_, .update hid hbody (stores_of_hashPassword (honce _ hbody) hstored)⟩
  | delete => exact ⟨_, .delete hid⟩

/-- **Aligned binding.** If neither the name of a resource nor the operator for patterns holds a
question mark or a colon, each statement that is submitted binds: its text holds the names of its
placeholders, each once and in order, and each of them is bound to the value that the request
supplies at its place. -/
theorem binds_of_submitted (hresource : IsInert request.resource)
    (hregex : IsInert d.settings.regexOperator)
    (honce : ∀ body : Record, request.body = .record body → body.NamesOnce)
    (hs : .submitted s ∈ (d.dispatch request w).events) :
    ∃ bound values, s.bind? = some bound ∧ d.Supplies request s values ∧
      boundNames false bound.sql.toList = placeholderNames values.length ∧
      (placeholderNames values.length).Nodup ∧
      bound.bindings.names = placeholderNames values.length ∧
      ∀ place, bound.bindings.get? (placeholderName place) = values[place]? := by
  obtain ⟨kind, verb, id, draft, hsubmits, rfl⟩ := submitted_mem_dispatch_iff.mp hs
  obtain ⟨values, hvalues⟩ := supplies_of_draft honce hsubmits.read hsubmits.drafted
  have hcount := placeholderCount_draft hresource hregex hsubmits.drafted
  have hname := nameable_draft hresource hregex hsubmits.drafted
  obtain ⟨bound, hbound, hfound, hnames, hbindings⟩ := Statement.exists_bind? hcount hname
  rw [hvalues.params_eq] at hfound hnames hbindings
  exact ⟨bound, values, hbound, hvalues, hfound, nodup_placeholderNames _, hnames, hbindings⟩

def elevenFilters : Request where
  method := "GET"
  resource := "widgets"
  query := "a=0&b>=one&c<2&d!=3&|e=4&f≈5&g=6&h=7&i=8&j=9&k=ten"

theorem binds_of_submitted_elevenFilters :
    let d : Dispatcher := { gate := ⟨none, .text "role"⟩ }
    let w : World := { schema := { tables := ["widgets"] } }
    ∃ s bound, .submitted s ∈ (d.dispatch elevenFilters w).events ∧ s.bind? = some bound ∧
      boundNames false bound.sql.toList =
        ["p0", "p1", "p2", "p3", "p4", "p5", "p6", "p7", "p8", "p9", "p10"] ∧
      (bound.bindings.get? "p1").map Value.display = some "one" ∧
      (bound.bindings.get? "p10").map Value.display = some "ten" := by
  intro d w
  have hsubmitted : ((d.dispatch elevenFilters w).events.filterMap Event.submitted?).map
      (fun s => s.params.map Value.display) =
      [["0", "one", "2", "3", "4", "5", "6", "7", "8", "9", "ten"]] := by
    decide +kernel
  obtain ⟨s, hs, htexts⟩ := List.mem_map.mp (hsubmitted ▸ List.mem_singleton_self _)
  have hmem : .submitted s ∈ (d.dispatch elevenFilters w).events :=
    Event.mem_filterMap_submitted?_iff.mp hs
  have hinert : IsInert elevenFilters.resource ∧ IsInert d.settings.regexOperator := by decide
  obtain ⟨bound, values, hbound, hvalues, hnames, -, -, hbindings⟩ :=
    binds_of_submitted hinert.1 hinert.2 (fun _ hbody => by cases hbody) hmem
  rw [← hvalues.params_eq] at hnames hbindings
  have hlength : s.params.length = 11 := by simpa using congrArg List.length htexts
  refine ⟨s, bound, hmem, hbound, ?_, ?_, ?_⟩
  · rw [hnames, hlength]
    decide
  · rw [show "p1" = placeholderName 1 by decide, hbindings 1, ← List.getElem?_map, htexts]
    rfl
  · rw [show "p10" = placeholderName 10 by decide, hbindings 10, ← List.getElem?_map, htexts]
    rfl

end TableGateway
