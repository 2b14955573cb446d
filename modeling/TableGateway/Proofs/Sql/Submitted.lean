import TableGateway.Proofs.Sql.Spelling

/-!
# The text of submitted statements

Every statement that a dispatch submits spells one of the four forms. The resource is taken as it is
listed, so its name has to be plain; of the client's own text nothing but names of columns gets in.
-/

namespace TableGateway.Sql

theorem spells_idCondition : Spells "WHERE id = ?".toList idLexemes := by
  have hwhere : Spells "WHERE".toList [.word "WHERE"] := spells_nameChars (by decide) (by decide)
  have hid : Spells "id".toList [.word "id"] := spells_nameChars (by decide) (by decide)
  have heq : Spells ['='] [.mark "="] := spells_mark (by decide)
  exact hwhere.space_append (hid.space_append (heq.space_append spells_placeholder))

theorem exists_forall₂_columns {body : Record}
    (hnames : ∀ name ∈ body.names, isIdentifier name) :
    ∃ columns : List Name,
      List.Forall₂ (fun field column => Spells field.1.toList [column.lexeme]) body columns :=
  exists_forall₂_spells fun field hfield =>
    spells_identifier (hnames field.1 (List.mem_map_of_mem hfield))

section Statements

variable {resource : String} (hresource : IsPlainName resource)

include hresource

/-- A select spells its form, whatever the query. -/
theorem spells_selectStatement {regexOperator : String}
    (hregex : regexOperator = "REGEXP" ∨ regexOperator = "~") {q : Query} (hq : q.Sound)
    (hpaging : q.offset.isSome → q.limit.isSome) (id : Option Value) :
    ∃ form : Form (regexLexeme regexOperator),
      Spells (selectStatement regexOperator resource q id).sql.toList (form.lexemes resource) := by
  have hfront : SpellInRow ["SELECT * FROM " ++ resource]
      [.word "SELECT", .mark "*", .word "FROM", .word resource] := by
    have hselect : Spells "SELECT".toList [.word "SELECT"] :=
      spells_nameChars (by decide) (by decide)
    have hfrom : Spells "FROM".toList [.word "FROM"] := spells_nameChars (by decide) (by decide)
    have hstar : Spells ['*'] [.mark "*"] := spells_mark (by decide)
    refine Spells.inRow ?_
    rw [String.toList_append]
    exact hselect.space_append (hstar.space_append (hfrom.space_append hresource.spells))
  -- An id takes the place of the filters; either way the fields are identifiers.
  obtain ⟨clauses, hstatement, hclauses⟩ : ∃ clauses,
      (selectStatement regexOperator resource q id).sql =
        " ".intercalate (("SELECT * FROM " ++ resource) ::
          q.tailPieces (Predicate.ofClauses regexOperator clauses)) ∧
        ∀ c ∈ clauses, isIdentifier c.field := by
    cases id with
    | none => exact ⟨q.filters, rfl, hq.filters⟩
    | some id =>
        refine ⟨[{ field := idColumn, op := .eq, value := id }], rfl, ?_⟩
        intro c hc
        cases List.mem_singleton.mp hc
        exact (by decide : isIdentifier idColumn)
  obtain ⟨condition, hcondition⟩ := spellInRow_condition hregex hclauses
  obtain ⟨order, horder⟩ := spellInRow_order hq.sort
  obtain ⟨paging, hpaging⟩ := spellInRow_paging hq.limit hpaging
  refine ⟨.select condition order paging, ?_⟩
  have hrow := hfront.append ((hcondition.append horder).append hpaging)
  have htail : SpellInRow (("SELECT * FROM " ++ resource) ::
      q.tailPieces (Predicate.ofClauses regexOperator clauses))
      (Form.lexemes resource (.select condition order paging)) := by
    simpa only [Query.tailPieces, Form.lexemes, List.append_assoc, List.singleton_append] using hrow
  rw [hstatement]
  exact htail.spells

theorem spells_insertStatement (regex : Lexeme) {body : Record}
    (hnames : ∀ name ∈ body.names, isIdentifier name) (hbody : body.isEmpty = false) :
    ∃ form : Form regex,
      Spells (insertStatement resource body).sql.toList (form.lexemes resource) := by
  obtain ⟨columns, hcolumns⟩ := exists_forall₂_columns hnames
  cases columns with
  | nil => cases hcolumns; simp at hbody
  | cons first others =>
      have hinsert : Spells "INSERT".toList [.word "INSERT"] :=
        spells_nameChars (by decide) (by decide)
      have hinto : Spells "INTO".toList [.word "INTO"] := spells_nameChars (by decide) (by decide)
      have hvalues : Spells "VALUES".toList [.word "VALUES"] :=
        spells_nameChars (by decide) (by decide)
      have hmarks :
          List.Forall₂ (fun _ _ => Spells "?".toList [.mark "?"]) body (first :: others) :=
        hcolumns.imp fun _ _ _ => spells_placeholder
      have hopened := spells_nil.mark_append (c := '(') (by decide)
        ((spells_commaSeparated hmarks).mark_append (c := ')') (by decide) spells_nil)
      have hlisted := spells_nil.mark_append (c := '(') (by decide)
        ((spells_commaSeparated hcolumns).mark_append (c := ')') (by decide)
          (hvalues.space_append hopened).space)
      have hall := hinsert.space_append (hinto.space_append (hresource.spells.space_append hlisted))
      refine ⟨.insert first others, ?_⟩
      unfold insertStatement Form.lexemes
      simp only [String.toList_append, List.append_assoc]
      exact hall

theorem spells_updateStatement (regex : Lexeme) {body : Record}
    (hnames : ∀ name ∈ body.names, isIdentifier name) (hbody : body.isEmpty = false)
    (id : Value) :
    ∃ form : Form regex,
      Spells (updateStatement resource body id).sql.toList (form.lexemes resource) := by
  obtain ⟨columns, hcolumns⟩ := exists_forall₂_columns hnames
  cases columns with
  | nil => cases hcolumns; simp at hbody
  | cons first others =>
      have heq : Spells ['='] [.mark "="] := spells_mark (by decide)
      have hset : List.Forall₂
          (fun field column =>
            Spells (field.1 ++ " = ?").toList [column.lexeme, .mark "=", .mark "?"])
          body (first :: others) := by
        refine hcolumns.imp fun field column hcolumn => ?_
        rw [String.toList_append]
        exact hcolumn.space_append (heq.space_append spells_placeholder)
      have hupdate : Spells "UPDATE".toList [.word "UPDATE"] :=
        spells_nameChars (by decide) (by decide)
      have hword : Spells "SET".toList [.word "SET"] := spells_nameChars (by decide) (by decide)
      have hall := hupdate.space_append (hresource.spells.space_append (hword.space_append
        ((spells_commaSeparated hset).space_append spells_idCondition)))
      refine ⟨.update first others, ?_⟩
      unfold updateStatement Form.lexemes
      simp only [String.toList_append, List.append_assoc]
      exact hall

theorem spells_deleteStatement (regex : Lexeme) (id : Value) :
    ∃ form : Form regex,
      Spells (deleteStatement resource id).sql.toList (form.lexemes resource) := by
  have hdelete : Spells "DELETE".toList [.word "DELETE"] :=
    spells_nameChars (by decide) (by decide)
  have hfrom : Spells "FROM".toList [.word "FROM"] := spells_nameChars (by decide) (by decide)
  have hall := hdelete.space_append (hfrom.space_append
    (hresource.spells.space_append spells_idCondition))
  refine ⟨.delete, ?_⟩
  unfold deleteStatement Form.lexemes
  simp only [String.toList_append, List.append_assoc]
  exact hall

end Statements

/-- Every draft spells one of the four forms. -/
theorem spells_draft {settings : ResourceSettings} {hasher : Option Hasher} {request : Request}
    {verb : Verb} {id : Option Value} {draft : Draft} (hplain : IsPlainName request.resource)
    (hregex : settings.regexOperator = "REGEXP" ∨ settings.regexOperator = "~")
    (h : request.draft settings hasher verb id = .ok draft) :
    ∃ form : Form (regexLexeme settings.regexOperator),
      Spells draft.statement.sql.toList (form.lexemes request.resource) := by
  cases Request.drafts_of_draft_eq_ok h with
  | select hread =>
      exact spells_selectStatement hplain hregex (Query.sound_of_read hread)
        (Query.isSome_limit_of_read hread) id
  | insert hid hoffers hstored =>
      exact spells_insertStatement hplain _ (hoffers.isIdentifier_stored hstored)
        (hoffers.isEmpty_stored hstored)
  | update hoffers hstored =>
      exact spells_updateStatement hplain _ (hoffers.isIdentifier_stored hstored)
        (hoffers.isEmpty_stored hstored) _
  | delete => exact spells_deleteStatement hplain _ _

/-- **No injection.** On a resource with a plain name, whatever the request holds, each statement
that is handed over reads as one of the four forms, and no character of it belongs to anything but
their words and marks: no quote, no semicolon, no comment and no value. -/
theorem lexemes_of_submitted {d : Dispatcher} {request : Request} {w : World} {s : Statement}
    (hplain : IsPlainName request.resource)
    (hregex : d.settings.regexOperator = "REGEXP" ∨ d.settings.regexOperator = "~")
    (hs : .submitted s ∈ (d.dispatch request w).events) :
    (∃ form : Form (regexLexeme d.settings.regexOperator),
      lexemes? s.sql.toList = some (form.lexemes request.resource)) ∧
    ∀ c ∈ s.sql.toList, isSpace c ∨ isNameChar c ∨ c ∈ '!' :: singleMarks := by
  obtain ⟨kind, verb, id, draft, hsubmits, rfl⟩ := submitted_mem_dispatch_iff.mp hs
  obtain ⟨form, hform⟩ := spells_draft hplain hregex hsubmits.drafted
  exact ⟨⟨form, hform.lexemes?_eq⟩, mem_of_lexemes? hform.lexemes?_eq⟩

def hostileRead : Request where
  method := "GET"
  resource := "users"
  query := "|name%0A≈x'; DROP TABLE users --&sort=-age&offset=٣"

theorem lexemes_of_submitted_hostileRead :
    ∃ s : Statement,
      s.sql = "SELECT * FROM users WHERE name\n REGEXP ? ORDER BY age DESC " ++
        "LIMIT 9223372036854775807 OFFSET 3" ∧
      (∃ form : Form (regexLexeme "REGEXP"),
        lexemes? s.sql.toList = some (form.lexemes "users")) ∧
      ∀ c ∈ s.sql.toList, isSpace c ∨ isNameChar c ∨ c ∈ '!' :: singleMarks := by
  let d : Dispatcher := { gate := ⟨none, .text "role"⟩ }
  let w : World := { schema := { tables := ["users"] } }
  have hsubmitted : ((d.dispatch hostileRead w).events.filterMap Event.submitted?).map
      Statement.sql = ["SELECT * FROM users WHERE name\n REGEXP ? ORDER BY age DESC " ++
        "LIMIT 9223372036854775807 OFFSET 3"] := by
    decide +kernel
  obtain ⟨s, hs, hsql⟩ := List.mem_map.mp (hsubmitted ▸ List.mem_singleton_self _)
  have hplain : IsPlainName "users" :=
    ⟨'u', "sers".toList, by decide, by decide, List.all_eq_true.mp (by decide)⟩
  exact ⟨s, hsql, lexemes_of_submitted (d := d) hplain (Or.inl rfl)
    (Event.mem_filterMap_submitted?_iff.mp hs)⟩

end TableGateway.Sql
