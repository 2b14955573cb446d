import TableGateway.Proofs.Credentials

/-!
# Strict mode

In strict mode the columns that a request names have to be those of its resource. Reading by id
leaves the filters of a query out of the statement and looks no column up, but the sort order stays
in the statement: its columns are the ones that get past strict mode.
-/

namespace TableGateway

open Text

def Schema.HasColumn (schema : Schema) (resource column : String) : Prop :=
  ∃ known, schema.columns? resource = some known ∧ column ∈ known

/-- A column that a request names, in its query or its body, stands in a statement. The filters of a
query do so only if no id takes their place. -/
inductive Statement.ShowsColumn (s : Statement) (request : Request) : String → Prop
  | filter {regexOperator : String} {q : Query} {c : Clause} (hid : readId request.rawId = .ok none)
    (hread : Query.read request.query = .ok q)
    (hs : s = selectStatement regexOperator request.resource q none) (hc : c ∈ q.filters) :
    ShowsColumn s request c.field
  | sort {regexOperator : String} {q : Query} {id : Option Value} {entry : SortEntry}
    (hread : Query.read request.query = .ok q)
    (hs : s = selectStatement regexOperator request.resource q id) (hentry : entry ∈ q.sort) :
    ShowsColumn s request entry.field
  | write {column : String} {value : Value} (hbinds : s.Binds request.resource column value) :
    ShowsColumn s request column

variable {d : Dispatcher} {request : Request} {w : World} {s : Statement} {column : String}

/-! ## Columns in the text of a statement -/

theorem isInfix_comparison (regexOperator : String) {clauses : List Clause} {c : Clause}
    (hc : c ∈ clauses) : (c.comparison regexOperator).toList <:+:
      (Predicate.ofClauses regexOperator clauses).sql.toList := by
  obtain ⟨piece, hpiece, hinfix⟩ : ∃ piece ∈ Predicate.pieces regexOperator clauses,
      (c.comparison regexOperator).toList <:+: piece.toList := by
    cases clauses with
    | nil => cases hc
    | cons first rest =>
        rcases List.mem_cons.mp hc with rfl | hc
        · exact ⟨_, List.mem_cons_self, List.infix_rfl⟩
        · refine ⟨c.joined regexOperator, List.mem_cons_of_mem _ (List.mem_map_of_mem hc), ?_⟩
          rw [Clause.joined, String.toList_append]
          exact (List.suffix_append _ _).isInfix
  exact hinfix.trans (isInfix_intercalate " " hpiece)

theorem Query.isInfix_tailPieces (q : Query) {predicate : Predicate} {front text : String}
    (h : front ++ text ∈ q.tailPieces predicate) (first : String) :
    text.toList <:+: (" ".intercalate (first :: q.tailPieces predicate)).toList := by
  have hpiece : text.toList <:+: (front ++ text).toList := by
    rw [String.toList_append]
    exact (List.suffix_append _ _).isInfix
  exact hpiece.trans (isInfix_intercalate " " (List.mem_cons_of_mem first h))

/-- Without an id the columns of all filters stand in the select. -/
theorem isInfix_selectStatement_filter (regexOperator resource : String) {q : Query} {c : Clause}
    (hc : c ∈ q.filters) :
    c.field.toList <:+: (selectStatement regexOperator resource q none).sql.toList := by
  have hcomparison := isInfix_comparison regexOperator hc
  have hfield : c.field.toList <:+: (c.comparison regexOperator).toList := by
    rw [Clause.comparison, String.toList_append, String.toList_append, String.toList_append,
      List.append_assoc, List.append_assoc]
    exact (List.prefix_append _ _).isInfix
  have hgiven : (Predicate.ofClauses regexOperator q.filters).isGiven = true := by
    by_contra hempty
    have hnil : (Predicate.ofClauses regexOperator q.filters).sql = "" := by
      simpa [Predicate.isGiven] using hempty
    rw [hnil, String.toList_empty, List.infix_nil, Clause.comparison] at hcomparison
    rw [String.toList_append] at hcomparison
    exact List.append_ne_nil_of_right_ne_nil _ (by decide) hcomparison
  have hpiece : "WHERE " ++ (Predicate.ofClauses regexOperator q.filters).sql ∈
      q.tailPieces (Predicate.ofClauses regexOperator q.filters) := by
    rw [Query.tailPieces, if_pos hgiven, List.append_assoc, List.append_assoc]
    exact List.mem_append_left _ (List.mem_singleton_self _)
  exact (hfield.trans hcomparison).trans (q.isInfix_tailPieces hpiece _)

/-- The columns of the sort order stand in the select, with an id or without one. -/
theorem isInfix_selectStatement_sort (regexOperator resource : String) {q : Query}
    (id : Option Value) {entry : SortEntry} (hentry : entry ∈ q.sort) :
    entry.field.toList <:+: (selectStatement regexOperator resource q id).sql.toList := by
  have hsql : entry.sql.toList <:+: (", ".intercalate (q.sort.map SortEntry.sql)).toList :=
    isInfix_intercalate ", " (List.mem_map_of_mem hentry)
  have hfield : entry.field.toList <:+: entry.sql.toList := by
    rw [SortEntry.sql, String.toList_append, String.toList_append, List.append_assoc]
    exact (List.prefix_append _ _).isInfix
  have hpiece : ∀ predicate, "ORDER BY " ++ ", ".intercalate (q.sort.map SortEntry.sql) ∈
      q.tailPieces predicate := by
    intro predicate
    have hne : ¬ q.sort.isEmpty := by
      simpa using List.ne_nil_of_mem hentry
    rw [Query.tailPieces, if_neg hne, List.append_assoc]
    exact List.mem_append_left _ (List.mem_append_right _ (List.mem_singleton_self _))
  exact (hfield.trans hsql).trans (q.isInfix_tailPieces (hpiece _) _)

/-- The columns that a statement writes stand in its text. -/
theorem Statement.Writes.isInfix {resource : String} {fields : Record}
    (h : s.Writes resource fields) (hcolumn : column ∈ fields.names) :
    column.toList <:+: s.sql.toList := by
  rcases h with rfl | ⟨id, rfl⟩
  · refine (isInfix_intercalate ", " hcolumn).trans ?_
    unfold insertStatement
    simp only [String.toList_append]
    exact (((List.suffix_append _ _).isInfix.trans (List.prefix_append _ _).isInfix).trans
      (List.prefix_append _ _).isInfix).trans (List.prefix_append _ _).isInfix
  · obtain ⟨field, hfield, rfl⟩ := List.mem_map.mp hcolumn
    have hassigned : field.1.toList <:+: (field.1 ++ " = ?").toList := by
      rw [String.toList_append]
      exact (List.prefix_append _ _).isInfix
    have hmem : field.1 ++ " = ?" ∈ fields.map fun field => field.1 ++ " = ?" :=
      List.mem_map_of_mem hfield
    refine (hassigned.trans (isInfix_intercalate ", " hmem)).trans ?_
    unfold updateStatement
    simp only [String.toList_append]
    exact (((List.suffix_append _ _).isInfix.trans (List.prefix_append _ _).isInfix).trans
      (List.prefix_append _ _).isInfix).trans (List.prefix_append _ _).isInfix

/-- A column that a statement shows stands in its text. -/
theorem Statement.ShowsColumn.isInfix (h : s.ShowsColumn request column) :
    column.toList <:+: s.sql.toList := by
  cases h with
  | filter hid hread hs hc => exact hs ▸ isInfix_selectStatement_filter _ _ hc
  | sort hread hs hentry => exact hs ▸ isInfix_selectStatement_sort _ _ _ hentry
  | write hbinds =>
      obtain ⟨fields, hwrites, -, hmem⟩ := hbinds
      exact hwrites.isInfix (List.mem_map.mpr ⟨_, hmem, rfl⟩)

/-! ## Known columns -/

theorem Draft.ColumnsKnown.hasColumn {settings : ResourceSettings} {resource : String}
    {draft : Draft} {schema : Schema} {names : List String}
    (h : draft.ColumnsKnown settings resource schema) (hstrict : settings.strictColumns = true)
    (hchecked : draft.checked = some names) : ∀ name ∈ names, schema.HasColumn resource name := by
  obtain ⟨known, hknown, hall⟩ := h names (by rw [lookedUp, if_pos hstrict, hchecked])
  exact fun name hname => ⟨known, hknown, hall name hname⟩

theorem Statement.Binds.keyword {resource : String} {value : Value}
    (h : s.Binds resource column value) : s.keyword = "INSERT" ∨ s.keyword = "UPDATE" := by
  obtain ⟨fields, hwrites, -, -⟩ := h
  exact hwrites.keyword

theorem Statement.ShowsColumn.keyword_ne (h : s.ShowsColumn request column) :
    s.keyword ≠ "DELETE" := by
  intro hdelete
  cases h with
  | filter _ _ hs | sort _ hs =>
      rw [hs, keyword_selectStatement] at hdelete
      exact absurd hdelete (by decide)
  | write hbinds => exact absurd (hdelete ▸ hbinds.keyword) (by decide)

/-- What a write shows are the names of its fields. -/
theorem Statement.ShowsColumn.mem_names {fields : Record} (h : s.ShowsColumn request column)
    (hwrites : s.Writes request.resource fields)
    (hfields : ∀ name ∈ fields.names, isIdentifier name) : column ∈ fields.names := by
  have hkeyword := hwrites.keyword
  cases h with
  | filter hid hread hs hc | sort hread hs hentry =>
      rw [hs, keyword_selectStatement] at hkeyword
      exact absurd hkeyword (by decide)
  | write hbinds => exact List.mem_map.mpr ⟨_, (hwrites.binds_iff hfields _ _).mp hbinds, rfl⟩

theorem Statement.Writes.keyword_ne {resource : String} {fields : Record}
    (h : s.Writes resource fields) : s.keyword ≠ "SELECT" := by
  intro hselect
  exact absurd (hselect ▸ h.keyword) (by decide)

def Request.SortsRecordByKnown (request : Request) (schema : Schema) : Prop :=
  ∀ id q, readId request.rawId = .ok (some id) → Query.read request.query = .ok q →
    ∀ entry ∈ q.sort, schema.HasColumn request.resource entry.field

/-- **Strict mode.** In strict mode every column that a statement shows is one of its resource,
except that a reading by id is sorted by whatever its query says. -/
theorem hasColumn_of_submitted_iff (hstrict : d.settings.strictColumns = true)
    (hs : .submitted s ∈ (d.dispatch request w).events) :
    (∀ column, s.ShowsColumn request column → w.schema.HasColumn request.resource column) ↔
      (s.keyword = "SELECT" → request.SortsRecordByKnown w.schema) := by
  obtain ⟨kind, verb, id, draft, ⟨hadmits, hid, hdraft, hknown⟩, rfl⟩ :=
    submitted_mem_dispatch_iff.mp hs
  cases Request.drafts_of_draft_eq_ok hdraft with
  | @select q id hread =>
      have hkeyword := keyword_selectStatement d.settings.regexOperator request.resource q id
      constructor
      · intro h _ _ _ _ hread' entry hentry
        cases hread.symm.trans hread'
        exact h _ (.sort hread rfl hentry)
      · intro h column hshows
        cases hshows with
        | filter hid' hread' _ hc =>
            cases hid.symm.trans hid'
            cases hread.symm.trans hread'
            exact hknown.hasColumn hstrict rfl _ (List.mem_append_left _ (List.mem_map_of_mem hc))
        | sort hread' _ hentry =>
            cases hread.symm.trans hread'
            cases id with
            | none =>
                exact hknown.hasColumn hstrict rfl _
                  (List.mem_append_right _ (List.mem_map_of_mem hentry))
            | some id => exact h hkeyword id q hid hread _ hentry
        | write hbinds => exact absurd (hkeyword ▸ hbinds.keyword) (by decide)
  | @insert _ body stored hraw hoffers hstored =>
      have hwrites : (insertStatement request.resource stored).Writes request.resource stored :=
        Or.inl rfl
      refine iff_of_true (fun column hshows => ?_)
        (fun hselect => absurd hselect hwrites.keyword_ne)
      exact hknown.hasColumn hstrict rfl column
        (hshows.mem_names hwrites (hoffers.isIdentifier_stored hstored))
  | @update id body stored hoffers hstored =>
      have hwrites : (updateStatement request.resource stored id).Writes request.resource stored :=
        Or.inr ⟨id, rfl⟩
      refine iff_of_true (fun column hshows => ?_)
        (fun hselect => absurd hselect hwrites.keyword_ne)
      exact hknown.hasColumn hstrict rfl column
        (hshows.mem_names hwrites (hoffers.isIdentifier_stored hstored))
  | @delete id =>
      have hkeyword := keyword_deleteStatement request.resource id
      refine iff_of_true (fun column hshows => absurd hkeyword hshows.keyword_ne)
        (fun hselect => ?_)
      exact absurd (hkeyword.symm.trans hselect) (by decide)

def sortedWidgets (rawId : Option String) (query : String) : Request where
  method := "GET"
  resource := "widgets"
  rawId := rawId
  query := query

def namedWidgetsWorld : World where
  schema := { tables := ["widgets"], columns := [("widgets", ["id", "name"])] }

theorem hasColumn_of_submitted_sortedWidgets :
    let request := sortedWidgets none "name!=bolt&sort=-name"
    ∃ s : Statement, s.sql = "SELECT * FROM widgets WHERE name != ? ORDER BY name DESC" ∧
      .submitted s ∈ ((openDispatcher true).dispatch request namedWidgetsWorld).events ∧
      ∀ column, s.ShowsColumn request column →
        namedWidgetsWorld.schema.HasColumn "widgets" column := by
  intro request
  have hsubmitted : (((openDispatcher true).dispatch request namedWidgetsWorld).events.filterMap
      Event.submitted?).map Statement.sql =
      ["SELECT * FROM widgets WHERE name != ? ORDER BY name DESC"] := by
    decide +kernel
  obtain ⟨s, hs, hsql⟩ := List.mem_map.mp (hsubmitted ▸ List.mem_singleton_self _)
  have hs := Event.mem_filterMap_submitted?_iff.mp hs
  refine ⟨s, hsql, hs, (hasColumn_of_submitted_iff rfl hs).mpr fun _ id q hid => ?_⟩
  cases hid

theorem not_hasColumn_of_submitted_sortedWidget :
    ¬ ∀ (d : Dispatcher) (request : Request) (w : World) (s : Statement),
      d.settings.strictColumns = true → .submitted s ∈ (d.dispatch request w).events →
      ∀ column, s.ShowsColumn request column →
        w.schema.HasColumn request.resource column := by
  intro h
  let d := openDispatcher true
  let request := sortedWidgets (some "5") "sort=secret"
  obtain ⟨q, hread, hsort⟩ : ∃ q, Query.read "sort=secret" = .ok q ∧
      q.sort = [⟨"secret", .asc⟩] := by
    have hsort : (Query.read "sort=secret").toOption.map Query.sort =
        some [⟨"secret", .asc⟩] := by
      decide +kernel
    obtain ⟨q, hq, hsort⟩ := Option.map_eq_some_iff.mp hsort
    exact ⟨q, eq_ok_of_toOption_eq_some hq, hsort⟩
  have hadmits : d.Admits request namedWidgetsWorld .table .get :=
    Dispatcher.admits_of_open rfl (by decide) (by decide) (by decide)
  have hdraft : request.draft d.settings d.hasher .get (some (.int 5)) =
      .ok (.reading d.settings "widgets" q (some (.int 5))) := by
    simp only [Request.draft, draftRead, request, sortedWidgets, hread]
    rfl
  have hknown : (Draft.reading d.settings "widgets" q (some (.int 5))).ColumnsKnown d.settings
      "widgets" namedWidgetsWorld.schema := by
    intro names hnames
    cases hnames
  have hs : .submitted (selectStatement "REGEXP" "widgets" q (some (.int 5))) ∈
      (d.dispatch request namedWidgetsWorld).events :=
    submitted_mem_dispatch_iff.mpr ⟨.table, .get, some (.int 5), _,
      ⟨hadmits, rfl, hdraft, hknown⟩, rfl⟩
  have hentry : (⟨"secret", .asc⟩ : SortEntry) ∈ q.sort := hsort ▸ List.mem_singleton_self _
  have hshows : (selectStatement "REGEXP" "widgets" q (some (.int 5))).ShowsColumn request
      (⟨"secret", .asc⟩ : SortEntry).field :=
    .sort hread rfl hentry
  obtain ⟨known, hcolumns, hmem⟩ := h d request namedWidgetsWorld _ rfl hs "secret" hshows
  cases hcolumns
  exact absurd hmem (by decide)

end TableGateway
