import TableGateway.Proofs.Dispatch.Stages
import TableGateway.Proofs.Dispatch.Strictness
import TableGateway.Proofs.Query.Condition

/-!
# Reading by id

An id in the path replaces the filters of a query, but not its sort order, limit and offset, and
these can be told from the text of the statement. So two queries give one statement for an id
exactly if they agree in the three, and an offset can hide the record that the id names.
-/

namespace TableGateway

open Text

/-! ## Words -/

def sortWords : List SortEntry → List String
  | [] => []
  | [entry] => [entry.field, entry.direction.word]
  | entry :: next :: rest =>
    entry.field :: (entry.direction.word ++ ",") :: sortWords (next :: rest)

def orderWords : List SortEntry → List String
  | [] => []
  | sort => "ORDER" :: "BY" :: sortWords sort

def pagingWords (limit offset : Option Nat) : List String :=
  limit.elim [] (fun n => ["LIMIT", Number.writeInt n]) ++
    offset.elim [] (fun n => ["OFFSET", Number.writeInt n])

def Query.tailWords (q : Query) : List String :=
  orderWords q.sort ++ pagingWords q.limit q.offset

def blankBefore (words : List String) : List Char :=
  words.flatMap fun word => ' ' :: word.toList

theorem blankBefore_append (words others : List String) :
    blankBefore (words ++ others) = blankBefore words ++ blankBefore others :=
  List.flatMap_append

/-- Words without blanks can be told apart again once each has a blank before it. -/
theorem blankBefore_injective {words others : List String}
    (hwords : ∀ word ∈ words, ' ' ∉ word.toList) (hothers : ∀ word ∈ others, ' ' ∉ word.toList)
    (h : blankBefore words = blankBefore others) : words = others := by
  -- With an empty word in front, the blanks stand between words.
  have hsplit : ∀ row : List String, (∀ word ∈ row, ' ' ∉ word.toList) →
      (blankBefore row).splitOn ' ' = [] :: row.map String.toList := by
    intro row hrow
    have hjoined := toList_intercalate_blank "" row
    rw [String.toList_intercalate] at hjoined
    have hblank : ∀ part ∈ ("" :: row).map String.toList, ' ' ∉ part := by
      intro part hpart
      obtain ⟨word, hword, rfl⟩ := List.mem_map.mp hpart
      rcases List.mem_cons.mp hword with rfl | hword
      · simp
      · exact hrow word hword
    calc (blankBefore row).splitOn ' '
        = ([' '].intercalate (("" :: row).map String.toList)).splitOn ' ' :=
          congrArg (List.splitOn ' ') hjoined.symm
      _ = ("" :: row).map String.toList := List.splitOn_intercalate ' ' hblank (by simp)
  have hparts := (hsplit words hwords).symm.trans ((congrArg _ h).trans (hsplit others hothers))
  exact List.map_injective_iff.mpr (fun _ _ => String.toList_inj.mp) (List.cons.inj hparts).2

theorem blankBefore_sortWords {sort : List SortEntry} (hsort : sort ≠ []) :
    blankBefore (sortWords sort) = ' ' :: (", ".intercalate (sort.map SortEntry.sql)).toList := by
  rw [String.toList_intercalate, List.map_map]
  induction sort with
  | nil => exact absurd rfl hsort
  | cons entry rest ih =>
      cases rest with
      | nil => simp [blankBefore, sortWords, SortEntry.sql]
      | cons next rest =>
          have hrest := ih (List.cons_ne_nil _ _)
          rw [List.map_cons] at hrest
          rw [sortWords, List.map_cons, List.map_cons, List.intercalate_cons_cons]
          rw [blankBefore, List.flatMap_cons, List.flatMap_cons, ← blankBefore, hrest]
          simp [SortEntry.sql]

/-- The text behind the condition is its words. -/
theorem Query.flatMap_tailPieces (q : Query) {predicate : Predicate} (h : predicate.isGiven) :
    blankBefore (q.tailPieces predicate) =
      blankBefore ["WHERE " ++ predicate.sql] ++ blankBefore q.tailWords := by
  have horder : blankBefore (if q.sort.isEmpty then []
      else ["ORDER BY " ++ ", ".intercalate (q.sort.map SortEntry.sql)]) =
        blankBefore (orderWords q.sort) := by
    cases hsort : q.sort with
    | nil => rfl
    | cons entry rest =>
        have hentries := blankBefore_sortWords (List.cons_ne_nil entry rest)
        simp only [orderWords, blankBefore, List.flatMap_cons] at hentries ⊢
        rw [hentries]
        simp
  have hlimit : ∀ (word : String) (count : Option Nat),
      blankBefore (count.map fun n => word ++ " " ++ Number.writeInt n).toList =
        blankBefore (count.elim [] fun n => [word, Number.writeInt n]) := by
    intro word count
    cases count with
    | none => rfl
    | some n => simp [blankBefore]
  unfold tailPieces tailWords pagingWords
  rw [if_pos h]
  simp only [blankBefore_append]
  rw [horder, ← hlimit, ← hlimit]
  simp [List.append_assoc]

/-! ## Reading the words -/

theorem Direction.word_injective {direction other : Direction}
    (h : direction.word = other.word) : direction = other := by
  cases direction <;> cases other <;> first | rfl | exact absurd h (by decide)

theorem Direction.word_ne (direction other : Direction) : direction.word ≠ other.word ++ "," := by
  cases direction <;> cases other <;> decide

theorem SortEntry.eq_of_words {entry other : SortEntry} (hfield : entry.field = other.field)
    (hword : entry.direction.word = other.direction.word) : entry = other := by
  cases entry
  cases other
  exact congr (congrArg SortEntry.mk hfield) (Direction.word_injective hword)

/-- The comma behind an entry says that the sort order goes on, so its end shows in the words. -/
theorem eq_of_sortWords_append_eq {sort sort' : List SortEntry} {rest rest' : List String}
    (hsort : sort ≠ []) (hsort' : sort' ≠ [])
    (h : sortWords sort ++ rest = sortWords sort' ++ rest') : sort = sort' ∧ rest = rest' := by
  induction sort generalizing sort' with
  | nil => exact absurd rfl hsort
  | cons entry sort ih =>
      obtain ⟨entry', sort', rfl⟩ := List.exists_cons_of_ne_nil hsort'
      -- The word behind the field has a comma exactly if more entries follow.
      cases sort with
      | nil =>
          cases sort' with
          | nil =>
              simp only [sortWords, List.cons_append, List.nil_append, List.cons.injEq] at h
              obtain ⟨hfield, hword, hrest⟩ := h
              exact ⟨by rw [SortEntry.eq_of_words hfield hword], hrest⟩
          | cons next' sort' =>
              simp only [sortWords, List.cons_append, List.nil_append, List.cons.injEq] at h
              exact absurd h.2.1 (Direction.word_ne _ _)
      | cons next sort =>
          cases sort' with
          | nil =>
              simp only [sortWords, List.cons_append, List.nil_append, List.cons.injEq] at h
              exact absurd h.2.1.symm (Direction.word_ne _ _)
          | cons next' sort' =>
              simp only [sortWords, List.cons_append, List.cons.injEq, String.append_left_inj] at h
              obtain ⟨hfield, hword, hrest⟩ := h
              obtain ⟨hsame, hrest⟩ := ih (List.cons_ne_nil _ _) (List.cons_ne_nil _ _) hrest
              exact ⟨by rw [SortEntry.eq_of_words hfield hword, hsame], hrest⟩

theorem head?_pagingWords (limit offset : Option Nat) :
    "ORDER" ∉ (pagingWords limit offset).head? := by
  cases limit <;> cases offset <;> simp [pagingWords]

theorem pagingWords_injective {limit offset limit' offset' : Option Nat}
    (h : pagingWords limit offset = pagingWords limit' offset') :
    limit = limit' ∧ offset = offset' := by
  have hcount : ∀ m n : Nat, Number.writeInt m = Number.writeInt n ↔ m = n :=
    fun m n => ⟨Number.writeInt_natCast_injective, fun hmn => by rw [hmn]⟩
  revert h
  cases limit <;> cases offset <;> cases limit' <;> cases offset' <;>
    simp [pagingWords, hcount]

/-- The words tell the sort order, the limit and the offset. -/
theorem Query.tailWords_injective {q q' : Query} (h : q.tailWords = q'.tailWords) :
    q.sort = q'.sort ∧ q.limit = q'.limit ∧ q.offset = q'.offset := by
  unfold tailWords at h
  cases hsort : q.sort with
  | nil =>
      cases hsort' : q'.sort with
      | nil =>
          rw [hsort, hsort'] at h
          exact ⟨rfl, pagingWords_injective h⟩
      | cons entry' rest' =>
          rw [hsort, hsort'] at h
          refine absurd ?_ (head?_pagingWords q.limit q.offset)
          rw [← List.nil_append (pagingWords q.limit q.offset)]
          exact h ▸ rfl
  | cons entry rest =>
      cases hsort' : q'.sort with
      | nil =>
          rw [hsort, hsort'] at h
          refine absurd ?_ (head?_pagingWords q'.limit q'.offset)
          rw [← List.nil_append (pagingWords q'.limit q'.offset)]
          exact h ▸ rfl
      | cons entry' rest' =>
          rw [hsort, hsort'] at h
          simp only [orderWords, List.cons_append, List.cons.injEq, true_and] at h
          obtain ⟨hsame, hpaging⟩ :=
            eq_of_sortWords_append_eq (List.cons_ne_nil _ _) (List.cons_ne_nil _ _) h
          exact ⟨hsame, pagingWords_injective hpaging⟩

/-- An identifier holds no blank, and neither does an entry of a sort order. -/
theorem notMem_sortWords {sort : List SortEntry} (h : ∀ entry ∈ sort, isIdentifier entry.field) :
    ∀ word ∈ sortWords sort, ' ' ∉ word.toList := by
  have hfield : ∀ entry ∈ sort, ' ' ∉ entry.field.toList :=
    fun entry hentry => notMem_identifier (h entry hentry) (by decide) (by decide)
  have hword : ∀ direction : Direction, ' ' ∉ direction.word.toList := by
    intro direction
    cases direction <;> decide
  induction sort with
  | nil => simp [sortWords]
  | cons entry rest ih =>
      obtain ⟨hfirst, hrest⟩ := List.forall_mem_cons.mp hfield
      cases rest with
      | nil => simp [sortWords, hfirst, hword]
      | cons next rest =>
          have htail := ih (fun other hother => h other (List.mem_cons_of_mem _ hother)) hrest
          rw [sortWords, List.forall_mem_cons, List.forall_mem_cons]
          exact ⟨hfirst, by simp [hword], htail⟩

theorem Query.notMem_tailWords {q : Query} (hq : q.Sound) :
    ∀ word ∈ q.tailWords, ' ' ∉ word.toList := by
  have hcount : ∀ n : Nat, ' ' ∉ (Number.writeInt n).toList := Number.notMem_writeInt (by decide)
  have horder : ∀ word ∈ orderWords q.sort, ' ' ∉ word.toList := by
    cases hsort : q.sort with
    | nil => simp [orderWords]
    | cons entry rest =>
        rw [orderWords, List.forall_mem_cons, List.forall_mem_cons]
        · exact ⟨by decide, by decide, notMem_sortWords (hsort ▸ hq.sort)⟩
        · simp
  have hpaging : ∀ word ∈ pagingWords q.limit q.offset, ' ' ∉ word.toList := by
    cases q.limit <;> cases q.offset <;> simp [pagingWords, hcount]
  intro word hword
  rcases List.mem_append.mp hword with hword | hword
  · exact horder word hword
  · exact hpaging word hword

/-! ## Statements -/

/-- The text of a reading by id tells sort order, limit and offset apart, and nothing else of a
query. -/
theorem selectStatement_eq_iff {regexOperator resource : String} {q q' : Query} (hq : q.Sound)
    (hq' : q'.Sound) (id : Value) :
    selectStatement regexOperator resource q (some id) =
      selectStatement regexOperator resource q' (some id) ↔
        q.sort = q'.sort ∧ q.limit = q'.limit ∧ q.offset = q'.offset := by
  let predicate := Predicate.ofClauses regexOperator [⟨idColumn, .eq, id, .and⟩]
  have hgiven : predicate.isGiven := by
    simp [predicate, Predicate.isGiven, Predicate.ofClauses, Predicate.pieces, Clause.comparison,
      idColumn]
  constructor
  · intro h
    have hsql := congrArg (fun s => s.sql.toList) h
    simp only [selectStatement] at hsql
    rw [toList_intercalate_blank, toList_intercalate_blank] at hsql
    have htail := List.append_cancel_left hsql
    change blankBefore (q.tailPieces predicate) = blankBefore (q'.tailPieces predicate) at htail
    rw [q.flatMap_tailPieces hgiven, q'.flatMap_tailPieces hgiven] at htail
    exact Query.tailWords_injective (blankBefore_injective (Query.notMem_tailWords hq)
      (Query.notMem_tailWords hq') (List.append_cancel_left htail))
  · rintro ⟨hsort, hlimit, hoffset⟩
    simp only [selectStatement, Query.tailPieces]
    rw [hsort, hlimit, hoffset]

/-! ## Runs -/

variable {d : Dispatcher} {request : Request} {w : World} {kind : Kind} {id : Value}
  {raw raw' : String} {q q' : Query}

def Request.withQuery (request : Request) (raw : String) : Request :=
  { request with query := raw }

theorem Dispatcher.Admits.withQuery (h : d.Admits request w kind .get) (raw : String) :
    d.Admits (request.withQuery raw) w kind .get :=
  ⟨h.resolved, h.allowed, h.admitted⟩

theorem draft_lookup (hq : Query.read raw = .ok q) :
    (request.withQuery raw).draft d.settings d.hasher .get (some id) =
      .ok (.reading d.settings request.resource q (some id)) := by
  simp only [Request.withQuery, Request.draft, draftRead, hq]
  rfl

theorem columnsKnown_lookup (d : Dispatcher) (resource : String) (q : Query) (id : Value)
    (schema : Schema) :
    (Draft.reading d.settings resource q (some id)).ColumnsKnown d.settings resource schema := by
  have hunchecked : (Draft.reading d.settings resource q (some id)).lookedUp d.settings = none :=
    ite_self none
  intro names hnames
  cases hunchecked.symm.trans hnames

theorem Dispatcher.submissions_lookup (hadmits : d.Admits request w kind .get)
    (hid : readId request.rawId = .ok (some id)) (hq : Query.read raw = .ok q) :
    (d.dispatch (request.withQuery raw) w).submissions =
      [selectStatement d.settings.regexOperator request.resource q (some id)] := by
  have hsubmitted : .submitted (selectStatement d.settings.regexOperator request.resource q
      (some id)) ∈ (d.dispatch (request.withQuery raw) w).events :=
    submitted_mem_dispatch_iff.mpr ⟨kind, .get, some id, _,
      ⟨hadmits.withQuery raw, hid, draft_lookup hq, columnsKnown_lookup d _ q id _⟩, rfl⟩
  have hmem := Event.mem_filterMap_submitted?_iff.mpr hsubmitted
  obtain ⟨s, hs⟩ := List.length_eq_one_iff.mp (Nat.le_antisymm
    (d.length_submissions_dispatch_le (request.withQuery raw) w) (List.length_pos_of_mem hmem))
  rw [Ending.submissions] at hs
  rw [Ending.submissions, hs]
  rw [hs, List.mem_singleton] at hmem
  rw [hmem]

theorem Dispatcher.result_perform_lookup (hid : readId request.rawId = .ok (some id))
    (hq : Query.read raw = .ok q) (w : World) :
    (d.perform (request.withQuery raw) .get w).result =
      ((Action.submit (selectStatement d.settings.regexOperator request.resource q (some id)) >>=
        fun outcome => Action.ofExcept (Reply.ofOutcome .get (some id) outcome)) w).result := by
  have hchecked := Draft.columnsKnown_iff.mp (columnsKnown_lookup d request.resource q id w.schema)
  have hid : readId (request.withQuery raw).rawId = .ok (some id) := hid
  rw [perform, hid, Action.ofExcept_ok_bind, Action.logAll_bind, draft_lookup hq,
    Action.ofExcept_ok_bind]
  dsimp only [Request.withQuery]
  rw [Action.bind_of_ok hchecked, Action.world_checkColumns]
  dsimp only [Draft.reading]

/-- **What decides a reading by id.** Two queries give one statement for an id exactly if they have
the same sort order, limit and offset; their filters do not count. With one statement goes one
answer. -/
theorem submissions_lookup_eq_iff (hadmits : d.Admits request w kind .get)
    (hid : readId request.rawId = .ok (some id)) (hq : Query.read raw = .ok q)
    (hq' : Query.read raw' = .ok q') :
    let x := d.dispatch (request.withQuery raw) w
    let y := d.dispatch (request.withQuery raw') w
    (x.submissions = y.submissions ↔
      q.sort = q'.sort ∧ q.limit = q'.limit ∧ q.offset = q'.offset) ∧
    (x.submissions = y.submissions → x.result = y.result) := by
  intro x y
  have hx : x.submissions = _ := Dispatcher.submissions_lookup hadmits hid hq
  have hy : y.submissions = _ := Dispatcher.submissions_lookup hadmits hid hq'
  rw [hx, hy, List.singleton_inj]
  refine ⟨selectStatement_eq_iff (Query.sound_of_read hq) (Query.sound_of_read hq') id, ?_⟩
  intro hstatement
  obtain ⟨found, _, hresolve, -, hfirst⟩ := Dispatcher.dispatch_of_admits (hadmits.withQuery raw)
  obtain ⟨found', _, hresolve', -, hsecond⟩ :=
    Dispatcher.dispatch_of_admits (hadmits.withQuery raw')
  obtain rfl : found = found' := Except.ok.inj (hresolve.symm.trans hresolve')
  dsimp only [x, y]
  rw [hfirst, hsecond]
  dsimp only
  rw [Dispatcher.result_perform_lookup hid hq, Dispatcher.result_perform_lookup hid hq', hstatement]

theorem submissions_lookup_eq_iff_fifthWidget :
    let request := sortedWidgets (some "5") ""
    let w : World := { namedWidgetsWorld with answers := [.done (.rows [[("id", .int 5)]])] }
    let x := (openDispatcher true).dispatch (request.withQuery "name=bolt&limit=3") w
    let y := (openDispatcher true).dispatch (request.withQuery "limit=3&|name!=bolt") w
    x.submissions = y.submissions ∧ x.result = y.result := by
  intro request w x y
  have hadmits : (openDispatcher true).Admits request w .table .get :=
    Dispatcher.admits_of_open rfl (by decide) (by decide) (by decide)
  have hq : Query.read "name=bolt&limit=3" =
      .ok { filters := [⟨"name", .eq, .text "bolt", .and⟩], limit := some 3 } := by rfl
  have hq' : Query.read "limit=3&|name!=bolt" =
      .ok { filters := [⟨"name", .ne, .text "bolt", .or⟩], limit := some 3 } := by rfl
  obtain ⟨hiff, hresult⟩ := submissions_lookup_eq_iff hadmits rfl hq hq'
  have hsubmissions := hiff.mpr ⟨rfl, rfl, rfl⟩
  exact ⟨hsubmissions, hresult hsubmissions⟩

/-- An offset makes another statement of a reading by id. -/
theorem not_submissions_eq_fifthWidget :
    ¬ ∀ (d : Dispatcher) (request : Request) (w : World) (kind : Kind) (id : Value)
      (raw raw' : String) (q q' : Query), d.Admits request w kind .get →
      readId request.rawId = .ok (some id) → Query.read raw = .ok q → Query.read raw' = .ok q' →
      (d.dispatch (request.withQuery raw) w).submissions =
        (d.dispatch (request.withQuery raw') w).submissions := by
  intro h
  let request := sortedWidgets (some "5") ""
  have hadmits : (openDispatcher false).Admits request namedWidgetsWorld .table .get :=
    Dispatcher.admits_of_open rfl (by decide) (by decide) (by decide)
  have hq : Query.read "" = .ok {} := rfl
  have hq' : Query.read "offset=1" =
      .ok { limit := some unboundedLimit, offset := some 1 } := rfl
  have hsame := h _ request _ _ _ _ _ _ _ hadmits rfl hq hq'
  rw [Dispatcher.submissions_lookup hadmits rfl hq, Dispatcher.submissions_lookup hadmits rfl hq',
    List.singleton_inj, selectStatement_eq_iff Query.sound_empty (Query.sound_of_read hq')] at hsame
  cases hsame.2.2

end TableGateway
