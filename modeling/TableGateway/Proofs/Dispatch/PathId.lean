import TableGateway.Proofs.Dispatch.Lookup
import TableGateway.Proofs.Query.Rendering

namespace TableGateway

open Text

/-! ## A filter on the id -/

/-- The query that asks for an id, which is coded but for some marks. -/
def Query.forId (marks : List Char) (text : String) : String :=
  idColumn ++ "=" ++ String.ofList (Percent.encodeBut marks text.toList)

variable {marks : List Char} {text : String} {number : Number}

/-- A number holds none of the marks that fragments are read by. -/
theorem notMem_of_read?_of_mem (h : Number.read? text.toList = .ok (some number)) :
    ∀ m ∈ ['&', '!', '>', '<'], m ∉ text.toList := by
  have hapart : ∀ m ∈ ['&', '!', '>', '<'],
      isBlank m = false ∧ isDigit m = false ∧ m ∉ Number.numeralMarks := by
    simp only [List.forall_mem_cons, List.not_mem_nil, false_imp_iff, implies_true, and_true]
    decide
  intro m hm
  obtain ⟨hblank, hdigit, hmark⟩ := hapart m hm
  exact Number.notMem_of_read? h hblank hdigit hmark

theorem Query.toList_forId (marks : List Char) (text : String) :
    (forId marks text).toList = "id=".toList ++ Percent.encodeBut marks text.toList := by
  simp [forId, idColumn]

/-- No spelling of a number can end a fragment or begin another. -/
theorem fragments_forId (h : Number.read? text.toList = .ok (some number)) :
    fragments (Query.forId marks text) = [(Query.forId marks text).toList] := by
  have hfree : '&' ∉ (Query.forId marks text).toList := by
    have hcoded : '&' ∉ Percent.encodeBut marks text.toList :=
      Percent.notMem_encodeBut (fun hplain => notMem_of_read?_of_mem h '&' List.mem_cons_self hplain.2)
        (by decide) (by decide)
    rw [Query.toList_forId, List.mem_append]
    exact not_or.mpr ⟨by decide, hcoded⟩
  have hsplit : List.splitOn '&' (Query.forId marks text).toList =
      [(Query.forId marks text).toList] := by
    have hparts : ∀ part ∈ [(Query.forId marks text).toList], '&' ∉ part :=
      List.forall_mem_singleton.mpr hfree
    simpa using List.splitOn_intercalate '&' hparts (List.cons_ne_nil _ _)
  have hcons : (Query.forId marks text).toList =
      'i' :: ("d=".toList ++ Percent.encodeBut marks text.toList) := Query.toList_forId marks text
  rw [fragments]
  split
  · rename_i rest hmark
    rw [hcons] at hmark
    cases hmark
  · rw [hsplit, hcons]
    rfl

/-- A filter on the id is read as a comparison with the number itself. -/
theorem Token.read_forId (h : Number.read? text.toList = .ok (some number)) :
    Token.read (String.ofList ("id=".toList ++ text.toList)) =
      .ok (.clause ⟨idColumn, .eq, number.toValue, .and⟩) := by
  have hkey : ∀ c ∈ "id".toList, IsKeyChar c :=
    fun c hc => isKeyChar_of_mem_identifier (by decide) hc
  have hleads : Operator.eq.Leads text.toList :=
    Operator.leads_eq fun m hm => notMem_of_read?_of_mem h m (List.mem_cons_of_mem _ hm)
  have hfound : findOperator? ("id=".toList ++ text.toList) =
      some (.eq, "id".toList, text.toList) := findOperator?_append hkey hleads
  have hvalue : Operator.eq.readValue text = .ok number.toValue := by
    rw [Operator.readValue, Value.ofText, h]
    · rfl
    · exact fun h => by cases h
  rw [Token.read, String.toList_ofList, hfound]
  simp only [String.ofList_toList, hvalue]
  rfl

/-- The query for an id is one filter, with the number that the text spells. -/
theorem Query.read_forId (hpercent : '%' ∉ marks)
    (h : Number.read? text.toList = .ok (some number)) :
    Query.read (forId marks text) =
      .ok { filters := [⟨idColumn, .eq, number.toValue, .and⟩] } := by
  have hdecode : Percent.decode (forId marks text).toList = "id=".toList ++ text.toList := by
    rw [toList_forId, Percent.decode_append_encodeBut (by decide) hpercent]
  have hread : Reading.ofText (forId marks text) =
      ({ query := { filters := [⟨idColumn, .eq, number.toValue, .and⟩] } }, none) := by
    rw [Reading.ofText, fragments_forId h, Reading.addAll, Reading.addFragment, hdecode,
      Token.read_forId h]
    rfl
  rw [Query.read, hread]
  rfl

theorem selectStatement_forId (regexOperator resource : String) (id : Value) :
    selectStatement regexOperator resource {} (some id) =
      ⟨"SELECT * FROM " ++ resource ++ " WHERE id = ?", [id]⟩ := by
  have hsql : " ".intercalate ["SELECT * FROM " ++ resource, "WHERE id = ?"] =
      "SELECT * FROM " ++ resource ++ " WHERE id = ?" := by
    rw [← String.toList_inj, toList_intercalate_blank]
    simp
  rw [← hsql]
  rfl

/-! ## Requests for a record -/

def Request.at (request : Request) (rawId : Option String) (query : String) : Request :=
  { request with rawId, query }

variable {d : Dispatcher} {request : Request} {rawId rawId' : Option String} {raw raw' : String}
  {w : World} {kind : Kind} {verb : Verb} {id : Option Value} {q : Query} {s : Statement}

theorem Dispatcher.admits_at_iff :
    d.Admits (request.at rawId raw) w kind verb ↔ d.Admits request w kind verb :=
  ⟨fun h => ⟨h.resolved, h.allowed, h.admitted⟩, fun h => ⟨h.resolved, h.allowed, h.admitted⟩⟩

theorem Kind.verb_eq_get {method : String} (hmethod : method = Verb.get.name)
    (hverb : kind.verb? method = some verb) : verb = .get := by
  have hname := (Kind.verb?_eq_some hverb).2
  rw [hmethod] at hname
  cases verb <;> first | rfl | exact absurd hname (by decide)

/-- What a reading submits where no columns are looked up. -/
theorem submitted_mem_dispatch_get_iff (hlax : d.settings.strictColumns = false)
    (hmethod : normalizeMethod request.method = Verb.get.name) (hid : readId rawId = .ok id)
    (hq : Query.read raw = .ok q) :
    .submitted s ∈ (d.dispatch (request.at rawId raw) w).events ↔
      (∃ kind, d.Admits request w kind .get) ∧
        s = selectStatement d.settings.regexOperator request.resource q id := by
  rw [submitted_mem_dispatch_iff]
  constructor
  · rintro ⟨kind, verb, id', draft, ⟨hadmits, hread, hdraft, -⟩, rfl⟩
    obtain rfl := Kind.verb_eq_get hmethod hadmits.admitted
    obtain rfl : id = id' := Except.ok.inj (hid.symm.trans hread)
    cases Request.drafts_of_draft_eq_ok hdraft with
    | select hread' =>
        obtain rfl : q = _ := Except.ok.inj (hq.symm.trans hread')
        exact ⟨⟨kind, Dispatcher.admits_at_iff.mp hadmits⟩, rfl⟩
  · rintro ⟨⟨kind, hadmits⟩, rfl⟩
    have hdraft : (request.at rawId raw).draft d.settings d.hasher .get id =
        .ok (.reading d.settings request.resource q id) := by
      simp only [Request.at, Request.draft, draftRead, hq]
      rfl
    have hknown : (Draft.reading d.settings request.resource q id).ColumnsKnown d.settings
        request.resource w.schema := by
      simp [Draft.ColumnsKnown, Draft.lookedUp, hlax]
    exact ⟨kind, .get, id, _, ⟨Dispatcher.admits_at_iff.mpr hadmits, hid, hdraft, hknown⟩, rfl⟩

/-- Two runs submit the same, if each statement that one of them submits is submitted by both. -/
theorem Dispatcher.submissions_dispatch_eq {request' : Request} {w' : World}
    (h : ∀ s, .submitted s ∈ (d.dispatch request w).events ↔
      .submitted s ∈ (d.dispatch request' w').events) :
    (d.dispatch request w).submissions = (d.dispatch request' w').submissions := by
  have hmem : ∀ s, s ∈ (d.dispatch request w).submissions ↔
      s ∈ (d.dispatch request' w').submissions := by
    intro s
    rw [Ending.submissions, Ending.submissions, Event.mem_filterMap_submitted?_iff,
      Event.mem_filterMap_submitted?_iff, h]
  have hone := d.length_submissions_dispatch_le request w
  have hone' := d.length_submissions_dispatch_le request' w'
  cases hx : (d.dispatch request w).submissions with
  | nil =>
      rw [hx] at hmem
      exact (List.eq_nil_iff_forall_not_mem.mpr fun s hs =>
        List.not_mem_nil ((hmem s).mpr hs)).symm
  | cons s rest =>
      have hs := (hmem s).mp (hx ▸ List.mem_cons_self)
      obtain ⟨t, ht⟩ := List.length_eq_one_iff.mp
        (Nat.le_antisymm hone' (List.length_pos_of_mem hs))
      obtain rfl : rest = [] := by simpa [hx] using hone
      rw [ht] at hs ⊢
      rw [List.mem_singleton.mp hs]

/-! ## Texts that are no number -/

theorem Dispatcher.perform_at_of_readId (hid : readId rawId = readId rawId') :
    d.perform (request.at rawId raw) .get = d.perform (request.at rawId' raw) .get := by
  simp only [perform, Request.at, hid]
  rfl

/-- A reading depends on a text in the path only through the number that it spells. -/
theorem Dispatcher.dispatch_at_of_readId (hmethod : normalizeMethod request.method = Verb.get.name)
    (hid : readId rawId = readId rawId') :
    d.dispatch (request.at rawId raw) = d.dispatch (request.at rawId' raw) := by
  refine congrArg (Action.resolve request.resource >>= ·) (funext fun found => ?_)
  cases found with
  | none => rfl
  | some kind =>
      refine congrArg (Action.consult d.gate request.user request.resource
        (normalizeMethod request.method) kind >>= ·) (funext fun allowed => ?_)
      cases hverb : kind.verb? (normalizeMethod request.method) with
      | none => simp only [Request.at, hverb]
      | some verb =>
          obtain rfl := Kind.verb_eq_get hmethod hverb
          have hperform : d.perform (request.at rawId raw) .get =
              d.perform (request.at rawId' raw) .get := perform_at_of_readId hid
          simp only [Request.at] at hperform ⊢
          simp only [hverb, hperform]

/-- Without the number of a record nothing is changed and nothing is removed. -/
theorem Dispatcher.submissions_eq_nil_of_readId_eq_none
    (hmethod : normalizeMethod request.method ∈ [Verb.put.name, Verb.delete.name])
    (hid : readId request.rawId = .ok none) : (d.dispatch request w).submissions = [] := by
  refine List.eq_nil_iff_forall_not_mem.mpr fun s hs => ?_
  obtain ⟨kind, verb, id, draft, ⟨hadmits, hread, hdraft, -⟩, -⟩ :=
    submitted_mem_dispatch_iff.mp (Event.mem_filterMap_submitted?_iff.mp hs)
  obtain rfl : none = id := Except.ok.inj (hid.symm.trans hread)
  have hname := (Kind.verb?_eq_some hadmits.admitted).2
  rw [← hname] at hmethod
  cases Request.drafts_of_draft_eq_ok hdraft with
  | select hq => exact absurd hmethod (by decide)
  | insert hrawId hoffers hstored => exact absurd hmethod (by decide)

/-! ## Both ways to name a record -/

/-- **Ids in paths and in queries.** A reading of the record that a number in the path names and one
with a filter on the id submit one statement, the one that asks for this id, however the number is
spelled and whatever marks but the percent sign are left as they are. A text that is no number makes
no difference to a reading, and a change or removal at it submits nothing. -/
theorem submissions_pathId (hlax : d.settings.strictColumns = false) (hpercent : '%' ∉ marks) :
    (∀ id, readId (some text) = .ok (some id) →
      normalizeMethod request.method = Verb.get.name →
      (d.dispatch (request.at (some text) "") w).submissions =
        (d.dispatch (request.at none (Query.forId marks text)) w).submissions ∧
      ∀ kind, d.Admits request w kind .get →
        (d.dispatch (request.at (some text) "") w).submissions =
          [⟨"SELECT * FROM " ++ request.resource ++ " WHERE id = ?", [id]⟩]) ∧
    (readId (some text) = .ok none →
      (normalizeMethod request.method = Verb.get.name → ∀ raw,
        d.dispatch (request.at (some text) raw) w = d.dispatch (request.at none raw) w) ∧
      (normalizeMethod request.method ∈ [Verb.put.name, Verb.delete.name] → ∀ raw,
        (d.dispatch (request.at (some text) raw) w).submissions = [])) := by
  constructor
  · intro id hid hmethod
    obtain ⟨_, number, ⟨⟩, hnumber, rfl⟩ := readId_eq_ok_some hid
    have hstatement : selectStatement d.settings.regexOperator request.resource {}
        (some number.toValue) = selectStatement d.settings.regexOperator request.resource
          { filters := [⟨idColumn, .eq, number.toValue, .and⟩] } none := rfl
    have hempty : Query.read "" = .ok {} := rfl
    have hnone : readId none = .ok none := rfl
    refine ⟨Dispatcher.submissions_dispatch_eq fun s => ?_, fun kind hadmits => ?_⟩
    · rw [submitted_mem_dispatch_get_iff hlax hmethod hid hempty,
        submitted_mem_dispatch_get_iff hlax hmethod hnone (Query.read_forId hpercent hnumber),
        hstatement]
    · have hadmits' : d.Admits (request.at (some text) "") w kind .get :=
        Dispatcher.admits_at_iff.mpr hadmits
      refine (Dispatcher.submissions_lookup hadmits' hid hempty).trans
        (congrArg List.singleton ?_)
      exact selectStatement_forId _ _ _
  · intro hid
    refine ⟨fun hmethod raw => ?_, fun hmethod raw => ?_⟩
    · have hnone : readId (some text) = readId none := hid
      rw [Dispatcher.dispatch_at_of_readId hmethod hnone]
    · exact Dispatcher.submissions_eq_nil_of_readId_eq_none hmethod hid

/-- A reading of the fifth widget, its number spelled with blanks, a sign and digits of another
script. -/
theorem submissions_pathId_fifthWidget :
    let d := openDispatcher false
    let request := sortedWidgets none ""
    (d.dispatch (request.at (some " +٠٥ ") "") namedWidgetsWorld).submissions =
        [⟨"SELECT * FROM widgets WHERE id = ?", [.int 5]⟩] ∧
      (d.dispatch (request.at none "id=%20%2B%D9%A0%D9%A5%20") namedWidgetsWorld).submissions =
        [⟨"SELECT * FROM widgets WHERE id = ?", [.int 5]⟩] ∧
      d.dispatch (request.at (some "five") "sort=name") namedWidgetsWorld =
        d.dispatch (request.at none "sort=name") namedWidgetsWorld := by
  intro d request
  have hadmits : d.Admits request namedWidgetsWorld .table .get :=
    Dispatcher.admits_of_open rfl (by decide) (by decide) (by decide)
  have hcoded : Query.forId [] " +٠٥ " = "id=%20%2B%D9%A0%D9%A5%20" := by decide +kernel
  have hmethod : normalizeMethod request.method = Verb.get.name := by decide
  have hlax : d.settings.strictColumns = false := rfl
  have hpercent : '%' ∉ ([] : List Char) := List.not_mem_nil
  have hfive : readId (some " +٠٥ ") = .ok (some (.int 5)) := rfl
  have hword : readId (some "five") = .ok none := rfl
  obtain ⟨hsame, hone⟩ :=
    (submissions_pathId (w := namedWidgetsWorld) hlax hpercent).1 _ hfive hmethod
  obtain ⟨hreading, -⟩ := (submissions_pathId (w := namedWidgetsWorld) hlax hpercent).2 hword
  exact ⟨hone .table hadmits, hcoded ▸ hsame.symm.trans (hone .table hadmits),
    hreading hmethod "sort=name"⟩

end TableGateway
