import TableGateway.Proofs.Dispatch.Stages
import TableGateway.Proofs.Query.Resemblance

/-!
# Values stay out of texts

Two requests that differ in values only have the same statements run for them, up to the values that
are bound, and the same records written about them. Each stage of a dispatch is followed through
both, so what one run hands over or logs the other does too.
-/

namespace TableGateway

/-! ## Requests -/

def Value.columns? : Value → Option Record
  | .null => some []
  | .record fields => some fields
  | _ => none

def Value.mangledNames? : Value → Option (List (List Text.CodePoint))
  | .mangled names _ => some names
  | _ => none

/-- The same columns, and a null password in both or in neither. -/
structure ResourceSettings.BodiesResemble (settings : ResourceSettings) (resource : String)
    (body body' : Record) : Prop where
  names : body.names = body'.names
  passwords : ∀ column, settings.holdsPassword resource column →
    (body.get column = .null ↔ body'.get column = .null)

def PathIdsResemble (rawId rawId' : Option String) : Prop :=
  rawId = rawId' ∨ ∃ id id', readId rawId = .ok (some id) ∧ readId rawId' = .ok (some id')

/-- Two requests differ at most in the number in the path, in the values of filters and in those of
columns. -/
structure Request.Resembles (settings : ResourceSettings) (request request' : Request) : Prop where
  method : request.method = request'.method
  resource : request.resource = request'.resource
  user : request.user = request'.user
  rawId : PathIdsResemble request.rawId request'.rawId
  query : QueryTextsResemble request.query request'.query
  body : Option.Rel (settings.BodiesResemble request.resource) request.body.columns?
    request'.body.columns?
  mangled : request.body.mangledNames? = request'.body.mangledNames?

/-- What the database answers next does not depend on the values it is given. -/
def World.AnswersByText (w : World) : Prop :=
  ∀ s t : BoundStatement, s.Resembles t → w.answerTo s = w.answerTo t

theorem World.answersByText_of_answers {w : World} (h : w.answers ≠ []) : w.AnswersByText := by
  intro s t _
  unfold answerTo
  cases hanswers : w.answers with
  | nil => exact absurd hanswers h
  | cons answer rest => rfl

/-! ## Reading -/

def PresentAlike (id id' : Option Value) : Prop :=
  Option.Rel (fun _ _ => True) id id'

/-- Paths that resemble each other have an id both or neither. -/
theorem PathIdsResemble.read {rawId rawId' : Option String} (h : PathIdsResemble rawId rawId') :
    ResultsAgree PresentAlike (readId rawId) (readId rawId') := by
  rcases h with rfl | ⟨id, id', hid, hid'⟩
  · cases readId rawId with
    | ok id =>
        cases id with
        | none => exact .ok .none
        | some id => exact .ok (.some trivial)
    | error f => exact .error f
  · rw [hid, hid']
    exact .ok (.some trivial)

theorem PathIdsResemble.isSome_eq {rawId rawId' : Option String}
    (h : PathIdsResemble rawId rawId') : rawId.isSome = rawId'.isSome := by
  rcases h with rfl | ⟨id, id', hid, hid'⟩
  · rfl
  · obtain ⟨raw, -, rfl, -⟩ := readId_eq_ok_some hid
    obtain ⟨raw', -, rfl, -⟩ := readId_eq_ok_some hid'
    rfl

section Bodies

variable {settings : ResourceSettings} {hasher : Option Hasher} {resource : String}
  {body body' : Record}

theorem ResourceSettings.bodiesResemble_of_ne_null {field : String}
    (hfield : settings.passwordField = .text field) (hnames : body.names = body'.names)
    (h : body.get field ≠ .null) (h' : body'.get field ≠ .null) :
    settings.BodiesResemble resource body body' := by
  refine ⟨hnames, fun column hpassword => ?_⟩
  obtain ⟨-, hcolumn⟩ := ResourceSettings.holdsPassword_iff.mp hpassword
  rw [hfield, Value.text.injEq] at hcolumn
  rw [← hcolumn]
  exact iff_of_false h h'

theorem Record.has_eq_of_names_eq (h : body.names = body'.names) (name : String) :
    body.has name = body'.has name := by
  have hany : ∀ r : Record, r.has name = r.names.any (· = name) := by
    intro r
    rw [Record.names, List.any_map]
    rfl
  rw [hany, hany, h]

def refusedBody (mangledNames : Option (List (List Text.CodePoint))) : Except Failure Record :=
  mangledNames.elim (.error (.api .bodyNotObject)) fun names => readBody (.mangled names [])

/-- Reading a body looks at its columns, or else at the names in it that are mangled. -/
theorem readBody_eq (v : Value) :
    readBody v = v.columns?.elim (refusedBody v.mangledNames?) fun body =>
      (body.names.find? fun name => !isIdentifier name).elim (.ok body) fun name =>
        .error (.api (.badColumn (Text.quoted name))) := by
  have hfields : ∀ fields : Record, readBody (.record fields) =
      (fields.names.find? fun name => !isIdentifier name).elim (.ok fields) fun name =>
        .error (.api (.badColumn (Text.quoted name))) := by
    intro fields
    have hfind : (fields.names.find? fun name => !isIdentifier name) =
        (fields.find? fun field => !isIdentifier field.1).map Prod.fst :=
      List.find?_map
    rw [hfind, readBody]
    cases fields.find? fun field => !isIdentifier field.1 <;> rfl
  cases v with
  | record fields => exact hfields fields
  | _ => rfl

theorem refusedBody_agrees {R : Record → Record → Prop}
    (mangledNames : Option (List (List Text.CodePoint))) :
    ResultsAgree R (refusedBody mangledNames) (refusedBody mangledNames) := by
  cases mangledNames with
  | none => exact .error _
  | some names => exact .error _

/-- Two bodies that resemble each other are refused for the same column. -/
theorem readBody_agrees {v v' : Value}
    (h : Option.Rel (settings.BodiesResemble resource) v.columns? v'.columns?)
    (hmangled : v.mangledNames? = v'.mangledNames?) :
    ResultsAgree (settings.BodiesResemble resource) (readBody v) (readBody v') := by
  rw [readBody_eq, readBody_eq, hmangled]
  generalize v.columns? = columns at h ⊢
  generalize v'.columns? = columns' at h ⊢
  cases h with
  | none => exact refusedBody_agrees _
  | @some body body' h =>
      dsimp only [Option.elim]
      rw [h.names]
      cases body'.names.find? fun name => !isIdentifier name with
      | none => exact .ok h
      | some name => exact .error _

/-- What becomes of a body when it is stored depends on its columns and on whether its password is
null, as long as the password has a digest. -/
theorem hashPassword_agrees (h : settings.BodiesResemble resource body body') :
    AgreeUnlessHalved (fun stored stored' : Record => stored.names = stored'.names)
      (hashPassword settings hasher resource body)
      (hashPassword settings hasher resource body') := by
  have hunchanged : AgreeUnlessHalved
      (fun stored stored' : Record => stored.names = stored'.names) (.ok body) (.ok body') :=
    .agree (.ok h.names)
  by_cases htable : settings.identityTable = .text resource
  · rcases Record.lookup_cases settings.passwordField with
      ⟨field, hfield⟩ | ⟨kind, hname⟩ | ⟨-, hnone⟩
    · have hnull := h.passwords field (ResourceSettings.holdsPassword_iff.mpr ⟨htable, hfield⟩)
      by_cases hbody : body.get field = .null
      · have hlookup : ∀ fields : Record, fields.get field = .null →
            fields.lookup settings.passwordField = .ok .null := by
          intro fields hget
          rw [hfield, Record.lookup, hget]
        rw [hashPassword_of_lookup_eq_null (hlookup body hbody),
          hashPassword_of_lookup_eq_null (hlookup body' (hnull.mp hbody))]
        exact hunchanged
      · have hbody' := mt hnull.mpr hbody
        rw [hashPassword_of_ne_null htable hfield hbody,
          hashPassword_of_ne_null htable hfield hbody']
        cases hasher with
        | none => exact .agree (.error _)
        | some hasher =>
            dsimp only [Option.elim]
            rcases hasher.hashValue_cases (body.get field) with ⟨text, -, hhash⟩ | ⟨-, hhash⟩
            · rw [hhash]
              exact .left text _
            · rcases hasher.hashValue_cases (body'.get field) with ⟨text, -, hhash'⟩ | ⟨-, hhash'⟩
              · rw [hhash']
                exact .right _ text
              · rw [hhash, hhash']
                refine .agree (.ok ?_)
                rw [Record.names_put (Record.mem_names_of_get_ne_null hbody),
                  Record.names_put (Record.mem_names_of_get_ne_null hbody'), h.names]
    · rw [hashPassword_of_isUnusableName htable hname, hashPassword_of_isUnusableName htable hname]
      exact .agree (.error _)
    · rw [hashPassword_of_lookup_eq_null (hnone body), hashPassword_of_lookup_eq_null (hnone body')]
      exact hunchanged
  · rw [hashPassword_of_ne_table htable, hashPassword_of_ne_table htable]
    exact hunchanged

end Bodies

/-! ## Drafts -/

structure Draft.Resembles (draft draft' : Draft) : Prop where
  statement : draft.statement.Resembles draft'.statement
  checked : draft.checked = draft'.checked

theorem Query.Resembles.columns_eq {q q' : Query} (h : q.Resembles q') :
    q.columns = q'.columns := by
  have hfields : ∀ clauses clauses', List.Forall₂ Clause.Resembles clauses clauses' →
      clauses.map Clause.field = clauses'.map Clause.field := by
    intro clauses clauses' hclauses
    induction hclauses with
    | nil => rfl
    | cons hc _ ih => rw [List.map_cons, List.map_cons, hc.field, ih]
  rw [Query.columns, Query.columns, hfields _ _ h.filters, h.sort]

theorem Query.Resembles.tailPieces_eq {q q' : Query} (h : q.Resembles q')
    {predicate predicate' : Predicate} (hsql : predicate.sql = predicate'.sql) :
    q.tailPieces predicate = q'.tailPieces predicate' := by
  unfold Query.tailPieces Predicate.isGiven
  rw [hsql, h.sort, h.limit, h.offset]

/-- Filters and ids leave nothing but their places in the text of a select. -/
theorem selectStatement_resembles (regexOperator resource : String) {q q' : Query}
    (h : q.Resembles q') {id id' : Option Value} (hid : PresentAlike id id') :
    (selectStatement regexOperator resource q id).Resembles
      (selectStatement regexOperator resource q' id') := by
  have hall : ∀ clauses clauses', List.Forall₂ Clause.Resembles clauses clauses' →
      Statement.Resembles
        ⟨" ".intercalate (("SELECT * FROM " ++ resource) ::
            q.tailPieces (Predicate.ofClauses regexOperator clauses)),
          (Predicate.ofClauses regexOperator clauses).params⟩
        ⟨" ".intercalate (("SELECT * FROM " ++ resource) ::
            q'.tailPieces (Predicate.ofClauses regexOperator clauses')),
          (Predicate.ofClauses regexOperator clauses').params⟩ := by
    intro clauses clauses' hclauses
    have hsql := Predicate.sql_eq regexOperator hclauses
    constructor
    · dsimp only
      rw [h.tailPieces_eq hsql]
    · simpa [Predicate.ofClauses] using hclauses.length_eq
  cases hid with
  | none => exact hall _ _ h.filters
  | some => exact hall _ _ (.cons ⟨rfl, rfl, rfl⟩ .nil)

section Writes

variable {stored stored' : Record} (h : stored.names = stored'.names) (resource : String)

include h

theorem inserting_resembles :
    (Draft.inserting resource stored).Resembles (Draft.inserting resource stored') := by
  have hlength := Record.length_eq_of_names_eq h
  have hmarks : (stored.map fun _ => "?") = stored'.map fun _ => "?" := by
    rw [List.map_const', List.map_const', hlength]
  refine ⟨⟨?_, ?_⟩, congrArg some h⟩
  · unfold Draft.inserting insertStatement
    dsimp only
    rw [h, hmarks]
  · exact (List.length_map _).trans (hlength.trans (List.length_map _).symm)

theorem updating_resembles (id id' : Value) :
    (Draft.updating resource id stored).Resembles (Draft.updating resource id' stored') := by
  have hlength := Record.length_eq_of_names_eq h
  have hassigned : ∀ fields : Record, fields.map (fun field => field.1 ++ " = ?") =
      fields.names.map (· ++ " = ?") := by
    intro fields
    rw [Record.names, List.map_map]
    rfl
  refine ⟨⟨?_, ?_⟩, congrArg some h⟩
  · simp only [Draft.updating, updateStatement, hassigned, h]
  · simpa [Draft.updating, updateStatement] using hlength

end Writes

variable {settings : ResourceSettings} {hasher : Option Hasher} {request request' : Request}

/-- Readings that resemble each other have drafts that do. -/
theorem draftRead_agrees (h : request.Resembles settings request') {id id' : Option Value}
    (hid : PresentAlike id id') :
    ResultsAgree Draft.Resembles (draftRead settings request id)
      (draftRead settings request' id') := by
  have hread := Query.read_agrees h.query
  unfold draftRead
  generalize Query.read request.query = q at hread ⊢
  generalize Query.read request'.query = q' at hread ⊢
  cases hread with
  | error e => exact .error _
  | ok hq =>
      have hnone : id.isNone = id'.isNone := by
        cases hid <;> rfl
      refine .ok ⟨?_, ?_⟩
      · dsimp only
        rw [← h.resource]
        exact selectStatement_resembles _ _ hq hid
      · dsimp only
        rw [hnone, hq.columns_eq]

/-- A password is the one value whose content can stop a draft: half of a character has no bytes. -/
theorem draftCreate_agrees (h : request.Resembles settings request') :
    AgreeUnlessHalved Draft.Resembles (draftCreate settings hasher request)
      (draftCreate settings hasher request') := by
  refine (readBody_agrees h.body h.mangled).bind_unlessHalved ?_
  intro body body' hbody
  have hempty : body.isEmpty = body'.isEmpty := Record.isEmpty_eq_of_names_eq hbody.names rfl
  rw [← h.rawId.isSome_eq, ← Record.has_eq_of_names_eq hbody.names, ← hempty, ← h.resource]
  cases request.rawId.isSome || body.has idColumn with
  | true => exact .agree (.error _)
  | false =>
      cases body.isEmpty with
      | true => exact .agree (.error _)
      | false =>
          refine (hashPassword_agrees hbody).bind ?_
          intro stored stored' hstored
          exact .ok (inserting_resembles hstored request.resource)

theorem draftUpdate_agrees (h : request.Resembles settings request') {id id' : Option Value}
    (hid : PresentAlike id id') :
    AgreeUnlessHalved Draft.Resembles (draftUpdate settings hasher request id)
      (draftUpdate settings hasher request' id') := by
  cases hid with
  | none => exact .agree (.error _)
  | @some value value' _ =>
      refine (readBody_agrees h.body h.mangled).bind_unlessHalved ?_
      intro body body' hbody
      have hempty : body.isEmpty = body'.isEmpty := Record.isEmpty_eq_of_names_eq hbody.names rfl
      rw [← Record.has_eq_of_names_eq hbody.names, ← hempty, ← h.resource]
      cases body.has idColumn with
      | true => exact .agree (.error _)
      | false =>
          cases body.isEmpty with
          | true => exact .agree (.error _)
          | false =>
              refine (hashPassword_agrees hbody).bind ?_
              intro stored stored' hstored
              exact .ok (updating_resembles hstored request.resource value value')

theorem draftDelete_agrees (h : request.Resembles settings request') {id id' : Option Value}
    (hid : PresentAlike id id') :
    ResultsAgree Draft.Resembles (draftDelete request id) (draftDelete request' id') := by
  unfold draftDelete
  cases hid with
  | none => exact .error _
  | some =>
      dsimp only
      rw [← h.resource]
      exact .ok ⟨⟨rfl, rfl⟩, rfl⟩

theorem Request.Resembles.draft (h : request.Resembles settings request') (verb : Verb)
    {id id' : Option Value} (hid : PresentAlike id id') :
    AgreeUnlessHalved Draft.Resembles (request.draft settings hasher verb id)
      (request'.draft settings hasher verb id') := by
  cases verb with
  | get => exact .agree (draftRead_agrees h hid)
  | post => exact draftCreate_agrees h
  | put => exact draftUpdate_agrees h hid
  | delete => exact .agree (draftDelete_agrees h hid)

theorem draftRead_ne_unencodable (id : Option Value) (text : Text.HalvedText) :
    draftRead settings request id ≠ .error (.unencodable text) := by
  unfold draftRead
  split
  · exact nofun
  · exact nofun

/-- A request that logs how it is read has nothing to hash. -/
theorem Request.notices_eq_nil_of_draft {verb : Verb} {id : Option Value} {text : Text.HalvedText}
    (h : request.draft settings hasher verb id = .error (.unencodable text))
    (other : Request) : other.notices verb = [] := by
  cases verb with
  | get => exact absurd h (draftRead_ne_unencodable id text)
  | post | put | delete => rfl

/-! ## Runs -/

theorem Action.checkColumns_eq {draft draft' : Draft} (h : draft.Resembles draft')
    (resource : String) : checkColumns settings resource draft =
      checkColumns settings resource draft' := by
  unfold checkColumns
  rw [h.checked]

/-- Whether a statement can be bound, and to which names, depends on its text and on how many values
it has. -/
theorem Statement.Resembles.bind? {s t : Statement} (h : s.Resembles t) :
    Option.Rel BoundStatement.Resembles s.bind? t.bind? := by
  have hnames : ∀ (params : List Value) (bind : Value × Nat → String × Value),
      (∀ field, (bind field).1 = placeholderName field.2) →
        Record.names (params.zipIdx.map bind) =
          (List.range params.length).map placeholderName := by
    intro params bind hbind
    rw [List.range_eq_range', ← List.zipIdx_map_snd 0 params, Record.names, List.map_map,
      List.map_map]
    exact List.map_congr_left fun field _ => hbind field
  unfold Statement.bind? Statement.placeholderCount
  rw [h.sql, h.length]
  split
  · refine .some ⟨rfl, ?_⟩
    rw [hnames _ _ fun _ => rfl, hnames _ _ fun _ => rfl, h.length]
  · exact .none

variable {w : World}

/-- A database that looks at texts only makes no difference between statements that resemble each
other. -/
theorem Action.submit_agrees (hw : w.AnswersByText) {s t : Statement} (h : s.Resembles t) :
    (submit s w).Agrees Eq (submit t w) := by
  have hcount : s.placeholderCount = t.placeholderCount := by
    rw [Statement.placeholderCount, Statement.placeholderCount, h.sql]
  have hnotice : s.runNotice = t.runNotice := by
    rw [Statement.runNotice, Statement.runNotice, h.sql, h.length]
  have hbound := h.bind?
  rw [submit_apply, submit_apply, hcount, h.length]
  generalize s.bind? = bound at hbound ⊢
  generalize t.bind? = bound' at hbound ⊢
  cases hbound with
  | none => exact ⟨.error _, rfl, .cons (.submitted h) .nil⟩
  | @some bound bound' hbound =>
      dsimp only
      have hrun : List.Forall₂ Event.Resembles (s.runEvents bound) (t.runEvents bound') := by
        refine .cons (.submitted h) (.cons ?_ (.cons (.executed hbound) .nil))
        rw [hnotice]
        exact .same _
      -- From here on the two runs are the same but for the values bound.
      rw [hw bound bound' hbound]
      cases w.answerTo bound' with
      | done outcome => exact ⟨.ok rfl, rfl, hrun⟩
      | refused e => exact ⟨.error _, rfl, List.rel_append hrun (.cons (.same _) .nil)⟩
      | broke text => exact ⟨.error _, rfl, hrun⟩

theorem Reply.ofOutcome_eq (verb : Verb) {id id' : Option Value} (hid : PresentAlike id id')
    (outcome : Outcome) : ofOutcome verb id outcome = ofOutcome verb id' outcome := by
  cases hid with
  | none => rfl
  | some =>
      cases verb with
      | get => rcases outcome with (_ | ⟨row, rest⟩) | _ <;> rfl
      | post | put | delete => rfl

variable {d : Dispatcher}

theorem Request.Resembles.notices_eq (h : request.Resembles settings request') (verb : Verb) :
    request.notices verb = request'.notices verb := by
  cases verb with
  | get => exact Query.notices_eq h.query
  | post | put | delete => rfl

def Ending.records {α : Type} (ending : Ending α) : List LogRecord :=
  ending.events.filterMap Event.logged?

/-- A run stops at a password without bytes. The other one logs as much until it hands a statement
over. -/
structure Ending.StopsBeside (x y : Ending Reply) : Prop where
  stopped : ∃ text, x.result = .error (.unencodable text)
  records : y.submissions = [] → x.records = y.records

section Performing

variable {verb : Verb} {id id' : Option Value}

/-- With drafts that resemble each other the rest of a dispatch runs alike. -/
theorem Dispatcher.perform_agrees (h : request.Resembles d.settings request')
    (hw : w.AnswersByText) (hid : PresentAlike id id') (hread : readId request.rawId = .ok id)
    (hread' : readId request'.rawId = .ok id')
    (hdraft : ResultsAgree Draft.Resembles (request.draft d.settings d.hasher verb id)
      (request'.draft d.settings d.hasher verb id')) :
    (d.perform request verb w).Agrees Eq (d.perform request' verb w) := by
  unfold perform
  rw [hread, hread', Action.ofExcept_ok_bind, Action.ofExcept_ok_bind, h.notices_eq, ← h.resource]
  refine Action.agrees_bind (Ending.agrees_refl _) ?_
  intro _ _ _
  rw [Action.logAll_apply]
  refine Action.agrees_bind (Action.agrees_ofExcept hdraft w) ?_
  intro draft draft' hdraft
  rw [Action.ofExcept_apply, Action.checkColumns_eq hdraft]
  refine Action.agrees_bind (Ending.agrees_refl _) ?_
  intro _ _ _
  rw [Action.world_checkColumns]
  refine Action.agrees_bind (Action.submit_agrees hw hdraft.statement) ?_
  rintro outcome _ rfl
  rw [Reply.ofOutcome_eq verb hid]
  exact Ending.agrees_refl _

/-- Of what is performed without notices, only the running of its statement is logged. -/
theorem Dispatcher.records_perform_of_submissions_eq_nil (hnotices : request.notices verb = [])
    (h : (d.perform request verb w).submissions = []) :
    (d.perform request verb w).records = [] := by
  cases hread : readId request.rawId with
  | error f =>
      rw [perform, hread, Action.ofExcept_error_bind]
      rfl
  | ok id =>
      cases hdraft : request.draft d.settings d.hasher verb id with
      | error f =>
          rw [perform, hread, Action.ofExcept_ok_bind, Action.logAll_bind, hdraft,
            Action.ofExcept_error_bind, hnotices]
          rfl
      | ok draft =>
          have hunknown : ¬draft.ColumnsKnown d.settings request.resource w.schema := by
            intro hknown
            have hs : draft.statement ∈ (d.perform request verb w).submissions :=
              Event.mem_filterMap_submitted?_iff.mpr
                (submitted_mem_perform_iff.mpr ⟨id, draft, hread, hdraft, hknown, rfl⟩)
            rw [h] at hs
            cases hs
          cases hchecked : (Action.checkColumns d.settings request.resource draft w).result with
          | ok u => exact absurd (Draft.columnsKnown_iff.mpr hchecked) hunknown
          | error f =>
              refine List.filterMap_eq_nil_iff.mpr fun event hevent => ?_
              rw [perform, hread, Action.ofExcept_ok_bind, Action.logAll_bind, hdraft,
                Action.ofExcept_ok_bind, hnotices, Action.bind_of_error hchecked] at hevent
              rw [Action.eq_columnsRead_of_mem_checkColumns hevent]
              rfl

/-- Where one draft stops at a password, the other run can do no more than go on. -/
theorem Dispatcher.perform_stopsBeside {text : Text.HalvedText}
    (hread : readId request.rawId = .ok id)
    (hdraft : request.draft d.settings d.hasher verb id = .error (.unencodable text))
    (other : Request) :
    (d.perform request verb w).StopsBeside (d.perform other verb w) := by
  have hperform : d.perform request verb w = ⟨.error (.unencodable text), w, []⟩ := by
    rw [perform, hread, Action.ofExcept_ok_bind, Action.logAll_bind, hdraft,
      Action.ofExcept_error_bind, Request.notices_eq_nil_of_draft hdraft request]
    rfl
  constructor
  · exact ⟨text, by rw [hperform]⟩
  · intro hother
    rw [hperform, records_perform_of_submissions_eq_nil
      (Request.notices_eq_nil_of_draft hdraft other) hother]
    rfl

end Performing

def Ending.AgreesOrStops (x y : Ending Reply) : Prop :=
  x.Agrees Eq y ∨ x.StopsBeside y ∨ y.StopsBeside x

/-- Behind the gate two requests that resemble each other run alike or stop at a password. -/
theorem Dispatcher.perform_agreesOrStops (h : request.Resembles d.settings request') (verb : Verb)
    (hw : w.AnswersByText) :
    (d.perform request verb w).AgreesOrStops (d.perform request' verb w) := by
  have hids := h.rawId.read
  generalize hread : readId request.rawId = read at hids
  generalize hread' : readId request'.rawId = read' at hids
  cases hids with
  | error f =>
      left
      rw [perform, perform, hread, hread', Action.ofExcept_error_bind, Action.ofExcept_error_bind]
      exact Ending.agrees_refl _
  | @ok id id' hid =>
      have hdrafts : AgreeUnlessHalved Draft.Resembles
          (request.draft d.settings d.hasher verb id)
          (request'.draft d.settings d.hasher verb id') := h.draft verb hid
      generalize hdraft : request.draft d.settings d.hasher verb id = draft at hdrafts
      generalize hdraft' : request'.draft d.settings d.hasher verb id' = draft' at hdrafts
      cases hdrafts with
      | agree hagree =>
          exact Or.inl (perform_agrees h hw hid hread hread' (by rwa [hdraft, hdraft']))
      | left => exact Or.inr (Or.inl (perform_stopsBeside hread hdraft request'))
      | right => exact Or.inr (Or.inr (perform_stopsBeside hread' hdraft' request))

section Asked

variable {x y : Ending Reply} {asked : List Event}

/-- What both have emitted before makes no difference, as long as it is no statement. -/
theorem Ending.StopsBeside.prepend (h : x.StopsBeside y)
    (hasked : asked.filterMap Event.submitted? = []) :
    Ending.StopsBeside { x with events := asked ++ x.events }
      { y with events := asked ++ y.events } := by
  refine ⟨h.stopped, fun hnone => ?_⟩
  rw [submissions, List.filterMap_append, hasked, List.nil_append] at hnone
  have hrecords := h.records hnone
  rw [Ending.records, Ending.records] at hrecords
  rw [Ending.records, Ending.records, List.filterMap_append, List.filterMap_append, hrecords]

theorem Ending.AgreesOrStops.prepend (h : x.AgreesOrStops y)
    (hasked : asked.filterMap Event.submitted? = []) :
    Ending.AgreesOrStops { x with events := asked ++ x.events }
      { y with events := asked ++ y.events } := by
  rcases h with h | h | h
  · exact Or.inl ⟨h.result, h.world, List.rel_append (Event.resembles_refl _) h.events⟩
  · exact Or.inr (Or.inl (h.prepend hasked))
  · exact Or.inr (Or.inr (h.prepend hasked))

end Asked

/-- Up to the gate two requests that resemble each other are the same request. -/
theorem Dispatcher.dispatch_agreesOrStops (h : request.Resembles d.settings request')
    (hw : w.AnswersByText) :
    (d.dispatch request w).AgreesOrStops (d.dispatch request' w) := by
  rw [dispatch_apply, dispatch_apply]
  unfold askEvents
  rw [← h.resource, ← h.user, ← h.method]
  split
  · exact Or.inl (Ending.agrees_refl _)
  · rename_i found hresolve
    dsimp only
    split
    · exact Or.inl (Ending.agrees_refl _)
    · split
      · exact Or.inl (Ending.agrees_refl _)
      · split
        · split
          · exact Or.inl (Ending.agrees_refl _)
          · rename_i verb hverb
            have hperform :=
              perform_agreesOrStops (w := { w with catalog := found.catalog }) h verb hw
            exact hperform.prepend (submissions_askEvents request _ _ _ _)
        · exact Or.inl (Ending.agrees_refl _)

/-! ## Two requests -/

/-- Two endings cannot be told apart by the texts of statements, by how many values go with them, or
by the log. -/
structure Ending.LooksLike {α : Type} (x y : Ending α) : Prop where
  statements : x.submissions = [] ∧ y.submissions = [] ∨
    ∃ s t, x.submissions = [s] ∧ y.submissions = [t] ∧ s.Resembles t
  records : x.records = y.records

/-- Something asks for the bytes of a text that has none. -/
def Dispatcher.Stumbles (d : Dispatcher) (request : Request) (w : World) : Prop :=
  ∃ text, (d.dispatch request w).result = .error (.unencodable text)

theorem Dispatcher.Stumbles.submissions_eq_nil (h : d.Stumbles request w) :
    (d.dispatch request w).submissions = [] := by
  obtain ⟨text, hresult⟩ := h
  exact submissions_eq_nil_of_result_eq_unencodable hresult

section Telling

variable {x y : Ending Reply}

theorem Ending.LooksLike.symm (h : x.LooksLike y) : y.LooksLike x := by
  refine ⟨?_, h.records.symm⟩
  rcases h.statements with ⟨hx, hy⟩ | ⟨s, t, hx, hy, hst⟩
  · exact Or.inl ⟨hy, hx⟩
  · exact Or.inr ⟨t, s, hy, hx, hst.sql.symm, hst.length.symm⟩

theorem Ending.LooksLike.submissions_eq_nil (h : x.LooksLike y) (hx : x.submissions = []) :
    y.submissions = [] := by
  rcases h.statements with ⟨-, hy⟩ | ⟨s, t, hs, -⟩
  · exact hy
  · rw [hx] at hs
    cases hs

theorem Ending.StopsBeside.looksLike_iff (h : x.StopsBeside y) (hx : x.submissions = []) :
    x.LooksLike y ↔ y.submissions = [] :=
  ⟨fun hlooks => hlooks.submissions_eq_nil hx, fun hy => ⟨Or.inl ⟨hx, hy⟩, h.records hy⟩⟩

/-- One statement at most leaves no question of which statements belong together. -/
theorem Ending.Agrees.looksLike (h : x.Agrees Eq y) (hlength : x.submissions.length ≤ 1) :
    x.LooksLike y := by
  have hstatements : List.Forall₂ Statement.Resembles x.submissions y.submissions := by
    refine h.filterMap_events ?_
    rintro event other (_ | hs | hs)
    · cases event with
      | submitted s => exact .some ⟨rfl, rfl⟩
      | _ => exact .none
    · exact .some hs
    · exact .none
  have hrecords : List.Forall₂ Eq x.records y.records := by
    refine h.filterMap_events ?_
    rintro event other (_ | hs | hs)
    · cases event with
      | logged r => exact .some rfl
      | _ => exact .none
    · exact .none
    · exact .none
  refine ⟨?_, List.forall₂_eq_eq_eq ▸ hrecords⟩
  generalize x.submissions = statements at hstatements hlength ⊢
  generalize y.submissions = statements' at hstatements ⊢
  cases hstatements with
  | nil => exact .inl ⟨rfl, rfl⟩
  | cons hs hrest =>
      cases hrest with
      | nil => exact .inr ⟨_, _, rfl, rfl, hs⟩
      | cons _ _ => simp at hlength

end Telling

/-- **Values stay out of texts, unless one has no bytes.** Two requests that differ in values only
can be told apart, by what is handed over up to the values bound or by what is logged, exactly if one
of them stumbles at its password and the other one has its statement handed over. -/
theorem looksLike_dispatch_iff (h : request.Resembles d.settings request') (hw : w.AnswersByText) :
    (d.dispatch request w).LooksLike (d.dispatch request' w) ↔
      ¬(d.Stumbles request w ∧ (d.dispatch request' w).submissions ≠ []) ∧
        ¬(d.Stumbles request' w ∧ (d.dispatch request w).submissions ≠ []) := by
  rcases Dispatcher.dispatch_agreesOrStops h hw with hagrees | hstops | hstops
  · have hresult := hagrees.result.eq
    have hsame : d.Stumbles request w ↔ d.Stumbles request' w := by
      rw [Dispatcher.Stumbles, Dispatcher.Stumbles, hresult]
    have hlooks := hagrees.looksLike (d.length_submissions_dispatch_le request w)
    exact iff_of_true hlooks ⟨fun hboth => hboth.2 (hsame.mp hboth.1).submissions_eq_nil,
      fun hboth => hboth.2 (hsame.mpr hboth.1).submissions_eq_nil⟩
  · have hstumbles : d.Stumbles request w := hstops.stopped
    rw [hstops.looksLike_iff hstumbles.submissions_eq_nil]
    simp [hstumbles, hstumbles.submissions_eq_nil]
  · have hstumbles : d.Stumbles request' w := hstops.stopped
    have hlooks := hstops.looksLike_iff hstumbles.submissions_eq_nil
    rw [show (d.dispatch request w).LooksLike (d.dispatch request' w) ↔ _ from
      ⟨Ending.LooksLike.symm, Ending.LooksLike.symm⟩, hlooks]
    simp [hstumbles, hstumbles.submissions_eq_nil]

def changeUser (rawId name : String) (password : Value) : Request where
  method := "PUT"
  resource := "users"
  rawId := some rawId
  query := "name=" ++ name
  body := .record [("name", .text name), ("password", password)]

theorem looksLike_dispatch_iff_changeUser :
    let d : Dispatcher := { openDispatcher false with hasher := some ⟨"pepper", by decide⟩ }
    let w : World := { schema := { tables := ["users"] }, answers := [.done (.written 1 .null)] }
    let request := changeUser "5" "ada" (.text "secret?")
    let request' := changeUser "77.5" "grace" (.int 1)
    request.Resembles d.settings request' ∧ w.AnswersByText ∧
      (d.dispatch request w).LooksLike (d.dispatch request' w) := by
  intro d w request request'
  have hfragment : FragmentsResemble "name=ada".toList "name=grace".toList :=
    Or.inr ⟨⟨"name", .eq, .text "ada", .and⟩, ⟨"name", .eq, .text "grace", .and⟩, rfl, rfl,
      ⟨rfl, rfl, rfl⟩⟩
  have hquery : QueryTextsResemble request.query request'.query := by
    have hfragments : fragments request.query = ["name=ada".toList] := by decide +kernel
    have hfragments' : fragments request'.query = ["name=grace".toList] := by decide +kernel
    rw [QueryTextsResemble, hfragments, hfragments']
    exact .cons hfragment .nil
  have hbody : d.settings.BodiesResemble request.resource
      [("name", .text "ada"), ("password", .text "secret?")]
      [("name", .text "grace"), ("password", .int 1)] :=
    ResourceSettings.bodiesResemble_of_ne_null rfl rfl Value.noConfusion Value.noConfusion
  have hid : PathIdsResemble request.rawId request'.rawId :=
    Or.inr ⟨.int 5, .real 77.5, rfl, rfl⟩
  have hresembles : request.Resembles d.settings request' :=
    ⟨rfl, rfl, rfl, hid, hquery, .some hbody, rfl⟩
  have hw : w.AnswersByText := World.answersByText_of_answers (List.cons_ne_nil _ _)
  have hserved : (d.dispatch request w).result.isOk := by decide +kernel
  have hserved' : (d.dispatch request' w).result.isOk := by decide +kernel
  refine ⟨hresembles, hw, (looksLike_dispatch_iff hresembles hw).mpr ⟨?_, ?_⟩⟩
  · rintro ⟨⟨text, hresult⟩, -⟩
    rw [hresult] at hserved
    cases hserved
  · rintro ⟨⟨text, hresult⟩, -⟩
    rw [hresult] at hserved'
    cases hserved'

def addUser (password : Value) : Request where
  method := "POST"
  resource := "users"
  body := .record [("password", password)]

/-- Half of a character has no bytes to hash, so the second user is not inserted. -/
theorem not_looksLike_dispatch_addUser :
    let d : Dispatcher := { openDispatcher false with hasher := some ⟨"pepper", by decide⟩ }
    let w : World := { schema := { tables := ["users"] }, answers := [.done (.written 1 .null)] }
    let request := addUser (.text "a")
    let request' := addUser (.halved ⟨[.half ⟨0xd800, by decide⟩], rfl⟩)
    request.Resembles d.settings request' ∧ w.AnswersByText ∧
      ¬(d.dispatch request w).LooksLike (d.dispatch request' w) := by
  intro d w request request'
  have hquery : QueryTextsResemble request.query request'.query := by
    have hfragments : fragments request.query = [] := by decide +kernel
    have hfragments' : fragments request'.query = [] := by decide +kernel
    rw [QueryTextsResemble, hfragments, hfragments']
    exact .nil
  have hbody : d.settings.BodiesResemble request.resource [("password", .text "a")]
      [("password", .halved ⟨[.half ⟨0xd800, by decide⟩], rfl⟩)] :=
    ResourceSettings.bodiesResemble_of_ne_null rfl rfl Value.noConfusion Value.noConfusion
  have hresembles : request.Resembles d.settings request' :=
    ⟨rfl, rfl, rfl, Or.inl rfl, hquery, .some hbody, rfl⟩
  have hw : w.AnswersByText := World.answersByText_of_answers (List.cons_ne_nil _ _)
  have hsubmitted : (d.dispatch request w).submissions.length = 1 := by decide +kernel
  have hsubmitted' : (d.dispatch request' w).submissions.length = 0 := by decide +kernel
  refine ⟨hresembles, hw, fun hlooks => ?_⟩
  have hnone := hlooks.symm.submissions_eq_nil (List.length_eq_zero_iff.mp hsubmitted')
  rw [hnone] at hsubmitted
  cases hsubmitted

end TableGateway
