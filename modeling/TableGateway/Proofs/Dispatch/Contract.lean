import TableGateway.Proofs.Access.Gate
import TableGateway.Proofs.Database.Catalog
import TableGateway.Proofs.Dispatch.Placeholder
import TableGateway.Proofs.Dispatch.Submission
import TableGateway.Proofs.Query.Reading

/-!
# The error contract

A dispatch gives a reply or tells the client what is wrong. `Dispatcher.Escapes` lists all that can
come of it instead, by what the request, the settings and the database have to be like: each stage
has its own way out, and there is no other.
-/

namespace TableGateway

variable {settings : ResourceSettings} {hasher : Option Hasher} {d : Dispatcher} {request : Request}
  {w : World} {kind : Kind} {verb : Verb} {id : Option Value} {draft : Draft} {f : Failure}

/-! ## Reading a request -/

/-- The path is refused only for an integer of too many digits; anything else that is no number
counts as no id. -/
theorem readId_eq_error_iff {rawId : Option String} :
    readId rawId = .error f ↔ ∃ raw n, rawId = some raw ∧ Number.SpellsOverlong raw.toList n ∧
      f = .number (.tooLong n) := by
  cases rawId with
  | none => simp [readId]
  | some raw =>
      have hread : readId (some raw) = .error f ↔
          ∃ e, Number.read? raw.toList = .error e ∧ f = .number e := by
        simp only [readId]
        cases Number.read? raw.toList <;> simp [eq_comm]
      simp only [hread, Number.read?_eq_error_iff]
      constructor
      · rintro ⟨_, ⟨n, hlong, rfl⟩, rfl⟩
        exact ⟨raw, n, rfl, hlong, rfl⟩
      · rintro ⟨_, n, ⟨⟩, hlong, rfl⟩
        exact ⟨_, ⟨n, hlong, rfl⟩, rfl⟩

/-- A reading can be drafted unless its query breaks off. -/
theorem draftRead_eq_error_iff :
    draftRead settings request id = .error f ↔
      ∃ n, BreaksOff (fragments request.query) n ∧ f = .number (.tooLong n) := by
  have hread : draftRead settings request id = .error f ↔
      ∃ e, Query.read request.query = .error e ∧ f = .number e := by
    unfold draftRead
    cases Query.read request.query with
    | ok q => simp
    | error e =>
        constructor
        · rintro ⟨⟩
          exact ⟨e, rfl, rfl⟩
        · rintro ⟨_, ⟨⟩, rfl⟩
          rfl
  simp only [hread, Query.read_eq_error_iff]
  constructor
  · rintro ⟨_, ⟨n, hlong, rfl⟩, rfl⟩
    exact ⟨n, hlong, rfl⟩
  · rintro ⟨n, hlong, rfl⟩
    exact ⟨_, ⟨n, hlong, rfl⟩, rfl⟩

/-! ## Storing a body -/

/-- Why a body is not stored, and the client not told: the name configured for the password column
cannot be one, or the password holds half of a character. -/
inductive ResourceSettings.CannotStore (settings : ResourceSettings) (hasher : Option Hasher)
    (resource : String) (body : Record) : Failure → Prop
  | name {kind : String} (htable : settings.identityTable = .text resource)
      (hname : settings.passwordField.IsUnusableName kind) :
      CannotStore settings hasher resource body (.unusableName kind)
  | halved {field : String} {text : Text.HalvedText}
      (hholds : settings.holdsPassword resource field) (hhasher : hasher.isSome)
      (hvalue : body.get field = .halved text) :
      CannotStore settings hasher resource body (.unencodable text)

/-- Storing a password fails behind the client's back in the ways of `CannotStore` only. -/
theorem hashPassword_escapes_iff {resource : String} {body : Record} :
    (hashPassword settings hasher resource body = .error f ∧ ¬ f.IsApi) ↔
      settings.CannotStore hasher resource body f := by
  constructor
  · rintro ⟨h, hf⟩
    rcases hashPassword_cases settings hasher resource body with
      ⟨heq, -⟩ | ⟨field, given, digest, -, -, -, -, heq⟩ |
        ⟨field, text, hholds, hhasher, hvalue, heq⟩ | heq | ⟨name, htable, hname, heq⟩
    · cases heq.symm.trans h
    · cases heq.symm.trans h
    · cases heq.symm.trans h
      exact .halved hholds hhasher hvalue
    · cases heq.symm.trans h
      exact absurd (Failure.IsApi.api _) hf
    · cases heq.symm.trans h
      exact .name htable hname
  · rintro (⟨htable, hname⟩ | ⟨hholds, hhasher, hvalue⟩)
    · exact ⟨hashPassword_of_isUnusableName htable hname, by simp [Failure.IsApi]⟩
    · refine ⟨?_, by simp [Failure.IsApi]⟩
      obtain ⟨htable, hfield⟩ := ResourceSettings.holdsPassword_iff.mp hholds
      obtain ⟨given, rfl⟩ := Option.isSome_iff_exists.mp hhasher
      rw [hashPassword_of_ne_null htable hfield (by rw [hvalue]; exact Value.noConfusion), hvalue]
      rfl

def Request.MayWrite (request : Request) (verb : Verb) (id : Option Value) : Prop :=
  (verb = .post ∧ request.rawId = none) ∨ (verb = .put ∧ id.isSome)

/-- A draft that stores a body fails as the storing does. -/
theorem map_escapes_iff {resource : String} {body : Record} {make : Record → Draft}
    (hoffers : request.Offers body) :
    ((hashPassword settings hasher resource body).map make = .error f ∧ ¬ f.IsApi) ↔
      ∃ body, request.Offers body ∧ settings.CannotStore hasher resource body f := by
  have hmap : (hashPassword settings hasher resource body).map make = .error f ↔
      hashPassword settings hasher resource body = .error f := by
    cases hashPassword settings hasher resource body <;> simp [Except.map]
  rw [hmap, hashPassword_escapes_iff]
  constructor
  · exact fun h => ⟨body, hoffers, h⟩
  · rintro ⟨other, hother, h⟩
    rwa [hother.eq_of_body_eq hoffers.body_eq] at h

/-- What is told to the client does not escape. -/
theorem not_escapes_of_isApi {α : Type} {made : Except Failure α} {e : Failure}
    (he : made = .error e) (hapi : e.IsApi) : ¬ (made = .error f ∧ ¬ f.IsApi) := by
  rintro ⟨h, hf⟩
  cases he.symm.trans h
  exact hf hapi

theorem draftCreate_escapes_iff :
    (draftCreate settings hasher request = .error f ∧ ¬ f.IsApi) ↔
      request.rawId = none ∧
        ∃ body, request.Offers body ∧ settings.CannotStore hasher request.resource body f := by
  by_cases hwrites : request.rawId = none ∧ ∃ body, request.Offers body
  · obtain ⟨hid, body, hoffers⟩ := hwrites
    rw [draftCreate_of_offers hid hoffers, map_escapes_iff hoffers]
    simp [hid]
  · obtain ⟨e, he, hapi⟩ : ∃ e, draftCreate settings hasher request = .error e ∧ e.IsApi :=
      draftCreate_of_not_offers fun body hid hoffers => hwrites ⟨hid, body, hoffers⟩
    refine iff_of_false (not_escapes_of_isApi he hapi) ?_
    rintro ⟨hid, body, hoffers, -⟩
    exact hwrites ⟨hid, body, hoffers⟩

theorem draftUpdate_escapes_iff :
    (draftUpdate settings hasher request id = .error f ∧ ¬ f.IsApi) ↔
      id.isSome ∧
        ∃ body, request.Offers body ∧ settings.CannotStore hasher request.resource body f := by
  cases id with
  | none => exact iff_of_false (not_escapes_of_isApi rfl (.api _)) (by simp)
  | some value =>
      by_cases hwrites : ∃ body, request.Offers body
      · obtain ⟨body, hoffers⟩ := hwrites
        rw [draftUpdate_of_offers hoffers, map_escapes_iff hoffers]
        simp
      · obtain ⟨e, he, hapi⟩ : ∃ e,
            draftUpdate settings hasher request (some value) = .error e ∧ e.IsApi :=
          draftUpdate_of_not_offers fun body hoffers => hwrites ⟨body, hoffers⟩
        refine iff_of_false (not_escapes_of_isApi he hapi) ?_
        rintro ⟨-, body, hoffers, -⟩
        exact hwrites ⟨body, hoffers⟩

/-- A draft is not made, and the client not told why, where a number in a query is too long or a
body cannot be stored. -/
theorem draft_escapes_iff :
    (request.draft settings hasher verb id = .error f ∧ ¬ f.IsApi) ↔
      (verb = .get ∧ ∃ n, BreaksOff (fragments request.query) n ∧ f = .number (.tooLong n)) ∨
      (request.MayWrite verb id ∧ ∃ body, request.Offers body ∧
        settings.CannotStore hasher request.resource body f) := by
  cases verb with
  | get =>
      have hnumber : ∀ n, ¬ (Failure.number (.tooLong n)).IsApi := by simp [Failure.IsApi]
      simp only [Request.draft, draftRead_eq_error_iff, Request.MayWrite, reduceCtorEq, false_and,
        or_self, or_false, true_and]
      constructor
      · exact fun h => h.1
      · rintro ⟨n, hlong, rfl⟩
        exact ⟨⟨n, hlong, rfl⟩, hnumber n⟩
  | post => simp [Request.draft, draftCreate_escapes_iff, Request.MayWrite]
  | put => simp [Request.draft, draftUpdate_escapes_iff, Request.MayWrite]
  | delete =>
      refine iff_of_false ?_ (by simp [Request.MayWrite])
      cases id with
      | none => exact not_escapes_of_isApi rfl (.api _)
      | some value => rintro ⟨⟨⟩, -⟩

/-! ## Running a statement -/

/-- A question mark that stands for no value gets into the statement of a request: with the name of
the resource, or with the operator of a pattern. -/
def ResourceSettings.HasStrayMark (settings : ResourceSettings) (request : Request) (verb : Verb)
    (id : Option Value) : Prop :=
  '?' ∈ request.resource.toList ∨
    (verb = .get ∧ id = none ∧ '?' ∈ settings.regexOperator.toList ∧
      ∃ q, Query.read request.query = .ok q ∧ ∃ c ∈ q.filters, c.op = .regex)

theorem marksIn_ne_zero_iff {s : String} : marksIn s ≠ 0 ↔ '?' ∈ s.toList := by
  rw [marksIn, ← Nat.pos_iff_ne_zero, List.count_pos_iff]

theorem patternCount_ne_zero_iff {clauses : List Clause} :
    patternCount clauses ≠ 0 ↔ ∃ c ∈ clauses, c.op = .regex := by
  simp [patternCount]

theorem Statement.bind?_eq_none_iff {s : Statement} :
    s.bind? = none ↔ s.placeholderCount ≠ s.params.length := by
  simp [bind?]

/-- A statement of a write cannot be bound only for the name of its resource. -/
theorem bind?_eq_none_iff_of_write {s : Statement} {resource : String}
    (h : s.placeholderCount = s.params.length + marksIn resource) :
    s.bind? = none ↔ '?' ∈ resource.toList := by
  rw [Statement.bind?_eq_none_iff, h, ← marksIn_ne_zero_iff]
  omega

/-- The values of a draft cannot be bound exactly if it has a stray question mark. -/
theorem bind?_draft_eq_none_iff (h : request.draft settings hasher verb id = .ok draft) :
    draft.statement.bind? = none ↔ settings.HasStrayMark request verb id := by
  have hwrite : verb ≠ .get →
      (settings.HasStrayMark request verb id ↔ '?' ∈ request.resource.toList) := by
    intro hverb
    simp [ResourceSettings.HasStrayMark, hverb]
  cases Request.drafts_of_draft_eq_ok h with
  | @select q id hread =>
      have hsound := Query.sound_of_read hread
      have hcount := placeholderCount_selectStatement settings.regexOperator request.resource
        hsound.filters hsound.sort id
      rw [Statement.bind?_eq_none_iff, Draft.reading, hcount]
      simp only [ResourceSettings.HasStrayMark, hread, Except.ok.injEq, exists_eq_left',
        ← marksIn_ne_zero_iff, ← patternCount_ne_zero_iff, true_and]
      cases id with
      | none =>
          simp only [Option.isSome_none, Bool.false_eq_true, if_false, true_and]
          rw [← Nat.mul_ne_zero_iff, Nat.mul_comm (marksIn settings.regexOperator)]
          omega
      | some value =>
          simp only [Option.isSome_some, if_true, Nat.zero_mul, reduceCtorEq, false_and, or_false]
          omega
  | insert hid hoffers hstored =>
      rw [hwrite (by decide)]
      exact bind?_eq_none_iff_of_write
        (placeholderCount_insertStatement _ (hoffers.isIdentifier_stored hstored))
  | update hoffers hstored =>
      rw [hwrite (by decide)]
      exact bind?_eq_none_iff_of_write
        (placeholderCount_updateStatement _ (hoffers.isIdentifier_stored hstored) _)
  | delete =>
      rw [hwrite (by decide)]
      exact bind?_eq_none_iff_of_write (placeholderCount_deleteStatement _ _)

/-- Columns cannot be looked up only for a resource that is gone. -/
theorem checkColumns_escapes_iff {resource : String} :
    ((Action.checkColumns settings resource draft w).result = .error f ∧ ¬ f.IsApi) ↔
      settings.strictColumns ∧ draft.checked.isSome ∧ w.schema.columns? resource = none ∧
        f = .noSuchTable resource := by
  rw [Action.checkColumns_apply]
  unfold Draft.lookedUp
  cases settings.strictColumns with
  | false => simp
  | true =>
      cases draft.checked with
      | none => simp
      | some names =>
          simp only [if_true, Option.isSome_some, true_and]
          cases w.schema.columns? resource with
          | none =>
              constructor
              · rintro ⟨⟨⟩, -⟩
                exact ⟨rfl, rfl⟩
              · rintro ⟨-, rfl⟩
                exact ⟨rfl, by simp [Failure.IsApi]⟩
          | some known =>
              by_cases hknown : unknownColumns known names = []
              · simp [hknown]
              · simp only [hknown, if_false, reduceCtorEq, false_and, iff_false, not_and, not_not]
                rintro ⟨⟩
                exact .api _

theorem submit_eq_ok_iff {s : Statement} {outcome : Outcome} :
    (Action.submit s w).result = .ok outcome ↔
      ∃ bound, s.bind? = some bound ∧ w.answerTo bound = .done outcome := by
  rw [Action.submit_apply]
  cases s.bind? with
  | none => simp
  | some bound =>
      cases hanswer : w.answerTo bound <;> simp [hanswer]

/-- A statement that is handed over can be out of balance or meet a breakdown; a refusal is told to
the client. -/
theorem submit_escapes_iff {s : Statement} :
    ((Action.submit s w).result = .error f ∧ ¬ f.IsApi) ↔
      (s.bind? = none ∧ f = .unbalanced s.placeholderCount s.params.length) ∨
      ∃ bound text, s.bind? = some bound ∧ w.answerTo bound = .broke text ∧
        f = .breakdown text := by
  rw [Action.submit_apply]
  cases s.bind? with
  | none =>
      constructor
      · rintro ⟨⟨⟩, -⟩
        exact Or.inl ⟨rfl, rfl⟩
      · rintro (⟨-, rfl⟩ | ⟨bound, text, hbound, -⟩)
        · exact ⟨rfl, by simp [Failure.IsApi]⟩
        · cases hbound
  | some bound =>
      simp only [reduceCtorEq, false_and, false_or, Option.some.injEq, exists_and_left,
        exists_eq_left']
      cases hanswer : w.answerTo bound with
      | done outcome => simp
      | refused e =>
          simp only [reduceCtorEq, false_and, exists_false, iff_false, not_and, not_not]
          rintro ⟨⟩
          exact .api _
      | broke text =>
          constructor
          · rintro ⟨⟨⟩, -⟩
            exact ⟨text, rfl, rfl⟩
          · rintro ⟨_, ⟨⟩, rfl⟩
            exact ⟨rfl, by simp [Failure.IsApi]⟩

/-- Only a reading by id minds what kind of outcome the database gives. -/
theorem ofOutcome_eq_error_iff {outcome : Outcome} :
    Reply.ofOutcome verb id outcome = .error f ↔ verb = .get ∧ id.isSome ∧
      (∃ affected insertId, outcome = .written affected insertId) ∧ f = .noRows := by
  cases verb with
  | get =>
      cases id with
      | none => simp [Reply.ofOutcome]
      | some value =>
          cases outcome with
          | rows records => cases records <;> simp [Reply.ofOutcome]
          | written affected insertId => simp [Reply.ofOutcome, eq_comm]
  | _ => simp [Reply.ofOutcome]

/-- A request fails in its path, in its draft, at its columns, at the database or at the outcome, in
this order. -/
theorem result_perform_eq_error_iff :
    (d.perform request verb w).result = .error f ↔
      readId request.rawId = .error f ∨ ∃ id, readId request.rawId = .ok id ∧
        (request.draft d.settings d.hasher verb id = .error f ∨
          ∃ draft, request.draft d.settings d.hasher verb id = .ok draft ∧
            ((Action.checkColumns d.settings request.resource draft w).result = .error f ∨
              draft.ColumnsKnown d.settings request.resource w.schema ∧
                ((Action.submit draft.statement w).result = .error f ∨
                  ∃ outcome, (Action.submit draft.statement w).result = .ok outcome ∧
                    Reply.ofOutcome verb id outcome = .error f))) := by
  have hunit : ∀ (draft : Draft) (p : Prop),
      (∃ u, (Action.checkColumns d.settings request.resource draft w).result = .ok u ∧ p) ↔
        draft.ColumnsKnown d.settings request.resource w.schema ∧ p := by
    intro draft p
    rw [Draft.columnsKnown_iff]
    exact ⟨fun ⟨(), h, hp⟩ => ⟨h, hp⟩, fun ⟨h, hp⟩ => ⟨(), h, hp⟩⟩
  simp only [Dispatcher.perform, Action.result_bind_eq_error_iff, Action.ofExcept_apply,
    Action.logAll_apply, Action.world_checkColumns, hunit]
  simp

/-- What comes of handing a statement over, other than a reply or a message for the client. -/
theorem answer_escapes_iff (hdraft : request.draft d.settings d.hasher verb id = .ok draft) :
    (((Action.submit draft.statement w).result = .error f ∨
        ∃ outcome, (Action.submit draft.statement w).result = .ok outcome ∧
          Reply.ofOutcome verb id outcome = .error f) ∧ ¬ f.IsApi) ↔
      (d.settings.HasStrayMark request verb id ∧
        f = .unbalanced draft.statement.placeholderCount draft.statement.params.length) ∨
      ∃ bound, draft.statement.bind? = some bound ∧
        ((∃ text, w.answerTo bound = .broke text ∧ f = .breakdown text) ∨
          verb = .get ∧ id.isSome ∧ f = .noRows ∧
            ∃ affected insertId, w.answerTo bound = .done (.written affected insertId)) := by
  constructor
  · rintro ⟨hsubmit | ⟨outcome, hsubmit, hreply⟩, hf⟩
    · rcases submit_escapes_iff.mp ⟨hsubmit, hf⟩ with
        ⟨hbound, hf⟩ | ⟨bound, text, hbound, hbroke, hf⟩
      · exact Or.inl ⟨(bind?_draft_eq_none_iff hdraft).mp hbound, hf⟩
      · exact Or.inr ⟨bound, hbound, Or.inl ⟨text, hbroke, hf⟩⟩
    · obtain ⟨bound, hbound, hdone⟩ := submit_eq_ok_iff.mp hsubmit
      obtain ⟨hverb, hsome, ⟨affected, insertId, rfl⟩, hf⟩ := ofOutcome_eq_error_iff.mp hreply
      exact Or.inr ⟨bound, hbound, Or.inr ⟨hverb, hsome, hf, affected, insertId, hdone⟩⟩
  · rintro (⟨hstray, rfl⟩ | ⟨bound, hbound, ⟨text, hbroke, rfl⟩ | h⟩)
    · obtain ⟨hresult, hf⟩ := submit_escapes_iff.mpr
        (Or.inl ⟨(bind?_draft_eq_none_iff hdraft).mpr hstray, rfl⟩)
      exact ⟨Or.inl hresult, hf⟩
    · obtain ⟨hresult, hf⟩ := submit_escapes_iff.mpr (Or.inr ⟨bound, text, hbound, hbroke, rfl⟩)
      exact ⟨Or.inl hresult, hf⟩
    · obtain ⟨hverb, hsome, rfl, affected, insertId, hdone⟩ := h
      refine ⟨Or.inr ⟨_, submit_eq_ok_iff.mpr ⟨bound, hbound, hdone⟩, ?_⟩, ?_⟩
      · exact ofOutcome_eq_error_iff.mpr ⟨hverb, hsome, ⟨affected, insertId, rfl⟩, rfl⟩
      · simp [Failure.IsApi]

/-- What comes of a request whose method is admitted, other than a reply or a message for the
client. -/
theorem perform_escapes_iff :
    ((d.perform request verb w).result = .error f ∧ ¬ f.IsApi) ↔
      (∃ raw n, request.rawId = some raw ∧ Number.SpellsOverlong raw.toList n ∧
        f = .number (.tooLong n)) ∨
      ∃ id, readId request.rawId = .ok id ∧
        ((request.draft d.settings d.hasher verb id = .error f ∧ ¬ f.IsApi) ∨
          ∃ draft, request.draft d.settings d.hasher verb id = .ok draft ∧
            ((d.settings.strictColumns ∧ draft.checked.isSome ∧
                w.schema.columns? request.resource = none ∧ f = .noSuchTable request.resource) ∨
              draft.ColumnsKnown d.settings request.resource w.schema ∧
                ((d.settings.HasStrayMark request verb id ∧
                    f = .unbalanced draft.statement.placeholderCount
                      draft.statement.params.length) ∨
                  ∃ bound, draft.statement.bind? = some bound ∧
                    ((∃ text, w.answerTo bound = .broke text ∧ f = .breakdown text) ∨
                      verb = .get ∧ id.isSome ∧ f = .noRows ∧
                        ∃ affected insertId,
                          w.answerTo bound = .done (.written affected insertId))))) := by
  rw [result_perform_eq_error_iff, readId_eq_error_iff]
  constructor
  · rintro ⟨hid | ⟨id, hid, hdraft | ⟨draft, hdraft, hcolumns | ⟨hknown, h⟩⟩⟩, hf⟩
    · exact Or.inl hid
    · exact Or.inr ⟨id, hid, Or.inl ⟨hdraft, hf⟩⟩
    · have hgone := checkColumns_escapes_iff.mp ⟨hcolumns, hf⟩
      exact Or.inr ⟨id, hid, Or.inr ⟨draft, hdraft, Or.inl hgone⟩⟩
    · have hanswer := (answer_escapes_iff hdraft).mp ⟨h, hf⟩
      exact Or.inr ⟨id, hid, Or.inr ⟨draft, hdraft, Or.inr ⟨hknown, hanswer⟩⟩⟩
  · rintro (⟨raw, n, hraw, hlong, rfl⟩ |
      ⟨id, hid, ⟨hdraft, hf⟩ | ⟨draft, hdraft, hcolumns | ⟨hknown, h⟩⟩⟩)
    · exact ⟨Or.inl ⟨raw, n, hraw, hlong, rfl⟩, by simp [Failure.IsApi]⟩
    · exact ⟨Or.inr ⟨id, hid, Or.inl hdraft⟩, hf⟩
    · obtain ⟨hresult, hf⟩ := checkColumns_escapes_iff.mpr hcolumns
      exact ⟨Or.inr ⟨id, hid, Or.inr ⟨draft, hdraft, Or.inl hresult⟩⟩, hf⟩
    · obtain ⟨hanswer, hf⟩ := (answer_escapes_iff hdraft).mpr h
      exact ⟨Or.inr ⟨id, hid, Or.inr ⟨draft, hdraft, Or.inr ⟨hknown, hanswer⟩⟩⟩, hf⟩

/-! ## Dispatches -/

/-- A dispatch that gives no reply failed at one of its first stages, or where its method was
admitted. -/
theorem dispatch_escapes_iff :
    ((d.dispatch request w).result = .error f ∧ ¬ f.IsApi) ↔
      (w.catalog.resolve w.schema.listing w.clock request.resource = .error f ∧ ¬ f.IsApi) ∨
      (∃ found kind, w.catalog.resolve w.schema.listing w.clock request.resource = .ok found ∧
        found.kind = some kind ∧ d.gate.decide request.user request.resource
          (normalizeMethod request.method) (some kind) = .error f ∧ ¬ f.IsApi) ∨
      ∃ kind verb, d.Admits request w kind verb ∧
        (d.perform request verb w).result = .error f ∧ ¬ f.IsApi := by
  -- What is performed meets the catalog that the look-up left, but no failure depends on it.
  have hmet : ∀ verb (c : Catalog),
      ((d.perform request verb { w with catalog := c }).result = .error f ∧ ¬ f.IsApi) ↔
        ((d.perform request verb w).result = .error f ∧ ¬ f.IsApi) := by
    intro verb c
    rw [perform_escapes_iff, perform_escapes_iff]
    exact Iff.rfl
  constructor
  · rintro ⟨h, hf⟩
    have hends := d.ends_dispatch request w
    generalize d.dispatch request w = ending at h hends
    cases hends with
    | unresolved hresolve =>
        cases h
        exact Or.inl ⟨hresolve, hf⟩
    | undecided hresolve hkind hdecide =>
        cases h
        exact Or.inr (Or.inl ⟨_, _, hresolve, hkind, hdecide, hf⟩)
    | unknown hresolve hkind | denied hresolve hkind hdecide
    | illegal hresolve hkind hdecide hverb =>
        cases h
        exact absurd (Failure.IsApi.api _) hf
    | performed hresolve hkind hdecide hverb =>
        exact Or.inr (Or.inr ⟨_, _, ⟨⟨_, hresolve, hkind⟩, ⟨_, hdecide⟩, hverb⟩,
          (hmet _ _).mp ⟨h, hf⟩⟩)
  · rintro (⟨hresolve, hf⟩ | ⟨found, kind, hresolve, hkind, hdecide, hf⟩ |
      ⟨kind, verb, hadmits, h⟩)
    · refine ⟨?_, hf⟩
      rw [Dispatcher.dispatch_apply, hresolve]
    · refine ⟨?_, hf⟩
      rw [Dispatcher.dispatch_apply]
      simp only [hresolve, hkind, hdecide]
    · obtain ⟨found, records, -, -, hending⟩ := Dispatcher.dispatch_of_admits hadmits
      rw [hending]
      exact (hmet verb found.catalog).mpr h

/-- What a dispatch can come to instead of a reply or a message for the client. -/
inductive Dispatcher.Escapes (d : Dispatcher) (request : Request) (w : World) : Failure → Prop
  | clock {e : Number.Error} (hlifetime : ¬ w.catalog.lifetime ≤ 0)
      (hkept : w.catalog.kept.isSome) (hage : w.clock.minus w.catalog.readAt = .error e) :
      Escapes d request w (.number e)
  | role {found : Catalog.Resolution} {kind : Kind} {fields : Record} {name : String}
      (hresolved : w.catalog.resolve w.schema.listing w.clock request.resource = .ok found)
      (hkind : found.kind = some kind) (hrules : d.gate.rules.isSome)
      (huser : request.user = some fields) (hne : fields ≠ [])
      (hname : d.gate.roleField.IsUnusableName name) :
      Escapes d request w (.unusableName name)
  | id {kind : Kind} {verb : Verb} {raw : String} {n : Nat}
      (hadmits : d.Admits request w kind verb) (hraw : request.rawId = some raw)
      (hlong : Number.SpellsOverlong raw.toList n) :
      Escapes d request w (.number (.tooLong n))
  | query {kind : Kind} {id : Option Value} {n : Nat} (hadmits : d.Admits request w kind .get)
      (hid : readId request.rawId = .ok id) (hlong : BreaksOff (fragments request.query) n) :
      Escapes d request w (.number (.tooLong n))
  | password {kind : Kind} {verb : Verb} {id : Option Value} {body : Record} {name : String}
      (hadmits : d.Admits request w kind verb) (hid : readId request.rawId = .ok id)
      (hverb : request.MayWrite verb id) (hoffers : request.Offers body)
      (htable : d.settings.identityTable = .text request.resource)
      (hname : d.settings.passwordField.IsUnusableName name) :
      Escapes d request w (.unusableName name)
  /-- The password to be stored holds half of a character. -/
  | halved {kind : Kind} {verb : Verb} {id : Option Value} {body : Record} {field : String}
      {text : Text.HalvedText} (hadmits : d.Admits request w kind verb)
      (hid : readId request.rawId = .ok id) (hverb : request.MayWrite verb id)
      (hoffers : request.Offers body)
      (hholds : d.settings.holdsPassword request.resource field) (hhasher : d.hasher.isSome)
      (hvalue : body.get field = .halved text) :
      Escapes d request w (.unencodable text)
  | columns {kind : Kind} {verb : Verb} {id : Option Value} {draft : Draft}
      (hadmits : d.Admits request w kind verb) (hid : readId request.rawId = .ok id)
      (hdraft : request.draft d.settings d.hasher verb id = .ok draft)
      (hstrict : d.settings.strictColumns) (hchecked : draft.checked.isSome)
      (hgone : w.schema.columns? request.resource = none) :
      Escapes d request w (.noSuchTable request.resource)
  | placeholders {kind : Kind} {verb : Verb} {id : Option Value} {draft : Draft}
      (hsubmits : d.Submits request w kind verb id draft)
      (hstray : d.settings.HasStrayMark request verb id) :
      Escapes d request w
        (.unbalanced draft.statement.placeholderCount draft.statement.params.length)
  | breakdown {kind : Kind} {verb : Verb} {id : Option Value} {draft : Draft}
      {bound : BoundStatement} {text : String}
      (hsubmits : d.Submits request w kind verb id draft)
      (hbound : draft.statement.bind? = some bound) (hbroke : w.answerTo bound = .broke text) :
      Escapes d request w (.breakdown text)
  /-- The database answers the reading of a record as if it had been a write. -/
  | noRows {kind : Kind} {id : Value} {draft : Draft} {bound : BoundStatement} {affected : Int}
      {insertId : Value} (hsubmits : d.Submits request w kind .get (some id) draft)
      (hbound : draft.statement.bind? = some bound)
      (hwritten : w.answerTo bound = .done (.written affected insertId)) :
      Escapes d request w .noRows

/-- A failure of an admitted request is one of those listed. -/
theorem Dispatcher.escapes_of_perform (hadmits : d.Admits request w kind verb)
    (h : (d.perform request verb w).result = .error f ∧ ¬ f.IsApi) : d.Escapes request w f := by
  rcases perform_escapes_iff.mp h with ⟨raw, n, hraw, hlong, rfl⟩ | ⟨id, hid, hdraft | h⟩
  · exact .id hadmits hraw hlong
  · rcases draft_escapes_iff.mp hdraft with
      ⟨rfl, n, hlong, rfl⟩ | ⟨hverb, body, hoffers, hstore⟩
    · exact .query hadmits hid hlong
    · cases hstore with
      | name htable hname => exact .password hadmits hid hverb hoffers htable hname
      | halved hholds hhasher hvalue => exact .halved hadmits hid hverb hoffers hholds hhasher hvalue
  · obtain ⟨draft, hdraft, ⟨hstrict, hchecked, hgone, rfl⟩ | ⟨hknown, h⟩⟩ := h
    · exact .columns hadmits hid hdraft hstrict hchecked hgone
    · have hsubmits : d.Submits request w kind verb id draft := ⟨hadmits, hid, hdraft, hknown⟩
      rcases h with ⟨hstray, rfl⟩ | ⟨bound, hbound, ⟨text, hbroke, rfl⟩ | h⟩
      · exact .placeholders hsubmits hstray
      · exact .breakdown hsubmits hbound hbroke
      · obtain ⟨rfl, hsome, rfl, affected, insertId, hwritten⟩ := h
        obtain ⟨value, rfl⟩ := Option.isSome_iff_exists.mp hsome
        exact .noRows hsubmits hbound hwritten

/-- **The error contract.** A dispatch ends in a failure that is no message for the client exactly
in one of the ways listed. -/
theorem result_dispatch_escapes_iff :
    ((d.dispatch request w).result = .error f ∧ ¬ f.IsApi) ↔ d.Escapes request w f := by
  rw [dispatch_escapes_iff]
  constructor
  · rintro (⟨hresolve, -⟩ | ⟨found, kind, hresolve, hkind, hdecide, -⟩ | ⟨kind, verb, hadmits, h⟩)
    · obtain ⟨hlifetime, hkept, e, hage, rfl⟩ := Catalog.resolve_eq_error_iff.mp hresolve
      exact .clock hlifetime hkept hage
    · obtain ⟨hrules, fields, name, huser, hne, hname, rfl⟩ := Gate.decide_eq_error_iff.mp hdecide
      exact .role hresolve hkind hrules huser hne hname
    · exact Dispatcher.escapes_of_perform hadmits h
  · intro h
    cases h with
    | clock hlifetime hkept hage =>
        refine Or.inl ⟨Catalog.resolve_eq_error_iff.mpr ?_, by simp [Failure.IsApi]⟩
        exact ⟨hlifetime, hkept, _, hage, rfl⟩
    | role hresolved hkind hrules huser hne hname =>
        refine Or.inr (Or.inl ⟨_, _, hresolved, hkind, Gate.decide_eq_error_iff.mpr ?_, ?_⟩)
        · exact ⟨hrules, _, _, huser, hne, hname, rfl⟩
        · simp [Failure.IsApi]
    | id hadmits hraw hlong =>
        refine Or.inr (Or.inr ⟨_, _, hadmits, perform_escapes_iff.mpr ?_⟩)
        exact Or.inl ⟨_, _, hraw, hlong, rfl⟩
    | query hadmits hid hlong =>
        refine Or.inr (Or.inr ⟨_, _, hadmits, perform_escapes_iff.mpr ?_⟩)
        refine Or.inr ⟨_, hid, Or.inl (draft_escapes_iff.mpr ?_)⟩
        exact Or.inl ⟨rfl, _, hlong, rfl⟩
    | password hadmits hid hverb hoffers htable hname =>
        refine Or.inr (Or.inr ⟨_, _, hadmits, perform_escapes_iff.mpr ?_⟩)
        refine Or.inr ⟨_, hid, Or.inl (draft_escapes_iff.mpr ?_)⟩
        exact Or.inr ⟨hverb, _, hoffers, .name htable hname⟩
    | halved hadmits hid hverb hoffers hholds hhasher hvalue =>
        refine Or.inr (Or.inr ⟨_, _, hadmits, perform_escapes_iff.mpr ?_⟩)
        refine Or.inr ⟨_, hid, Or.inl (draft_escapes_iff.mpr ?_)⟩
        exact Or.inr ⟨hverb, _, hoffers, .halved hholds hhasher hvalue⟩
    | columns hadmits hid hdraft hstrict hchecked hgone =>
        refine Or.inr (Or.inr ⟨_, _, hadmits, perform_escapes_iff.mpr ?_⟩)
        exact Or.inr ⟨_, hid, Or.inr ⟨_, hdraft, Or.inl ⟨hstrict, hchecked, hgone, rfl⟩⟩⟩
    | placeholders hsubmits hstray =>
        obtain ⟨hadmits, hid, hdraft, hknown⟩ := hsubmits
        refine Or.inr (Or.inr ⟨_, _, hadmits, perform_escapes_iff.mpr ?_⟩)
        refine Or.inr ⟨_, hid, Or.inr ⟨_, hdraft, Or.inr ⟨hknown, ?_⟩⟩⟩
        exact Or.inl ⟨hstray, rfl⟩
    | breakdown hsubmits hbound hbroke =>
        obtain ⟨hadmits, hid, hdraft, hknown⟩ := hsubmits
        refine Or.inr (Or.inr ⟨_, _, hadmits, perform_escapes_iff.mpr ?_⟩)
        refine Or.inr ⟨_, hid, Or.inr ⟨_, hdraft, Or.inr ⟨hknown, ?_⟩⟩⟩
        exact Or.inr ⟨_, hbound, Or.inl ⟨_, hbroke, rfl⟩⟩
    | noRows hsubmits hbound hwritten =>
        obtain ⟨hadmits, hid, hdraft, hknown⟩ := hsubmits
        refine Or.inr (Or.inr ⟨_, _, hadmits, perform_escapes_iff.mpr ?_⟩)
        refine Or.inr ⟨_, hid, Or.inr ⟨_, hdraft, Or.inr ⟨hknown, ?_⟩⟩⟩
        exact Or.inr ⟨_, hbound, Or.inr ⟨rfl, rfl, rfl, _, _, hwritten⟩⟩

def longId : Request where
  method := "GET"
  resource := "widgets"
  rawId := some (String.ofList (List.replicate 4301 '1'))

theorem not_isApi_longId :
    ¬ ∀ (d : Dispatcher) (request : Request) (w : World) (f : Failure),
      (∀ bound text, w.answerTo bound ≠ .broke text) →
      (d.dispatch request w).result = .error f → f.IsApi := by
  intro h
  let d : Dispatcher := { gate := ⟨none, .text "role"⟩ }
  let w : World := { schema := { tables := ["widgets"] } }
  have hverb : Kind.table.verb? (normalizeMethod "GET") = some .get := by decide
  have hkind : w.schema.listing.kind? "widgets" = some .table := by decide
  have hadmits : d.Admits longId w .table .get :=
    Dispatcher.admits_of_open rfl (by decide) hkind hverb
  have hlong : Number.SpellsOverlong (String.ofList (List.replicate 4301 '1')).toList 4301 := by
    rw [String.toList_ofList]
    refine Number.spellsOverlong_of_digits (fun c hc => ?_) List.length_replicate (by decide)
    rw [List.eq_of_mem_replicate hc]
    decide
  obtain ⟨hresult, hf⟩ := dispatch_escapes_iff.mpr (Or.inr (Or.inr ⟨.table, .get, hadmits,
    perform_escapes_iff.mpr (Or.inl ⟨_, 4301, rfl, hlong, rfl⟩)⟩))
  exact hf (h d longId w _ (fun _ _ => by simp [w, World.answerTo, Store.answer]) hresult)

end TableGateway
