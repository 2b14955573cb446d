import Mathlib.Data.List.Forall2
import TableGateway.Dispatch.Basic
import TableGateway.Proofs.Action
import TableGateway.Proofs.Password
import TableGateway.Proofs.Record

namespace TableGateway

/-! ## Bodies -/

/-- A body is read if it is null or has identifiers for names. -/
theorem readBody_eq_ok_iff {v : Value} {body : Record} :
    readBody v = .ok body ↔
      (v = .null ∧ body = []) ∨ (v = .record body ∧ ∀ field ∈ body, isIdentifier field.1) := by
  cases v with
  | null =>
      simp only [readBody, Except.ok.injEq, true_and, reduceCtorEq, false_and, or_false]
      exact eq_comm
  | record fields =>
      simp only [readBody]
      cases hfind : fields.find? fun field => !isIdentifier field.1 with
      | some field =>
          have hbad : isIdentifier field.1 = false := by
            simpa using List.find?_some hfind
          simp only [reduceCtorEq, false_and, Value.record.injEq, false_or, false_iff, not_and]
          rintro rfl hall
          simp [hall field (List.mem_of_find?_eq_some hfind)] at hbad
      | none =>
          have hall : ∀ field ∈ fields, isIdentifier field.1 := by
            simpa using hfind
          simp only [Except.ok.injEq, reduceCtorEq, false_and, Value.record.injEq, false_or]
          constructor
          · rintro rfl
            exact ⟨rfl, hall⟩
          · exact fun h => h.1
  | _ => simp [readBody]

/-- Whatever is wrong with a body is told to the client. -/
theorem isApi_of_readBody_eq_error {v : Value} {f : Failure} (h : readBody v = .error f) :
    f.IsApi := by
  cases v with
  | null => simp [readBody] at h
  | record fields =>
      simp only [readBody] at h
      split at h
      · cases h
        exact .api _
      · cases h
  | _ =>
      cases h
      exact .api _

theorem isIdentifier_of_readBody {v : Value} {body : Record} (h : readBody v = .ok body) :
    ∀ name ∈ body.names, isIdentifier name := by
  intro name hname
  obtain ⟨field, hfield, rfl⟩ := List.mem_map.mp hname
  rcases readBody_eq_ok_iff.mp h with ⟨-, rfl⟩ | ⟨-, hall⟩
  · simp at hfield
  · exact hall field hfield

/-! ## Passwords in bodies -/

def ResourceSettings.holdsPassword (settings : ResourceSettings) (resource column : String) :
    Bool :=
  match settings.identityTable, settings.passwordField with
  | .text table, .text field => resource = table && column = field
  | _, _ => false

/-- What becomes of a field of a body: a password that is not null is replaced by its digest in the
table of users, and nothing else is changed. -/
inductive Dispatcher.Stores (d : Dispatcher) (resource : String) :
    String × Value → String × Value → Prop
  | digest {column digest : String} {value : Value} {hasher : Hasher}
      (hhasher : d.hasher = some hasher) (hholds : d.settings.holdsPassword resource column)
      (hvalue : value ≠ .null) (hdigest : hasher.hashValue value = .ok digest) :
      Stores d resource (column, value) (column, .text digest)
  | same {column : String} {value : Value}
      (h : ¬ (d.settings.holdsPassword resource column ∧ value ≠ .null)) :
      Stores d resource (column, value) (column, value)

theorem Dispatcher.Stores.name_eq {d : Dispatcher} {resource : String}
    {field kept : String × Value} (h : d.Stores resource field kept) : field.1 = kept.1 := by
  cases h <;> rfl

/-- A field is stored in one way only. -/
theorem Dispatcher.Stores.eq {d : Dispatcher} {resource : String} {field kept other : String × Value}
    (h : d.Stores resource field kept) (hother : d.Stores resource field other) : kept = other := by
  cases h with
  | digest hhasher hholds hvalue hdigest =>
      cases hother with
      | digest hhasher' _ _ hdigest' =>
          obtain rfl := Option.some.inj (hhasher.symm.trans hhasher')
          rw [Except.ok.inj (hdigest.symm.trans hdigest')]
      | same hplain => exact absurd ⟨hholds, hvalue⟩ hplain
  | same hplain =>
      cases hother with
      | digest _ hholds hvalue _ => exact absurd ⟨hholds, hvalue⟩ hplain
      | same _ => rfl

theorem ResourceSettings.holdsPassword_iff {settings : ResourceSettings}
    {resource column : String} :
    settings.holdsPassword resource column ↔
      settings.identityTable = .text resource ∧ settings.passwordField = .text column := by
  unfold holdsPassword
  split
  · rename_i table field htable hfield
    rw [htable, hfield]
    simp only [Bool.and_eq_true, decide_eq_true_eq, Value.text.injEq]
    exact and_congr eq_comm eq_comm
  · rename_i hnone
    simp only [Bool.false_eq_true, false_iff, not_and]
    exact fun htable hfield => hnone _ _ htable hfield

variable {settings : ResourceSettings} {resource : String} {body stored : Record}

/-- Only the table of users has passwords to store. -/
theorem hashPassword_of_ne_table {hasher : Option Hasher}
    (h : settings.identityTable ≠ .text resource) (body : Record) :
    hashPassword settings hasher resource body = .ok body := by
  unfold hashPassword
  split
  · rename_i table heq
    rw [if_neg fun hsame => h (by rw [heq, hsame])]
  · rfl

theorem hashPassword_of_lookup_eq_null {hasher : Option Hasher}
    (h : body.lookup settings.passwordField = .ok .null) :
    hashPassword settings hasher resource body = .ok body := by
  by_cases htable : settings.identityTable = .text resource
  · simp only [hashPassword, htable, if_true, h, bind, Except.bind, pure, Except.pure]
  · exact hashPassword_of_ne_table htable body

theorem hashPassword_of_ne_null {hasher : Option Hasher} {field : String}
    (htable : settings.identityTable = .text resource)
    (hfield : settings.passwordField = .text field) (hpassword : body.get field ≠ .null) :
    hashPassword settings hasher resource body =
      hasher.elim (.error (.api .noSalt)) fun hasher =>
        (hasher.hashValue (body.get field)).map fun digest => body.put field (.text digest) := by
  simp only [hashPassword, htable, hfield, Record.lookup, if_true, bind, Except.bind]
  cases hasher with
  | none => rfl
  | some hasher =>
      dsimp only [Option.elim]
      cases hasher.hashValue (body.get field) <;> rfl

theorem hashPassword_of_isUnusableName {hasher : Option Hasher} {kind : String}
    (htable : settings.identityTable = .text resource)
    (hname : settings.passwordField.IsUnusableName kind) :
    hashPassword settings hasher resource body = .error (.unusableName kind) := by
  have hlookup : body.lookup settings.passwordField = .error (.unusableName kind) :=
    Record.lookup_eq_error_iff.mpr ⟨kind, hname, rfl⟩
  simp only [hashPassword, htable, if_true, hlookup]
  rfl

/-- All that can come of storing a body: it has no password and stays as it is, its password is
replaced or has no bytes, there is no salt to replace it with, or the configured name cannot be
one. -/
theorem hashPassword_cases (settings : ResourceSettings) (hasher : Option Hasher)
    (resource : String) (body : Record) :
    (hashPassword settings hasher resource body = .ok body ∧
      ∀ column, settings.holdsPassword resource column → body.get column = .null) ∨
    (∃ field given digest, settings.holdsPassword resource field ∧ hasher = some given ∧
      body.get field ≠ .null ∧ given.hashValue (body.get field) = .ok digest ∧
      hashPassword settings hasher resource body = .ok (body.put field (.text digest))) ∨
    (∃ field text, settings.holdsPassword resource field ∧ hasher.isSome ∧
      body.get field = .halved text ∧
      hashPassword settings hasher resource body = .error (.unencodable text)) ∨
    hashPassword settings hasher resource body = .error (.api .noSalt) ∨
    (∃ kind, settings.identityTable = .text resource ∧
      settings.passwordField.IsUnusableName kind ∧
      hashPassword settings hasher resource body = .error (.unusableName kind)) := by
  by_cases htable : settings.identityTable = .text resource
  · rcases Record.lookup_cases settings.passwordField with
      ⟨field, hfield⟩ | ⟨kind, hname⟩ | ⟨hother, hnone⟩
    · have hholds : settings.holdsPassword resource field :=
        ResourceSettings.holdsPassword_iff.mpr ⟨htable, hfield⟩
      by_cases hnull : body.get field = .null
      · refine Or.inl ⟨hashPassword_of_lookup_eq_null ?_, fun column hcolumn => ?_⟩
        · rw [hfield, Record.lookup, hnull]
        · have hsame := (ResourceSettings.holdsPassword_iff.mp hcolumn).2
          rw [hfield, Value.text.injEq] at hsame
          rw [← hsame, hnull]
      · have hhash : hashPassword settings hasher resource body = _ :=
          hashPassword_of_ne_null htable hfield hnull
        cases hasher with
        | none => exact Or.inr (Or.inr (Or.inr (Or.inl hhash)))
        | some given =>
            rcases given.hashValue_cases (body.get field) with ⟨text, htext, herror⟩ | ⟨-, hok⟩
            · refine Or.inr (Or.inr (Or.inl ⟨field, text, hholds, rfl, htext, ?_⟩))
              rw [hhash, Option.elim, herror]
              rfl
            · refine Or.inr (Or.inl ⟨field, given, _, hholds, rfl, hnull, hok, ?_⟩)
              rw [hhash, Option.elim, hok]
              rfl
    · exact Or.inr (Or.inr (Or.inr (Or.inr
        ⟨kind, htable, hname, hashPassword_of_isUnusableName htable hname⟩)))
    · refine Or.inl ⟨hashPassword_of_lookup_eq_null (hnone body), fun column hcolumn => ?_⟩
      exact absurd (ResourceSettings.holdsPassword_iff.mp hcolumn).2 (hother column)
  · refine Or.inl ⟨hashPassword_of_ne_table htable body, fun column hcolumn => ?_⟩
    exact absurd (ResourceSettings.holdsPassword_iff.mp hcolumn).1 htable

/-- Storing a password changes no column name. -/
theorem names_of_hashPassword {hasher : Option Hasher}
    (h : hashPassword settings hasher resource body = .ok stored) :
    stored.names = body.names := by
  rcases hashPassword_cases settings hasher resource body with
    ⟨heq, -⟩ | ⟨field, given, digest, -, -, hne, -, heq⟩ | ⟨field, text, -, -, -, heq⟩ | heq |
      ⟨kind, -, -, heq⟩
  · cases heq.symm.trans h
    rfl
  · cases heq.symm.trans h
    exact Record.names_put (Record.mem_names_of_get_ne_null hne)
  · cases heq.symm.trans h
  · cases heq.symm.trans h
  · cases heq.symm.trans h

/-- Column by column, only the password changes on its way to the statement. -/
theorem stores_of_hashPassword {d : Dispatcher} (honce : body.NamesOnce)
    (h : hashPassword d.settings d.hasher resource body = .ok stored) :
    List.Forall₂ (d.Stores resource) body stored := by
  rcases hashPassword_cases d.settings d.hasher resource body with
    ⟨heq, hnull⟩ | ⟨field, hasher, digest, hholds, hhasher, hne, hdigest, heq⟩ |
      ⟨field, text, -, -, -, heq⟩ | heq | ⟨kind, -, -, heq⟩
  -- A body that stays as it is has null for a password or none, and null is stored as null.
  · cases heq.symm.trans h
    refine List.forall₂_same.mpr ?_
    intro field hfield
    refine .same ?_
    rintro ⟨hholds, hvalue⟩
    exact hvalue ((Record.get_eq_of_mem honce hfield).symm.trans (hnull field.1 hholds))
  · cases heq.symm.trans h
    rw [Record.put_eq_map honce (Record.mem_names_of_get_ne_null hne), List.forall₂_map_right_iff]
    refine List.forall₂_same.mpr ?_
    rintro ⟨column, value⟩ hcolumn
    by_cases hname : column = field
    · subst hname
      have hvalue := Record.get_eq_of_mem honce hcolumn
      rw [hvalue] at hne hdigest
      rw [if_pos rfl]
      exact .digest hhasher hholds hne hdigest
    · rw [if_neg hname]
      refine .same fun hboth => hname ?_
      have hsame := (ResourceSettings.holdsPassword_iff.mp hboth.1).2
      rw [(ResourceSettings.holdsPassword_iff.mp hholds).2, Value.text.injEq] at hsame
      exact hsame.symm
  · cases heq.symm.trans h
  · cases heq.symm.trans h
  · cases heq.symm.trans h

/-! ## What is drafted -/

/-- A request's body can be written: it is an object of columns, at least one, and none of them the
id. -/
structure Request.Offers (request : Request) (body : Record) : Prop where
  read : readBody request.body = .ok body
  noId : body.has idColumn = false
  notEmpty : body.isEmpty = false

theorem Request.Offers.isIdentifier {request : Request} {body : Record}
    (h : request.Offers body) : ∀ name ∈ body.names, isIdentifier name :=
  isIdentifier_of_readBody h.read

theorem Request.Offers.body_eq {request : Request} {body : Record} (h : request.Offers body) :
    request.body = .record body := by
  rcases readBody_eq_ok_iff.mp h.read with ⟨-, rfl⟩ | ⟨hbody, -⟩
  · exact absurd h.notEmpty (by simp)
  · exact hbody

theorem Request.Offers.eq_of_body_eq {request : Request} {offered body : Record}
    (h : request.Offers offered) (hbody : request.body = .record body) : offered = body :=
  Value.record.inj (h.body_eq.symm.trans hbody)

/-- A body is unreadable, or it can be written, or something is wrong with its columns. -/
theorem Request.offers_cases (request : Request) :
    (∃ f, readBody request.body = .error f ∧ f.IsApi) ∨
      ∃ body, readBody request.body = .ok body ∧
        (body.has idColumn = true ∨ body.isEmpty = true ∨ request.Offers body) := by
  cases hread : readBody request.body with
  | error f => exact Or.inl ⟨f, rfl, isApi_of_readBody_eq_error hread⟩
  | ok body =>
      refine Or.inr ⟨body, rfl, ?_⟩
      cases hid : body.has idColumn with
      | true => exact Or.inl rfl
      | false =>
          cases hempty : body.isEmpty with
          | true => exact Or.inr (Or.inl rfl)
          | false => exact Or.inr (Or.inr ⟨hread, hid, hempty⟩)

variable {hasher : Option Hasher} {request : Request} {draft : Draft} {id : Value} {f : Failure}

def Draft.inserting (resource : String) (stored : Record) : Draft where
  statement := insertStatement resource stored
  checked := some stored.names

def Draft.updating (resource : String) (id : Value) (stored : Record) : Draft where
  statement := updateStatement resource stored id
  checked := some stored.names

theorem draftCreate_of_offers (hid : request.rawId = none) (h : request.Offers body) :
    draftCreate settings hasher request =
      (hashPassword settings hasher request.resource body).map
        (Draft.inserting request.resource) := by
  simp only [draftCreate, h.read, h.noId, h.notEmpty, hid, bind, Except.bind]
  cases hashPassword settings hasher request.resource body <;> rfl

theorem draftUpdate_of_offers (h : request.Offers body) :
    draftUpdate settings hasher request (some id) =
      (hashPassword settings hasher request.resource body).map
        (Draft.updating request.resource id) := by
  simp only [draftUpdate, h.read, h.noId, h.notEmpty, bind, Except.bind]
  cases hashPassword settings hasher request.resource body <;> rfl

/-- A client that offers no columns is told so. -/
theorem draftCreate_of_not_offers (h : ∀ body, request.rawId = none → ¬ request.Offers body) :
    ∃ f, draftCreate settings hasher request = .error f ∧ f.IsApi := by
  rcases request.offers_cases with ⟨f, hread, hf⟩ | ⟨body, hread, hbody⟩
  · exact ⟨f, by simp only [draftCreate, hread]; rfl, hf⟩
  · cases hid : request.rawId with
    | some raw =>
        exact ⟨.api .idNotAllowed, by simp only [draftCreate, hread, hid]; rfl, .api _⟩
    | none =>
        rcases hbody with hhas | hempty | hoffers
        · refine ⟨.api .idNotAllowed, ?_, .api _⟩
          simp only [draftCreate, hread, hid, hhas, bind, Except.bind]
          rfl
        · cases List.isEmpty_iff.mp hempty
          exact ⟨.api .noColumns, by simp only [draftCreate, hread, hid]; rfl, .api _⟩
        · exact absurd hoffers (h body hid)

theorem draftUpdate_of_not_offers (h : ∀ body, ¬ request.Offers body) :
    ∃ f, draftUpdate settings hasher request (some id) = .error f ∧ f.IsApi := by
  rcases request.offers_cases with ⟨f, hread, hf⟩ | ⟨body, hread, hhas | hempty | hoffers⟩
  · exact ⟨f, by simp only [draftUpdate, hread]; rfl, hf⟩
  · exact ⟨.api .idInBody, by simp only [draftUpdate, hread, hhas, bind, Except.bind]; rfl, .api _⟩
  · cases List.isEmpty_iff.mp hempty
    exact ⟨.api .noColumns, by simp only [draftUpdate, hread]; rfl, .api _⟩
  · exact absurd hoffers (h body)

/-- What a writing request has drafted: the columns it offers, stored. -/
theorem draftCreate_eq_ok (h : draftCreate settings hasher request = .ok draft) :
    request.rawId = none ∧ ∃ body stored, request.Offers body ∧
      hashPassword settings hasher request.resource body = .ok stored ∧
      draft = .inserting request.resource stored := by
  by_cases hoffers : ∃ body, request.rawId = none ∧ request.Offers body
  · obtain ⟨body, hid, hbody⟩ := hoffers
    rw [draftCreate_of_offers hid hbody] at h
    cases hstored : hashPassword settings hasher request.resource body with
    | error f => simp [hstored, Except.map] at h
    | ok stored =>
        simp only [hstored, Except.map, Except.ok.injEq] at h
        exact ⟨hid, body, stored, hbody, hstored, h.symm⟩
  · have hnone : ∀ body, request.rawId = none → ¬ request.Offers body :=
      fun body hid hbody => hoffers ⟨body, hid, hbody⟩
    obtain ⟨f, hf, -⟩ : ∃ f, draftCreate settings hasher request = .error f ∧ f.IsApi :=
      draftCreate_of_not_offers hnone
    rw [hf] at h
    cases h

/-- A change that can be drafted has an id in the path and columns in the body. -/
theorem draftUpdate_eq_ok {id : Option Value}
    (h : draftUpdate settings hasher request id = .ok draft) :
    ∃ number body stored, id = some number ∧ request.Offers body ∧
      hashPassword settings hasher request.resource body = .ok stored ∧
      draft = .updating request.resource number stored := by
  cases id with
  | none => cases h
  | some number =>
      by_cases hoffers : ∃ body, request.Offers body
      · obtain ⟨body, hbody⟩ := hoffers
        rw [draftUpdate_of_offers hbody] at h
        cases hstored : hashPassword settings hasher request.resource body with
        | error f => simp [hstored, Except.map] at h
        | ok stored =>
            simp only [hstored, Except.map, Except.ok.injEq] at h
            exact ⟨number, body, stored, rfl, hbody, hstored, h.symm⟩
      · have hnone : ∀ body, ¬ request.Offers body := fun body hbody => hoffers ⟨body, hbody⟩
        obtain ⟨f, hf, -⟩ : ∃ f, draftUpdate settings hasher request (some number) = .error f ∧
            f.IsApi :=
          draftUpdate_of_not_offers hnone
        rw [hf] at h
        cases h

def Draft.reading (settings : ResourceSettings) (resource : String) (q : Query)
    (id : Option Value) : Draft where
  statement := selectStatement settings.regexOperator resource q id
  checked := if id.isNone then some q.columns else none

inductive Request.Drafts (request : Request) (settings : ResourceSettings)
    (hasher : Option Hasher) : Verb → Option Value → Draft → Prop
  | select {q : Query} {id : Option Value} (hread : Query.read request.query = .ok q) :
      Drafts request settings hasher .get id (.reading settings request.resource q id)
  | insert {id : Option Value} {body stored : Record} (hid : request.rawId = none)
      (hoffers : request.Offers body)
      (hstored : hashPassword settings hasher request.resource body = .ok stored) :
      Drafts request settings hasher .post id (.inserting request.resource stored)
  | update {id : Value} {body stored : Record} (hoffers : request.Offers body)
      (hstored : hashPassword settings hasher request.resource body = .ok stored) :
      Drafts request settings hasher .put (some id) (.updating request.resource id stored)
  | delete {id : Value} :
      Drafts request settings hasher .delete (some id)
        { statement := deleteStatement request.resource id }

/-- Whatever the verb, a draft is made of what the request has for it. -/
theorem Request.drafts_of_draft_eq_ok {verb : Verb} {id : Option Value}
    (h : request.draft settings hasher verb id = .ok draft) :
    request.Drafts settings hasher verb id draft := by
  cases verb with
  | get =>
      simp only [Request.draft, draftRead] at h
      split at h
      · cases h
      · rename_i q hread
        cases h
        exact .select hread
  | post =>
      obtain ⟨hid, body, stored, hoffers, hstored, rfl⟩ := draftCreate_eq_ok h
      exact .insert hid hoffers hstored
  | put =>
      obtain ⟨number, body, stored, rfl, hoffers, hstored, rfl⟩ := draftUpdate_eq_ok h
      exact .update hoffers hstored
  | delete =>
      cases id with
      | none => cases h
      | some id =>
          cases h
          exact .delete

theorem Request.Offers.isIdentifier_stored (h : request.Offers body)
    (hstored : hashPassword settings hasher request.resource body = .ok stored) :
    ∀ name ∈ stored.names, TableGateway.isIdentifier name :=
  names_of_hashPassword hstored ▸ h.isIdentifier

theorem Request.Offers.isEmpty_stored (h : request.Offers body)
    (hstored : hashPassword settings hasher request.resource body = .ok stored) :
    stored.isEmpty = false :=
  Record.isEmpty_eq_of_names_eq (names_of_hashPassword hstored) h.notEmpty

end TableGateway
