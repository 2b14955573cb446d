import TableGateway.Proofs.Credentials
import TableGateway.Proofs.Dispatch.Stages
import TableGateway.Proofs.Json.Read
import TableGateway.Proofs.Service.Login
import TableGateway.Proofs.Service.Start

/-!
# Stored and checked credentials

A password is stored by a write to the table of users and checked by a login. Both come to the same
parameter, whatever kind of value the password is, as long as it has a digest; everything else that
a write binds is what its body holds.
-/

namespace TableGateway

/-! ## Identities -/

/-- Where users are kept: in a table, their names in one column and their passwords in another. -/
structure Identity where
  table : String
  loginField : String
  passwordField : String
  isIdentifier_table : isIdentifier table
  isIdentifier_loginField : isIdentifier loginField
  isIdentifier_passwordField : isIdentifier passwordField

def Identity.lookup (identity : Identity) (name stored : Value) : Statement where
  sql := "SELECT * FROM " ++ identity.table ++ " WHERE " ++ identity.loginField ++ " = ? AND " ++
    identity.passwordField ++ " = ?"
  params := [name, stored]

structure Service.Identifies (s : Service) (hasher : Hasher) (identity : Identity) : Prop where
  hasher : s.dispatcher.hasher = some hasher
  table : s.dispatcher.settings.identityTable = .text identity.table
  loginField : s.loginField = .text identity.loginField
  passwordField : s.dispatcher.settings.passwordField = .text identity.passwordField

structure Identity.IsConfigured (identity : Identity) (hasher : Hasher) (config : Record) :
    Prop where
  salt : config.get "PASSWORD_SALT" = .text hasher.salt
  table : config.get "IDENTITY_TABLE" = .text identity.table
  loginField : config.get "LOGIN_FIELD" = .text identity.loginField
  passwordField : config.get "PASSWORD_FIELD" = .text identity.passwordField

def HttpRequest.Holds (r : HttpRequest) (fields : Record) : Prop :=
  ∃ body, r.json? = .ok (some body) ∧ body.record? = some fields

structure HttpRequest.Brings (r : HttpRequest) (loginField : String) (name password : Value) :
    Prop where
  isJson : r.saysJson
  read : ∃ fields, r.Holds fields ∧ fields.get loginField = name ∧ fields.get "password" = password
  name_ne_null : name ≠ .null
  name_ne_empty : name ≠ .text ""
  password_ne_null : password ≠ .null

def Turn.submissions (turn : Turn) : List Statement :=
  turn.events.filterMap Event.submitted?

def Statement.BindsOnly (s : Statement) (resource column : String) (value : Value) : Prop :=
  ∀ other, s.Binds resource column other ↔ other = value

/-- A login looks for a user with one parameter in the column of the password, and a write of that
password to the table of users binds the same parameter to the column. -/
def Identity.ChecksStored (identity : Identity) (name password : Value) (login write : Turn)
    (resource : String) (body : Record) : Prop :=
  ∃ checked, login.submissions = [identity.lookup name checked] ∧
    ∀ t ∈ write.submissions, t.keyword = "INSERT" ∨ t.keyword = "UPDATE" →
      resource = identity.table → body.get identity.passwordField = password →
        t.BindsOnly resource identity.passwordField checked

variable {s : Service} {hasher : Hasher} {identity : Identity} {r : HttpRequest}
  {session : Session} {w : World} {name password : Value}

/-! ## Configurations -/

theorem hasherOf_of_isConfigured {config : Record} (h : identity.IsConfigured hasher config) :
    Service.hasherOf config = .ok (some hasher) := by
  have hsalt : (Value.text hasher.salt).isTruthy := by
    simp [Value.isTruthy, hasher.salt_ne_empty]
  have hmade : Hasher.ofSalt (.text hasher.salt) = .ok hasher := dif_pos hasher.salt_ne_empty
  simp only [Service.hasherOf, h.salt, hsalt, if_true, hmade]
  rfl

/-- A service that was started identifies users as its configuration says. -/
theorem Service.identifies_of_start {d : Deployment} {overrides : Record} {engine : Option String}
    (hstart : (Service.start d overrides engine w).result = .ok s) :
    ∃ config, (Config.build d overrides).value = .ok config ∧
      ∀ hasher identity, Identity.IsConfigured identity hasher config →
        s.Identifies hasher identity := by
  obtain ⟨config, hconfig, hfollows⟩ := exists_follows_of_start hstart
  refine ⟨config, hconfig, fun hasher identity hidentity => ?_⟩
  have hfound := hfollows.hasher
  rw [hasherOf_of_isConfigured hidentity] at hfound
  exact ⟨(Except.ok.inj hfound).symm, hfollows.identityTable.trans hidentity.table,
    hfollows.loginField.trans hidentity.loginField,
    hfollows.passwordField.trans hidentity.passwordField⟩

/-! ## What a request carries -/

def Value.points? : Value → Option (List Text.CodePoint)
  | .text s => some (Text.points s.toList)
  | .halved s => some s.points
  | _ => none

/-- A text is determined by its code points. -/
theorem Value.eq_ofPoints {v : Value} {text : List Text.CodePoint} (h : v.points? = some text) :
    v = .ofPoints text := by
  cases v with
  | text s =>
      cases h
      exact (Json.ofPoints_points s).symm
  | halved s =>
      cases h
      unfold ofPoints
      split
      · rename_i hwhole
        cases hwhole.symm.trans s.isHalved
      · rfl
  | _ => cases h

def Value.fields? : Value → Option Record
  | .record fields => some fields
  | _ => none

theorem Value.eq_record_of_fields? {v : Value} {fields : Record} (h : v.fields? = some fields) :
    v = .record fields := by
  cases v with
  | record members => exact congrArg Value.record (Option.some.inj h)
  | _ => cases h

theorem HttpRequest.namesOnce_of_json? {body : Record}
    (h : r.json? = .ok (some (.record body))) : body.NamesOnce := by
  unfold json? at h
  split at h
  · rename_i value hread
    cases h
    exact Json.namesOnce_of_readBytes hread
  · cases h
  · cases h

/-! ## What a turn submits -/

section Submissions

variable {α β : Type} {x : Action α} {f : α → Action β}

theorem Action.submissions_bind (hf : ∀ a w, (f a w).submissions = []) :
    ((x >>= f) w).submissions = (x w).submissions := by
  cases h : (x w).result with
  | ok a =>
      have hsecond := hf a (x w).world
      unfold Ending.submissions at hsecond ⊢
      rw [bind_of_ok h, List.filterMap_append, hsecond, List.append_nil]
  | error e => rw [bind_of_error h, Ending.submissions, Ending.submissions]

theorem Action.submissions_rescue {handle : Failure → Action α}
    (hhandle : ∀ e w, (handle e w).submissions = []) :
    (rescue x handle w).submissions = (x w).submissions := by
  cases h : (x w).result with
  | ok a => rw [rescue_of_ok h]
  | error e =>
      have hsecond := hhandle e (x w).world
      unfold Ending.submissions at hsecond ⊢
      rw [rescue_of_error h, List.filterMap_append, hsecond, List.append_nil]

theorem Action.submissions_runStatement (t : Statement) (w : World) :
    (runStatement t w).submissions = [] := by
  rw [Ending.submissions, runStatement_apply]
  split
  · rfl
  · split <;> rfl

end Submissions

namespace Service

/-- A turn hands over what its endpoint does; answering hands over nothing. -/
theorem submissions_serve {endpoint : Endpoint} (hr : r.routing = .to endpoint) :
    (s.serve session r w).submissions = (s.handle session r endpoint w).submissions := by
  have hroute :
      (s.route session r w).submissions = (s.handle session r endpoint w).submissions := by
    unfold route serveAt Turn.submissions Ending.submissions
    rw [hr]
    dsimp only
    split
    · rw [List.filterMap_append, filterMap_logged (fun _ => rfl), List.append_nil]
    · rw [List.filterMap_append, filterMap_logged (fun _ => rfl), List.append_nil]
  rw [← hroute]
  unfold serve Turn.submissions
  dsimp only
  split <;> rfl

theorem credentials_of_read {fields : Record} (hjson : r.saysJson)
    (hread : r.Holds fields) (hname : fields.lookup s.loginField = .ok name) (hnull : name ≠ .null)
    (hempty : name ≠ .text "") (hpassword : fields.get "password" ≠ .null) :
    s.credentials r = .ok (name, fields.get "password") := by
  obtain ⟨body, hbody, hfields⟩ := hread
  simp only [credentials, hjson, if_true, hbody, bind, Except.bind, Option.bind, hfields, hname]
  rfl

theorem credentials_of_brings (hs : s.Identifies hasher identity)
    (h : r.Brings identity.loginField name password) : s.credentials r = .ok (name, password) := by
  obtain ⟨hjson, ⟨fields, hread, rfl, rfl⟩, hnull, hempty, hpassword⟩ := h
  have hname : fields.lookup s.loginField = .ok (fields.get identity.loginField) := by
    rw [hs.loginField]
    rfl
  exact credentials_of_read hjson hread hname hnull hempty hpassword

theorem identifierOf_text {name : String} (h : isIdentifier name) :
    identifierOf (.text name) = .ok name :=
  if_pos h

theorem credentialStatement_eq (hs : s.Identifies hasher identity) (name password : Value) :
    s.credentialStatement hasher name password =
      (hasher.hashValue password).map fun digest => identity.lookup name (.text digest) := by
  rw [credentialStatement, hs.table, hs.loginField, hs.passwordField,
    identifierOf_text identity.isIdentifier_table,
    identifierOf_text identity.isIdentifier_loginField,
    identifierOf_text identity.isIdentifier_passwordField]
  cases hasher.hashValue password <;> rfl

/-- Looking a user up hands over one statement, and none if the password has no digest. -/
theorem submissions_findUser (hs : s.Identifies hasher identity) (name password : Value)
    (w : World) :
    (s.findUser hasher name password w).submissions =
      ((hasher.hashValue password).map fun digest =>
        identity.lookup name (.text digest)).toOption.toList := by
  unfold findUser
  rw [credentialStatement_eq hs]
  cases hasher.hashValue password with
  | error f => rfl
  | ok digest =>
      dsimp only [Except.map]
      rw [Action.ofExcept_ok_bind, Action.emit_bind]
      generalize identity.lookup name (.text digest) = lookup
      unfold Ending.submissions
      refine congrArg (lookup :: ·) ?_
      refine (Action.submissions_bind (x := Action.runStatement lookup)
        (fun outcome w => ?_)).trans (Action.submissions_runStatement lookup w)
      cases outcome <;> rfl

/-- A login that brings a name and a password hands over one statement, which looks for both, or
none where the password has no digest. -/
theorem submissions_login (hs : s.Identifies hasher identity) (hr : r.routing = .to .login)
    (hbrings : r.Brings identity.loginField name password) :
    (s.serve session r w).submissions =
      ((hasher.hashValue password).map fun digest =>
        identity.lookup name (.text digest)).toOption.toList := by
  rw [submissions_serve hr, handle, login, credentials_of_brings hs hbrings,
    Action.ofExcept_ok_bind]
  simp only [hs.hasher]
  rw [Action.submissions_bind, Action.submissions_rescue, submissions_findUser hs]
  · intro e w
    split <;> rfl
  · intro found w
    cases found <;> rfl

/-- A body other than null was read from JSON. -/
theorem json?_of_bodyOf {v : Value} (h : bodyOf r = .ok v) (hv : v ≠ .null) :
    r.json? = .ok (some v) := by
  unfold bodyOf at h
  split at h
  · split at h
    · cases h
    · cases h
    · cases h
    · rename_i body _ hbody
      cases h
      exact hbody
  · cases h
    exact absurd rfl hv

/-- What is handed over for a resource is handed over by its dispatch. -/
theorem mem_submissions_resource {name : String} {id : Option String} {t : Statement}
    (ht : t ∈ (s.resource session r name id w).submissions) :
    ∃ body, bodyOf r = .ok body ∧
      .submitted t ∈ (s.dispatcher.dispatch
        { method := r.method, resource := name, rawId := id, query := r.queryText, body
          user := session } w).events := by
  unfold resource at ht
  cases hbody : bodyOf r with
  | error e =>
      rw [hbody] at ht
      cases ht
  | ok body =>
      rw [hbody, Action.ofExcept_ok_bind, Action.submissions_bind fun _ _ => rfl] at ht
      exact ⟨body, rfl, Event.mem_filterMap_submitted?_iff.mp ht⟩

/-! ## Stored and checked -/

/-- A write binds to a column of its body what is stored of the value there. -/
theorem binds_iff_stores {resource : String} {id : Option String} {body : Record} {t : Statement}
    (hr : r.routing = .to (.resource resource id)) (hbody : r.json? = .ok (some (.record body)))
    (ht : t ∈ (s.serve session r w).submissions)
    (hwrite : t.keyword = "INSERT" ∨ t.keyword = "UPDATE") {column : String}
    (hcolumn : column ∈ body.names) (value : Value) :
    t.Binds resource column value ↔
      s.dispatcher.Stores resource (column, body.get column) (column, value) := by
  rw [submissions_serve hr] at ht
  obtain ⟨given, hgiven, hsubmitted⟩ := mem_submissions_resource ht
  -- A statement that writes has a body to write, which is the one that was read.
  obtain ⟨offered, _, hoffers, -, -⟩ := writes_of_submitted hsubmitted hwrite
  obtain rfl : given = .record offered := hoffers.body_eq
  have hread := hbody.symm.trans (json?_of_bodyOf hgiven nofun)
  obtain rfl : body = offered := Value.record.inj (Option.some.inj (Except.ok.inj hread))
  have honce := HttpRequest.namesOnce_of_json? hbody
  rw [binds_submitted_iff rfl honce hsubmitted hwrite]
  constructor
  · rintro ⟨sent, hsent, hstores⟩
    rwa [Record.get_eq_of_mem honce hsent]
  · exact fun hstores => ⟨body.get column, (Record.mem_iff_get_eq honce hcolumn).mpr rfl, hstores⟩

theorem bindsOnly_of_stores {resource : String} {id : Option String} {body : Record} {t : Statement}
    (hr : r.routing = .to (.resource resource id)) (hbody : r.json? = .ok (some (.record body)))
    (ht : t ∈ (s.serve session r w).submissions)
    (hwrite : t.keyword = "INSERT" ∨ t.keyword = "UPDATE") {column : String} {value : Value}
    (hcolumn : column ∈ body.names)
    (hstores : s.dispatcher.Stores resource (column, body.get column) (column, value)) :
    t.BindsOnly resource column value := by
  intro other
  rw [binds_iff_stores hr hbody ht hwrite hcolumn]
  constructor
  · exact fun hother => (Prod.mk.inj (hother.eq hstores)).2
  · rintro rfl
    exact hstores

/-- **Stored and checked credentials.** A login looks for a user with one parameter in the column of
the password, and a write of the same password to the table of users binds that parameter to the
column, exactly if the password holds no half of a character. Whatever else a write binds is what its
body holds. -/
theorem checksStored_iff {r' : HttpRequest} {resource : String} {id : Option String}
    {body : Record} (hs : s.Identifies hasher identity) (hr : r.routing = .to .login)
    (hbrings : r.Brings identity.loginField name password)
    (hr' : r'.routing = .to (.resource resource id))
    (hbody : r'.json? = .ok (some (.record body))) (session session' : Session) (w w' : World) :
    (identity.ChecksStored name password (s.serve session r w) (s.serve session' r' w') resource
        body ↔ password.IsWhole) ∧
      ∀ t ∈ (s.serve session' r' w').submissions, t.keyword = "INSERT" ∨ t.keyword = "UPDATE" →
        ∀ column ∈ body.names, resource ≠ identity.table ∨ column ≠ identity.passwordField →
          t.BindsOnly resource column (body.get column) := by
  have hholds : ∀ column, s.dispatcher.settings.holdsPassword resource column ↔
      resource = identity.table ∧ column = identity.passwordField := by
    intro column
    rw [ResourceSettings.holdsPassword_iff, hs.table, hs.passwordField, Value.text.injEq,
      Value.text.injEq, eq_comm, eq_comm (a := column)]
  have hlogin : (s.serve session r w).submissions =
      ((hasher.hashValue password).map fun digest =>
        identity.lookup name (.text digest)).toOption.toList :=
    submissions_login hs hr hbrings
  constructor
  · rcases hasher.hashValue_cases password with ⟨text, rfl, hdigest⟩ | ⟨hwhole, hdigest⟩
    · rw [hdigest] at hlogin
      refine iff_of_false ?_ fun hwhole => hwhole text rfl
      rintro ⟨checked, hsubmitted, -⟩
      cases hlogin.symm.trans hsubmitted
    · rw [hdigest] at hlogin
      refine iff_of_true ⟨_, hlogin, fun t ht hwrite => ?_⟩ hwhole
      rintro htable rfl
      refine bindsOnly_of_stores hr' hbody ht hwrite
        (Record.mem_names_of_get_ne_null hbrings.password_ne_null) ?_
      exact .digest hs.hasher ((hholds _).mpr ⟨htable, rfl⟩) hbrings.password_ne_null hdigest
  · intro t ht hwrite column hcolumn hother
    refine bindsOnly_of_stores hr' hbody ht hwrite hcolumn (.same ?_)
    rintro ⟨hpassword, -⟩
    obtain ⟨htable, hfield⟩ := (hholds column).mp hpassword
    exact hother.elim (· htable) (· hfield)

def usersIdentity : Identity :=
  ⟨"users", "email", "password", by decide, by decide, by decide⟩

def registerRequest : HttpRequest :=
  { loginRequest with path := "/api/users" }

/-- A body with two texts in it is known by its names and by the code points of the texts. -/
theorem HttpRequest.json?_of_parts {field field' : String} {text text' : List Text.CodePoint}
    (hread : (r.json?.toOption.bind fun body => body.bind Value.fields?).map
      (fun fields => fields.map fun field => (field.1, field.2.points?)) =
        some [(field, some text), (field', some text')]) :
    r.json? = .ok (some (.record [(field, .ofPoints text), (field', .ofPoints text')])) := by
  obtain ⟨fields, hfields, hparts⟩ := Option.map_eq_some_iff.mp hread
  obtain ⟨body, hbody, hrecord⟩ := Option.bind_eq_some_iff.mp hfields
  obtain ⟨v, rfl, hv⟩ := Option.bind_eq_some_iff.mp hrecord
  rw [eq_ok_of_toOption_eq_some hbody, Value.eq_record_of_fields? hv]
  obtain ⟨⟨name, value⟩, rest, rfl, hfirst, hrest⟩ := List.map_eq_cons_iff.mp hparts
  obtain ⟨⟨name', value'⟩, rfl, hsecond⟩ := List.map_eq_singleton_iff.mp hrest
  simp only [Prod.mk.injEq] at hfirst hsecond
  obtain ⟨rfl, htext⟩ := hfirst
  obtain ⟨rfl, htext'⟩ := hsecond
  rw [← Value.eq_ofPoints htext, ← Value.eq_ofPoints htext']

theorem json?_loginRequest :
    loginRequest.json? =
      .ok (some (.record [("email", .text "ada"), ("password", .text "secret")])) := by
  have hread : loginRequest.json? = .ok (some (.record
      [("email", .ofPoints (Text.points "ada".toList)),
        ("password", .ofPoints (Text.points "secret".toList))])) :=
    HttpRequest.json?_of_parts (by decide +kernel)
  rwa [Json.ofPoints_points, Json.ofPoints_points] at hread

theorem json?_registerRequest :
    registerRequest.json? =
      .ok (some (.record [("email", .text "ada"), ("password", .text "secret")])) := by
  rw [← json?_loginRequest, HttpRequest.json?, HttpRequest.json?, registerRequest]

theorem identifies_sealedService :
    sealedService.Identifies ⟨"pepper", by decide⟩ usersIdentity :=
  ⟨rfl, rfl, rfl, rfl⟩

theorem checksStored_registerRequest :
    usersIdentity.ChecksStored (.text "ada") (.text "secret")
        (sealedService.serve none loginRequest {})
        (sealedService.serve none registerRequest usersWorld) "users"
        [("email", .text "ada"), ("password", .text "secret")] ∧
      ∃ t, (sealedService.serve none registerRequest usersWorld).submissions = [t] ∧
        t.BindsOnly "users" "email" (.text "ada") := by
  have hbrings : loginRequest.Brings usersIdentity.loginField (.text "ada") (.text "secret") :=
    ⟨by decide +kernel, ⟨_, ⟨_, json?_loginRequest, rfl⟩, rfl, rfl⟩, nofun, by simp, nofun⟩
  have hsql : (sealedService.serve none registerRequest usersWorld).submissions.map
      Statement.sql = ["INSERT INTO users (email, password) VALUES (?, ?)"] := by
    decide +kernel
  have hlogin : loginRequest.routing = .to .login := by decide +kernel
  have hregister : registerRequest.routing = .to (.resource "users" none) := by decide +kernel
  obtain ⟨hchecks, hothers⟩ := checksStored_iff identifies_sealedService hlogin hbrings hregister
    json?_registerRequest none none {} usersWorld
  obtain ⟨t, hsubmitted, ht⟩ := List.map_eq_singleton_iff.mp hsql
  have hkeyword : t.keyword = "INSERT" := by
    rw [Statement.keyword, ht]
    decide
  refine ⟨hchecks.mpr fun _ => Value.noConfusion, t, hsubmitted, ?_⟩
  exact hothers t (hsubmitted ▸ List.mem_singleton_self t) (Or.inl hkeyword) "email" (by decide)
    (Or.inr (by decide))

def halvedRequest : HttpRequest :=
  { loginRequest with
    body := "\x7b\"email\":\"ada\",\"password\":\"\\ud800\"\x7d".toList.map
      fun c => UInt8.ofNat c.toNat }

def halvedPassword : Value :=
  .halved ⟨[.half ⟨0xd800, by decide⟩], rfl⟩

theorem json?_halvedRequest :
    halvedRequest.json? =
      .ok (some (.record [("email", .text "ada"), ("password", halvedPassword)])) := by
  have hread : halvedRequest.json? = .ok (some (.record
      [("email", .ofPoints (Text.points "ada".toList)),
        ("password", .ofPoints [.half ⟨0xd800, by decide⟩])])) :=
    HttpRequest.json?_of_parts (by decide +kernel)
  rwa [Json.ofPoints_points] at hread

/-- A login with half of a character for a password looks for no one. -/
theorem not_checksStored_halvedRequest :
    ¬ ∀ (s : Service) (hasher : Hasher) (identity : Identity) (r r' : HttpRequest)
      (name password : Value) (resource : String) (id : Option String) (body : Record)
      (session session' : Session) (w w' : World), s.Identifies hasher identity →
      r.routing = .to .login → r.Brings identity.loginField name password →
      r'.routing = .to (.resource resource id) → r'.json? = .ok (some (.record body)) →
      identity.ChecksStored name password (s.serve session r w) (s.serve session' r' w') resource
        body := by
  intro hall
  let register : HttpRequest := { halvedRequest with path := "/api/users" }
  have hbrings : halvedRequest.Brings usersIdentity.loginField (.text "ada") halvedPassword :=
    ⟨by decide +kernel, ⟨_, ⟨_, json?_halvedRequest, rfl⟩, rfl, rfl⟩, nofun, by simp, nofun⟩
  have hbody : register.json? =
      .ok (some (.record [("email", .text "ada"), ("password", halvedPassword)])) := by
    rw [← json?_halvedRequest, HttpRequest.json?, HttpRequest.json?]
  obtain ⟨checked, hsubmitted, -⟩ := hall sealedService _ usersIdentity halvedRequest register
    (.text "ada") halvedPassword "users" none _ none none {} usersWorld identifies_sealedService
    (by decide +kernel) hbrings (by decide +kernel) hbody
  have hnone : (sealedService.serve none halvedRequest {}).submissions.length = 0 := by
    decide +kernel
  rw [hsubmitted] at hnone
  cases hnone

end Service

end TableGateway
