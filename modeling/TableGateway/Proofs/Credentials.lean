import TableGateway.Proofs.Dispatch.Statement
import TableGateway.Proofs.Dispatch.Submission
import TableGateway.Proofs.Password

/-!
# Stored credentials

What a write to the table of users binds to its password column. A dispatch looks for the column
under the configured spelling; a database takes other spellings for the same column, and under those
a password is bound as it was sent.
-/

namespace TableGateway

/-- A column as a database compares unquoted names: neither blanks around it nor the case of ASCII
letters count. -/
def columnKey (name : String) : List Char :=
  (Text.trim name.toList).map Char.toLower

def Statement.Binds (s : Statement) (resource column : String) (value : Value) : Prop :=
  ∃ fields, s.Writes resource fields ∧ (∀ name ∈ fields.names, isIdentifier name) ∧
    (column, value) ∈ fields

theorem Statement.Writes.binds_iff {s : Statement} {resource : String} {fields : Record}
    (h : s.Writes resource fields) (hfields : ∀ name ∈ fields.names, isIdentifier name)
    (column : String) (value : Value) :
    s.Binds resource column value ↔ (column, value) ∈ fields := by
  constructor
  · rintro ⟨others, hothers, hplain, hmem⟩
    rwa [hothers.fields_eq h hplain hfields] at hmem
  · exact fun hmem => ⟨fields, h, hfields, hmem⟩

def Hasher.DigestsTo (hasher : Hasher) (sent stored : Value) : Prop :=
  ∃ digest, hasher.hashValue sent = .ok digest ∧ stored = .text digest

/-- What a statement binds to the password column, however it is spelled, is null or the digest of
what the body holds there. -/
def Hasher.Conceals (hasher : Hasher) (s : Statement) (resource field : String) (body : Record) :
    Prop :=
  ∀ column value, s.Binds resource column value → columnKey column = columnKey field →
    value = .null ∨ ∃ sent, (column, sent) ∈ body ∧ hasher.DigestsTo sent value

variable {d : Dispatcher} {request : Request} {w : World} {s : Statement}

/-- A statement that writes is that of a body, stored. -/
theorem writes_of_submitted (hs : .submitted s ∈ (d.dispatch request w).events)
    (hwrite : s.keyword = "INSERT" ∨ s.keyword = "UPDATE") :
    ∃ body stored, request.Offers body ∧
      hashPassword d.settings d.hasher request.resource body = .ok stored ∧
      s.Writes request.resource stored := by
  obtain ⟨kind, verb, id, draft, hsubmits, rfl⟩ := submitted_mem_dispatch_iff.mp hs
  cases Request.drafts_of_draft_eq_ok hsubmits.drafted with
  | select hread =>
      rw [Draft.reading, keyword_selectStatement] at hwrite
      exact absurd hwrite (by decide)
  | insert hid hoffers hstored => exact ⟨_, _, hoffers, hstored, Or.inl rfl⟩
  | update hoffers hstored => exact ⟨_, _, hoffers, hstored, Or.inr ⟨_, rfl⟩⟩
  | delete =>
      rw [keyword_deleteStatement] at hwrite
      exact absurd hwrite (by decide)

/-- Stored fields are those of a body, each stored on its own. -/
theorem mem_iff_of_stores {resource column : String} {body stored : Record} {value : Value}
    (h : List.Forall₂ (d.Stores resource) body stored) :
    (column, value) ∈ stored ↔
      ∃ sent, (column, sent) ∈ body ∧ d.Stores resource (column, sent) (column, value) := by
  induction h with
  | nil => simp
  | @cons field kept body stored hfirst _ ih =>
      rw [List.mem_cons, ih]
      constructor
      · rintro (rfl | ⟨sent, hsent, hstores⟩)
        · obtain ⟨name, sent⟩ := field
          cases hfirst.name_eq
          exact ⟨sent, List.mem_cons_self, hfirst⟩
        · exact ⟨sent, List.mem_cons_of_mem _ hsent, hstores⟩
      · rintro ⟨sent, hsent, hstores⟩
        rcases List.mem_cons.mp hsent with rfl | hsent
        · exact Or.inl (hstores.eq hfirst)
        · exact Or.inr ⟨sent, hsent, hstores⟩

/-- What a submitted write binds are the fields of the body, each stored on its own. -/
theorem binds_submitted_iff {body : Record} (hbody : request.body = .record body)
    (honce : body.NamesOnce) (hs : .submitted s ∈ (d.dispatch request w).events)
    (hwrite : s.keyword = "INSERT" ∨ s.keyword = "UPDATE") (column : String) (value : Value) :
    s.Binds request.resource column value ↔
      ∃ sent, (column, sent) ∈ body ∧ d.Stores request.resource (column, sent) (column, value) := by
  obtain ⟨offered, stored, hoffers, hstored, hwrites⟩ := writes_of_submitted hs hwrite
  obtain rfl := hoffers.eq_of_body_eq hbody
  rw [hwrites.binds_iff (hoffers.isIdentifier_stored hstored)]
  exact mem_iff_of_stores (stores_of_hashPassword honce hstored)

/-- A write to the table of users conceals passwords exactly if every column of the body that is the
password column to a database is spelled as configured, or there is nothing in it to conceal. -/
theorem conceals_submitted_iff {hasher : Hasher} {field : String} {body : Record}
    (hhasher : d.hasher = some hasher)
    (htable : d.settings.identityTable = .text request.resource)
    (hfield : d.settings.passwordField = .text field) (hbody : request.body = .record body)
    (honce : body.NamesOnce) (hs : .submitted s ∈ (d.dispatch request w).events)
    (hwrite : s.keyword = "INSERT" ∨ s.keyword = "UPDATE") :
    hasher.Conceals s request.resource field body ↔
      ∀ column value, (column, value) ∈ body → columnKey column = columnKey field →
        column = field ∨ value = .null ∨ hasher.DigestsTo value value := by
  have hbinds := binds_submitted_iff hbody honce hs hwrite
  have hholds : ∀ column, d.settings.holdsPassword request.resource column ↔ column = field := by
    intro column
    rw [ResourceSettings.holdsPassword_iff, hfield, Value.text.injEq, eq_comm (a := field)]
    exact and_iff_right htable
  constructor
  · intro h column value hmem hkey
    by_cases hcolumn : column = field
    · exact Or.inl hcolumn
    · right
      have hsame : d.Stores request.resource (column, value) (column, value) :=
        .same fun hboth => hcolumn ((hholds column).mp hboth.1)
      have hbound := (hbinds column value).mpr ⟨value, hmem, hsame⟩
      rcases h column value hbound hkey with hnull | ⟨sent, hsent, hdigest⟩
      · exact Or.inl hnull
      · have hvalue : sent = value :=
          (Record.get_eq_of_mem honce hsent).symm.trans (Record.get_eq_of_mem honce hmem)
        exact Or.inr (hvalue ▸ hdigest)
  · intro h column value hbound hkey
    obtain ⟨sent, hsent, hstores⟩ := (hbinds column value).mp hbound
    cases hstores with
    | @digest _ digest _ given hgiven _ _ hdigest =>
        obtain rfl := Option.some.inj (hhasher.symm.trans hgiven)
        exact Or.inr ⟨sent, hsent, digest, hdigest, rfl⟩
    | same hplain =>
        by_cases hnull : value = .null
        · exact Or.inl hnull
        · have hcolumn : column ≠ field := fun hsame => hplain ⟨(hholds column).mpr hsame, hnull⟩
          rcases h column value hsent hkey with hsame | hnull | hdigest
          · exact absurd hsame hcolumn
          · exact Or.inl hnull
          · exact Or.inr ⟨value, hsent, hdigest⟩

def newUser (column : String) : Request where
  method := "POST"
  resource := "users"
  body := .record [(column, .text "secret")]

def pepperedDispatcher (hasher : Hasher) : Dispatcher where
  gate := ⟨none, .text "role"⟩
  hasher := some hasher

def usersWorld : World where
  schema := { tables := ["users"] }

theorem submitted_newUser (hasher : Hasher) (column : String) {stored : Record}
    (hoffers : (newUser column).Offers [(column, .text "secret")])
    (hstored : hashPassword {} (some hasher) "users" [(column, .text "secret")] = .ok stored) :
    .submitted (insertStatement "users" stored) ∈
      ((pepperedDispatcher hasher).dispatch (newUser column) usersWorld).events := by
  have hkind : usersWorld.schema.listing.kind? "users" = some .table := by decide
  have hverb : Kind.table.verb? (normalizeMethod "POST") = some .post := by decide
  exact submitted_insertStatement rfl rfl (by decide) hkind hverb rfl hoffers hstored

theorem conceals_submitted_newUser :
    let hasher : Hasher := ⟨"pepper", by decide⟩
    ∃ s : Statement, .submitted s ∈
        ((pepperedDispatcher hasher).dispatch (newUser "password") usersWorld).events ∧
      hasher.Conceals s "users" "password" [("password", .text "secret")] := by
  intro hasher
  have hs := submitted_newUser hasher "password" ⟨rfl, by decide, rfl⟩ rfl
  refine ⟨_, hs, (conceals_submitted_iff rfl rfl rfl rfl (by decide) hs
    (Or.inl (keyword_insertStatement _ _))).mpr ?_⟩
  intro column value hmem _
  simp only [List.mem_singleton, Prod.mk.injEq] at hmem
  exact Or.inl hmem.1

theorem not_conceals_capitalPassword :
    ¬ ∀ (d : Dispatcher) (request : Request) (w : World) (s : Statement) (hasher : Hasher)
      (field : String) (body : Record), d.hasher = some hasher →
      d.settings.identityTable = .text request.resource →
      d.settings.passwordField = .text field → request.body = .record body → body.NamesOnce →
      .submitted s ∈ (d.dispatch request w).events →
      s.keyword = "INSERT" ∨ s.keyword = "UPDATE" →
      hasher.Conceals s request.resource field body := by
  intro h
  let hasher : Hasher := ⟨"pepper", by decide⟩
  let body : Record := [("PASSWORD", .text "secret")]
  have hs := submitted_newUser hasher "PASSWORD" ⟨rfl, by decide, rfl⟩ rfl
  have hbound : (insertStatement "users" body).Binds "users" "PASSWORD" (.text "secret") :=
    ⟨body, Or.inl rfl, by decide, by simp [body]⟩
  rcases h (pepperedDispatcher hasher) (newUser "PASSWORD") usersWorld _ hasher "password" body rfl
    rfl rfl rfl (by decide) hs (Or.inl (keyword_insertStatement _ _)) "PASSWORD" _ hbound
    (by decide) with hnull | ⟨sent, -, digest, hdigest, heq⟩
  · cases hnull
  · have hlength := hasher.length_hash sent.display
    rw [← (Hasher.hashValue_eq_ok_iff.mp hdigest).2, ← Value.text.inj heq] at hlength
    exact absurd hlength (by decide)

end TableGateway
