import TableGateway.Database.Locator
import TableGateway.Proofs.Text.Find
import TableGateway.Proofs.Text.Percent

/-!
# Reading an address back

The address of a database is written from its parts and taken apart again by an engine. The two
sides code a password differently: a space is written as a plus sign, and a plus sign is read as it
stands.
-/

namespace TableGateway

open Text

/-- A part that can be written as it is: it is not empty and holds no mark of an address. -/
structure IsPlainPart (part : String) : Prop where
  ne_empty : part ≠ ""
  notMem : ∀ m ∈ [':', '/', '@', '?', '[', '%'], m ∉ part.toList

instance (part : String) : Decidable (IsPlainPart part) :=
  decidable_of_iff (part ≠ "" ∧ [':', '/', '@', '?', '[', '%'].all fun m => m ∉ part.toList)
    ⟨fun h => ⟨h.1, by simpa using h.2⟩, fun h => ⟨h.ne_empty, by simpa using h.notMem⟩⟩

structure Address.IsPlain (a : Address) : Prop where
  user : IsPlainPart a.user
  password : a.password ≠ ""
  host : IsPlainPart a.host
  port : IsPlainPart a.port
  database : IsPlainPart a.database

/-- The environment gives a part: in the variable of the service, or, where that one is unset or
empty, in the variable of the database's own tools. -/
def AddressPart.IsGiven (part : AddressPart) (env : Environment) (value : String) : Prop :=
  env.given? part.name = some value ∨
    env.given? part.name = none ∧ env.get? part.toolName = some value

structure Address.IsGiven (a : Address) (env : Environment) : Prop where
  user : AddressPart.user.IsGiven env a.user
  password : AddressPart.password.IsGiven env a.password
  host : AddressPart.host.IsGiven env a.host
  port : AddressPart.port.IsGiven env a.port
  database : AddressPart.database.IsGiven env a.database

def Address.variables (a : Address) : Environment :=
  [("DB_USER", a.user), ("DB_PASSWORD", a.password), ("DB_NAME", a.database), ("DB_HOST", a.host),
    ("DB_PORT", a.port)]

def Address.deployment (a : Address) : Deployment where
  processVariables := a.variables

namespace Locator

def Written.address? (parts : Written) : Option Address := do
  let login ← parts.login
  let password ← login.password
  let host ← parts.host
  let port ← parts.port
  let database ← parts.database
  return {
    user := decoded login.user
    password := decoded password
    host := String.ofList host
    port := String.ofList port
    database := decoded database }

/-- What an engine takes for the parts of an address. -/
def readBack? (address : String) : Option Address :=
  (Written.ofText address).toOption.bind Written.address?

end Locator

/-- An engine takes the address of the deployment for the one that was meant. -/
def Deployment.ReadsBack (d : Deployment) (a : Address) : Prop :=
  ∃ address, d.address.value = .ok address ∧ Locator.readBack? address = some a

variable {text part rest : List Char} {a : Address} {c m : Char}

theorem IsPlainPart.ne_of_mem {part : String} (h : IsPlainPart part) (hc : c ∈ part.toList)
    (hm : m ∈ [':', '/', '@', '?', '[', '%']) : c ≠ m :=
  ne_of_mem_of_not_mem hc (h.notMem m hm)

/-! ## Taking apart -/

namespace Locator

theorem takeLogin_append {user password : List Char} (huser : ∀ c ∈ user, c ≠ ':' ∧ c ≠ '/')
    (hpassword : '@' ∉ password) (rest : List Char) :
    takeLogin (user ++ ':' :: (password ++ '@' :: rest)) = (some ⟨user, some password⟩, rest) := by
  have hplain : (user ++ ':' :: (password ++ '@' :: rest)).span (fun c => c ≠ ':' && c ≠ '/') =
      (user, ':' :: (password ++ '@' :: rest)) :=
    span_append (by simpa using huser) (by simp)
  have hcoded : (password ++ '@' :: rest).span (· ≠ '@') = (password, '@' :: rest) :=
    span_append (by simpa using fun c hc => ne_of_mem_of_not_mem hc hpassword) (by simp)
  rw [takeLogin, hplain]
  simp only [hcoded]

/-- A host without brackets ends at the port. -/
theorem takeHost_append {host : List Char} (hhost : ∀ c ∈ host, c ≠ ':' ∧ c ≠ '/' ∧ c ≠ '?')
    (hne : host ≠ []) (hbracket : '[' ∉ host) (rest : List Char) :
    takeHost (host ++ ':' :: rest) = (some host, ':' :: rest) := by
  have hbare : (host ++ ':' :: rest).span (fun c => c ≠ ':' && c ≠ '/' && c ≠ '?') =
      (host, ':' :: rest) :=
    span_append (by simpa [and_assoc] using hhost) (by simp)
  cases host with
  | nil => exact absurd rfl hne
  | cons c host =>
      have hc : c ≠ '[' := Ne.symm (not_or.mp (mt List.mem_cons.mpr hbracket)).1
      rw [takeHost, hbare]
      simp [hc]

theorem takePart_cons {mark : Char} {ends : Char → Bool} (hpart : ∀ c ∈ part, ends c = false)
    (hrest : ∀ c ∈ rest.head?, ends c) :
    takePart mark ends (mark :: (part ++ rest)) = (some part, rest) := by
  have hspan : (part ++ rest).span (fun c => !ends c) = (part, rest) :=
    span_append (by simpa using hpart) (by simpa using hrest)
  rw [takePart, if_pos rfl, hspan]

theorem takePart_last {mark : Char} {ends : Char → Bool} (hpart : ∀ c ∈ part, ends c = false) :
    takePart mark ends (mark :: part) = (some part, []) := by
  have hall : takePart mark ends (mark :: (part ++ [])) = (some part, []) :=
    takePart_cons hpart (by simp)
  rwa [List.append_nil] at hall

/-- The text of an address, part by part. -/
theorem toList_text (a : Address) :
    a.text.toList = "postgresql+psycopg".toList ++ (schemeMark ++ (a.user.toList ++
      ':' :: (Percent.encodeForm a.password.toList ++
        '@' :: (a.host.toList ++ ':' :: (a.port.toList ++ '/' :: a.database.toList))))) := by
  unfold Address.text
  simp [schemeMark]

theorem cut?_text (a : Address) :
    cut? schemeMark a.text.toList = some ("postgresql+psycopg".toList,
      a.user.toList ++ ':' :: (Percent.encodeForm a.password.toList ++
        '@' :: (a.host.toList ++ ':' :: (a.port.toList ++ '/' :: a.database.toList)))) := by
  rw [toList_text, schemeMark, show "://".toList = ':' :: ['/', '/'] from rfl,
    cut?_append (by decide), cut?_self_append]
  rfl

/-- The parts of an address are found where they were written. -/
theorem ofText_text (ha : a.IsPlain) :
    Written.ofText a.text = .ok {
      scheme := "postgresql+psycopg".toList
      login := some ⟨a.user.toList, some (Percent.encodeForm a.password.toList)⟩
      host := some a.host.toList
      port := some a.port.toList
      database := some a.database.toList
      options := none } := by
  -- Each character is looked up in the table of word characters.
  have hscheme : ("postgresql+psycopg".toList.isEmpty ||
      !"postgresql+psycopg".toList.all isSchemeChar) = false := by
    decide +kernel
  have huser : ∀ c ∈ a.user.toList, c ≠ ':' ∧ c ≠ '/' := fun c hc =>
    ⟨ha.user.ne_of_mem hc (by decide), ha.user.ne_of_mem hc (by decide)⟩
  have hpassword : '@' ∉ Percent.encodeForm a.password.toList :=
    Percent.notMem_encodeForm (by decide) (by decide) (by decide) _
  have hhost : ∀ c ∈ a.host.toList, c ≠ ':' ∧ c ≠ '/' ∧ c ≠ '?' := fun c hc =>
    ⟨ha.host.ne_of_mem hc (by decide), ha.host.ne_of_mem hc (by decide),
      ha.host.ne_of_mem hc (by decide)⟩
  have hport : takePart ':' (fun c => c = '/' || c = '?')
      (':' :: (a.port.toList ++ '/' :: a.database.toList)) =
      (some a.port.toList, '/' :: a.database.toList) := by
    refine takePart_cons (fun c hc => ?_) (by simp)
    simp [ha.port.ne_of_mem hc (m := '/') (by decide),
      ha.port.ne_of_mem hc (m := '?') (by decide)]
  have hdatabase : takePart '/' (· = '?') ('/' :: a.database.toList) =
      (some a.database.toList, []) :=
    takePart_last fun c hc => decide_eq_false (ha.database.ne_of_mem hc (by decide))
  rw [Written.ofText, cut?_text]
  simp only [hscheme, takeLogin_append huser hpassword,
    takeHost_append hhost (by simpa using ha.host.ne_empty) (ha.host.notMem _ (by decide)),
    hport, hdatabase]
  rfl

theorem decoded_of_notMem {part : String} (h : '%' ∉ part.toList) : decoded part.toList = part := by
  rw [decoded, Percent.decode_of_notMem h, String.ofList_toList]

theorem decoded_encodeForm (text : List Char) :
    decoded (Percent.encodeForm text) = String.ofList (text.map Percent.plusForSpace) := by
  rw [decoded, Percent.decode_encodeForm]

/-- Only the password may come back as another one: with a plus sign for each space. -/
theorem readBack?_text (ha : a.IsPlain) :
    readBack? a.text = some { a with
      password := String.ofList (a.password.toList.map Percent.plusForSpace) } := by
  have huser := decoded_of_notMem (ha.user.notMem '%' (by decide))
  have hdatabase := decoded_of_notMem (ha.database.notMem '%' (by decide))
  simp [readBack?, ofText_text ha, Except.toOption, Written.address?, huser, hdatabase,
    decoded_encodeForm]

theorem readBack?_text_eq_some_iff (ha : a.IsPlain) :
    readBack? a.text = some a ↔ ' ' ∉ a.password.toList := by
  rw [readBack?_text ha, ← Percent.map_plusForSpace_eq_self_iff, Option.some.injEq]
  constructor
  · intro h
    rw [← String.ofList_inj, String.ofList_toList]
    exact congrArg Address.password h
  · intro h
    rw [h, String.ofList_toList]

/-- Where the port is a number, an engine reads all of the address. -/
theorem read_text (ha : a.IsPlain) {port : Int} (hport : Number.readInt a.port = .ok port) :
    read a.text = .ok {
      scheme := "postgresql+psycopg"
      user := some a.user
      password := some (String.ofList (a.password.toList.map Percent.plusForSpace))
      host := some a.host
      port := some port
      database := some a.database } := by
  have huser := decoded_of_notMem (ha.user.notMem '%' (by decide))
  have hdatabase := decoded_of_notMem (ha.database.notMem '%' (by decide))
  have hnumber : readPort a.port.toList = .ok port := by
    have hempty : a.port.toList.isEmpty = false := by simpa using ha.port.ne_empty
    rw [readPort, hempty, String.ofList_toList, hport]
    rfl
  rw [read, ofText_text ha]
  simp [Except.bind, ofWritten, hnumber, huser, hdatabase, decoded_encodeForm]

end Locator

/-! ## Putting together -/

theorem AddressPart.resolve_of_isGiven {part : AddressPart} {env : Environment} {value : String}
    (h : part.IsGiven env value) (hne : value ≠ "") (file : Record) :
    part.resolve env file = value := by
  have hfound : part.inEnvironment env = some value := by
    rcases h with h | ⟨hnone, htool⟩
    · rw [inEnvironment, h]
    · rw [inEnvironment, hnone, htool]
  have hempty : value.isEmpty = false := by simpa using hne
  rw [resolve, hfound]
  simp [Option.filter, hempty]

namespace Deployment

variable {env : Environment}

/-- Nothing but the environment counts once it gives every part. -/
theorem value_addressIn (d : Deployment) (hurl : env.given? "DATABASE_URL" = none)
    (hgiven : a.IsGiven env) (ha : a.IsPlain) : (d.addressIn env).value = a.text := by
  simp only [addressIn, hurl, AddressPart.resolve_of_isGiven hgiven.user ha.user.ne_empty,
    AddressPart.resolve_of_isGiven hgiven.password ha.password,
    AddressPart.resolve_of_isGiven hgiven.host ha.host.ne_empty,
    AddressPart.resolve_of_isGiven hgiven.port ha.port.ne_empty,
    AddressPart.resolve_of_isGiven hgiven.database ha.database.ne_empty]

theorem value_address {d : Deployment} (henv : d.environment.value = .ok env) :
    d.address.value = .ok (d.addressIn env).value := by
  rw [address, Logged.andThen, henv]

theorem readsBack_iff_readBack? {d : Deployment} (henv : d.environment.value = .ok env)
    (hurl : env.given? "DATABASE_URL" = none) (hgiven : a.IsGiven env) (ha : a.IsPlain) :
    d.ReadsBack a ↔ Locator.readBack? a.text = some a := by
  rw [ReadsBack, value_address henv, value_addressIn d hurl hgiven ha]
  simp

/-- **Reading an address back.** An address that is put together from the environment comes back as
it was meant exactly if there is no space in its password. -/
theorem readsBack_iff {d : Deployment} (henv : d.environment.value = .ok env)
    (hurl : env.given? "DATABASE_URL" = none) (hgiven : a.IsGiven env) (ha : a.IsPlain) :
    d.ReadsBack a ↔ ' ' ∉ a.password.toList :=
  (readsBack_iff_readBack? henv hurl hgiven ha).trans (Locator.readBack?_text_eq_some_iff ha)

end Deployment

theorem AddressPart.isGiven_of_get? {part : AddressPart} {env : Environment} {value : String}
    (h : env.get? part.name = some value) (hne : value ≠ "") : part.IsGiven env value := by
  left
  rw [Environment.given?, h]
  simpa using hne

theorem Address.isGiven_variables (ha : a.IsPlain) : a.IsGiven a.variables where
  user := AddressPart.isGiven_of_get? rfl ha.user.ne_empty
  password := AddressPart.isGiven_of_get? rfl ha.password
  host := AddressPart.isGiven_of_get? rfl ha.host.ne_empty
  port := AddressPart.isGiven_of_get? rfl ha.port.ne_empty
  database := AddressPart.isGiven_of_get? rfl ha.database.ne_empty

def shopAddress (password : String) : Address :=
  ⟨"app", password, "db.example", "5432", "shop"⟩

theorem isPlain_shopAddress {password : String} (h : password ≠ "") :
    (shopAddress password).IsPlain where
  user := (by decide : IsPlainPart "app")
  password := h
  host := (by decide : IsPlainPart "db.example")
  port := (by decide : IsPlainPart "5432")
  database := (by decide : IsPlainPart "shop")

namespace Deployment

theorem readsBack_iff_markedPassword :
    (shopAddress "p@ss:w/rd?%+é").deployment.environment.value =
        .ok (shopAddress "p@ss:w/rd?%+é").variables ∧
      (shopAddress "p@ss:w/rd?%+é").variables.given? "DATABASE_URL" = none ∧
      (shopAddress "p@ss:w/rd?%+é").IsGiven (shopAddress "p@ss:w/rd?%+é").variables ∧
      (shopAddress "p@ss:w/rd?%+é").IsPlain ∧
      ((shopAddress "p@ss:w/rd?%+é").deployment.ReadsBack (shopAddress "p@ss:w/rd?%+é") ↔
        ' ' ∉ "p@ss:w/rd?%+é".toList) := by
  have ha : (shopAddress "p@ss:w/rd?%+é").IsPlain := isPlain_shopAddress (by decide)
  have hgiven := Address.isGiven_variables ha
  exact ⟨rfl, rfl, hgiven, ha, readsBack_iff rfl rfl hgiven ha⟩

/-- A space in a password comes back as a plus sign. -/
theorem not_readsBack_spacedPassword :
    ¬ ∀ (d : Deployment) (env : Environment) (a : Address), d.environment.value = .ok env →
      env.given? "DATABASE_URL" = none → a.IsGiven env → a.IsPlain → d.ReadsBack a := by
  intro hall
  have ha : (shopAddress "a b").IsPlain := isPlain_shopAddress (by decide)
  have hgiven := Address.isGiven_variables ha
  have henv : (shopAddress "a b").deployment.environment.value =
      .ok (shopAddress "a b").variables := rfl
  have hback := hall (shopAddress "a b").deployment _ _ henv rfl hgiven ha
  have hread := (readsBack_iff_readBack? henv rfl hgiven ha).mp hback
  exact (Locator.readBack?_text_eq_some_iff ha).mp hread (by decide)

end Deployment

end TableGateway
