import TableGateway.Database.Engine
import TableGateway.Proofs.Text.Mark

/-!
# What the log shows of an address

The address of a new engine is logged with three stars in the place of its password. The stars are
put behind a user only, so an address that names a password and no user is logged as it is.
-/

namespace TableGateway

open Text

def loginAddress (scheme user password rest : String) : String :=
  scheme ++ "://" ++ user ++ ":" ++ password ++ "@" ++ rest

namespace Engine

structure SettingsAgree (env env' : Environment) : Prop where
  echo : readVariableInt env "SQLALCHEMY_ECHO" 0 = readVariableInt env' "SQLALCHEMY_ECHO" 0
  pool : readPool env = readPool env'

/-- The log of a new engine is the same whatever the password in its address is. -/
def HidesPassword (scheme user rest : String) : Prop :=
  ∀ env env' password password', SettingsAgree env env' →
    '@' ∉ password.toList → '@' ∉ password'.toList →
    (create env (loginAddress scheme user password rest)).records =
      (create env' (loginAddress scheme user password' rest)).records

end Engine

variable {text front back scheme user password rest after : List Char} {c : Char}

/-! ## Masking -/

theorem maskPassword_of_takeLogin? (h : takeLogin? text = some (user, after)) :
    maskPassword text = schemeMark ++ user ++ ":***@".toList ++ maskPassword after := by
  cases text with
  | nil => cases h
  | cons c rest =>
      rw [maskPassword]
      split <;> simp_all

theorem maskPassword_cons (h : takeLogin? (c :: rest) = none) :
    maskPassword (c :: rest) = c :: maskPassword rest := by
  rw [maskPassword]
  split <;> simp_all

theorem takeLogin?_of_ne (hc : c ≠ ':') (rest : List Char) : takeLogin? (c :: rest) = none := by
  have hfront : dropFront? schemeMark (c :: rest) = none := if_neg hc.symm
  rw [takeLogin?, hfront]
  rfl

/-- No password begins in a text without a colon. -/
theorem maskPassword_append (h : ':' ∉ front) (back : List Char) :
    maskPassword (front ++ back) = front ++ maskPassword back := by
  induction front with
  | nil => rfl
  | cons c front ih =>
      obtain ⟨hc, hfront⟩ := not_or.mp (mt List.mem_cons.mpr h)
      rw [List.cons_append, maskPassword_cons (takeLogin?_of_ne (Ne.symm hc) _), ih hfront,
        List.cons_append]

/-- The login at the front of an address is found as long as the password holds no at sign. -/
theorem takeLogin?_login (huser : ∀ c ∈ user, isUserChar c) (hne : user ≠ [])
    (hpassword : '@' ∉ password) (rest : List Char) :
    takeLogin? (schemeMark ++ (user ++ ':' :: (password ++ '@' :: rest))) = some (user, rest) := by
  have htake : (user ++ ':' :: (password ++ '@' :: rest)).takeWhile isUserChar = user := by
    rw [List.takeWhile_append_of_pos huser]
    simp [isUserChar]
  have hdrop : (user ++ ':' :: (password ++ '@' :: rest)).dropWhile isUserChar =
      ':' :: (password ++ '@' :: rest) := by
    rw [List.dropWhile_append_of_pos huser]
    simp [isUserChar]
  have hstop : (password ++ '@' :: rest).dropWhile (· ≠ '@') = '@' :: rest := by
    rw [List.dropWhile_append_of_pos (by simpa using fun c hc => ne_of_mem_of_not_mem hc hpassword)]
    simp
  have hempty : user.isEmpty = false := by simpa using hne
  rw [takeLogin?, dropFront?_append]
  simp only [Option.bind_eq_bind, Option.bind_some, htake, hdrop, hstop, hempty]
  rfl

theorem maskPassword_login (hscheme : ':' ∉ scheme) (huser : ∀ c ∈ user, isUserChar c)
    (hne : user ≠ []) (hpassword : '@' ∉ password) (rest : List Char) :
    maskPassword (scheme ++ (schemeMark ++ (user ++ ':' :: (password ++ '@' :: rest)))) =
      scheme ++ (schemeMark ++ user ++ ":***@".toList ++ maskPassword rest) := by
  rw [maskPassword_append hscheme,
    maskPassword_of_takeLogin? (takeLogin?_login huser hne hpassword rest)]

theorem takeLogin?_anonymous (rest : List Char) :
    takeLogin? (schemeMark ++ ':' :: rest) = none := by
  rw [takeLogin?, dropFront?_append]
  rfl

/-- Without a user the password stays, at least if it holds no colon and no slash. -/
theorem maskPassword_anonymous (hscheme : ':' ∉ scheme) (hcolon : ':' ∉ password)
    (hslash : '/' ∉ password) (rest : List Char) :
    maskPassword (scheme ++ (schemeMark ++ ':' :: (password ++ '@' :: rest))) =
      scheme ++ (schemeMark ++ ':' :: (password ++ '@' :: maskPassword rest)) := by
  have hrest : takeLogin? (':' :: (password ++ '@' :: rest)) = none := by
    have hfront : dropFront? schemeMark (':' :: (password ++ '@' :: rest)) = none := by
      rw [dropFront?_eq_none_iff]
      rintro ⟨after, h⟩
      have hhead : (password ++ '@' :: rest).head? = some '/' := by
        rw [← (List.cons.inj h).2]
        rfl
      cases password with
      | nil => cases hhead
      | cons c password =>
          cases hhead
          exact hslash List.mem_cons_self
    rw [takeLogin?, hfront]
    rfl
  have hat : ':' ∉ password ++ ['@'] := by simpa using hcolon
  have hslashes : maskPassword ("//".toList ++ ':' :: (password ++ '@' :: rest)) =
      "//".toList ++ maskPassword (':' :: (password ++ '@' :: rest)) :=
    maskPassword_append (by decide) _
  have htail : maskPassword ((password ++ ['@']) ++ rest) =
      (password ++ ['@']) ++ maskPassword rest :=
    maskPassword_append hat rest
  rw [maskPassword_append hscheme]
  congr 1
  -- Both colons are passed one by one: at neither does a login with a user begin.
  calc maskPassword (schemeMark ++ ':' :: (password ++ '@' :: rest))
      = ':' :: maskPassword ("//".toList ++ ':' :: (password ++ '@' :: rest)) :=
        maskPassword_cons (takeLogin?_anonymous _)
    _ = ':' :: ("//".toList ++ ':' :: maskPassword ((password ++ ['@']) ++ rest)) := by
        rw [hslashes, maskPassword_cons hrest, List.append_cons password]
    _ = schemeMark ++ ':' :: (password ++ '@' :: maskPassword rest) := by
        rw [htail, ← List.append_cons]
        rfl

/-! ## Logging -/

theorem toList_loginAddress (scheme user password rest : String) :
    (loginAddress scheme user password rest).toList = scheme.toList ++
      (schemeMark ++ (user.toList ++ ':' :: (password.toList ++ '@' :: rest.toList))) := by
  simp [loginAddress, schemeMark]

namespace Engine

theorem shown_eq_of_creationNotice {shown shown' : String} {echo : Bool} {pool : Option Pool}
    (h : creationNotice shown echo pool = creationNotice shown' echo pool) : shown = shown' := by
  have hmessage := congrArg LogRecord.message h
  simp only [creationNotice, String.append_left_inj, String.append_right_inj] at hmessage
  exact hmessage

variable {scheme user rest : String}

/-- The scheme alone decides whether an address names an embedded database. -/
theorem isEmbedded_eq_false (h : ¬ "sqlite".toList <+: scheme.toList)
    (user password rest : String) :
    isEmbedded (loginAddress scheme user password rest) = false := by
  rw [isEmbedded, Option.isSome_eq_false_iff, Option.isNone_iff_eq_none, dropFront?_eq_none_iff,
    toList_loginAddress]
  intro hstarts
  by_cases hscheme : scheme.toList = []
  · rw [hscheme] at hstarts
    obtain ⟨after, hafter⟩ := hstarts
    have hhead := congrArg List.head? hafter
    exact absurd (Option.some.inj hhead : 's' = ':') (by decide)
  · exact h (prefix_of_prefix_cons (by decide) hscheme hstarts)

/-- The log of a new engine for a server shows the masked address and the settings. -/
theorem records_create {env : Environment} {address : String} {echo : Int} {pool : Pool}
    (haddress : isEmbedded address = false)
    (hecho : readVariableInt env "SQLALCHEMY_ECHO" 0 = .ok echo) (hpool : readPool env = .ok pool) :
    (create env address).records =
      [creationNotice (maskedAddress address) (echo != 0) (some pool)] := by
  simp [create, hecho, haddress, createPooled, hpool]

/-- Of the address of a server only its masked form is logged. -/
theorem records_create_congr {env env' : Environment} {address address' : String}
    (haddress : isEmbedded address = false) (haddress' : isEmbedded address' = false)
    (hagree : SettingsAgree env env') (hmasked : maskedAddress address = maskedAddress address') :
    (create env address).records = (create env' address').records := by
  cases hecho : readVariableInt env' "SQLALCHEMY_ECHO" 0 with
  | error e => simp [create, hagree.echo, hecho]
  | ok echo =>
      cases hpool : readPool env' with
      | error e =>
          simp [create, hagree.echo, hecho, haddress, haddress', createPooled, hagree.pool, hpool]
      | ok pool =>
          rw [records_create haddress (hagree.echo.trans hecho) (hagree.pool.trans hpool),
            records_create haddress' hecho hpool, hmasked]

theorem maskedAddress_login (hscheme : ':' ∉ scheme.toList)
    (huser : ∀ c ∈ user.toList, isUserChar c) (hne : user ≠ "") {password : String}
    (hpassword : '@' ∉ password.toList) :
    maskedAddress (loginAddress scheme user password rest) =
      String.ofList (scheme.toList ++
        (schemeMark ++ user.toList ++ ":***@".toList ++ maskPassword rest.toList)) := by
  rw [maskedAddress, toList_loginAddress,
    maskPassword_login hscheme huser (by simpa using hne) hpassword]

theorem maskedAddress_anonymous (hscheme : ':' ∉ scheme.toList) {password : String}
    (hcolon : ':' ∉ password.toList) (hslash : '/' ∉ password.toList) :
    maskedAddress (loginAddress scheme "" password rest) =
      String.ofList (scheme.toList ++
        (schemeMark ++ ':' :: (password.toList ++ '@' :: maskPassword rest.toList))) := by
  rw [maskedAddress, toList_loginAddress]
  exact congrArg String.ofList (maskPassword_anonymous hscheme hcolon hslash _)

theorem hidesPassword_of_ne (hscheme : ':' ∉ scheme.toList)
    (hserver : ¬ "sqlite".toList <+: scheme.toList) (huser : ∀ c ∈ user.toList, isUserChar c)
    (hne : user ≠ "") : HidesPassword scheme user rest := by
  intro env env' password password' hagree hpassword hpassword'
  refine records_create_congr (isEmbedded_eq_false hserver _ _ _)
    (isEmbedded_eq_false hserver _ _ _) hagree ?_
  rw [maskedAddress_login hscheme huser hne hpassword,
    maskedAddress_login hscheme huser hne hpassword']

/-- Without a user in front of it the password stays in the log. -/
theorem not_hidesPassword_anonymous (hscheme : ':' ∉ scheme.toList)
    (hserver : ¬ "sqlite".toList <+: scheme.toList) : ¬ HidesPassword scheme "" rest := by
  intro hhides
  have hlog := hhides [] [] "a" "b" ⟨rfl, rfl⟩ (by decide) (by decide)
  rw [records_create (isEmbedded_eq_false hserver _ _ _) rfl rfl,
    records_create (isEmbedded_eq_false hserver _ _ _) rfl rfl] at hlog
  have hshown := shown_eq_of_creationNotice (List.cons.inj hlog).1
  rw [maskedAddress_anonymous hscheme (by decide) (by decide),
    maskedAddress_anonymous hscheme (by decide) (by decide), String.ofList_inj] at hshown
  have hmarked := List.append_cancel_left (List.append_cancel_left hshown)
  exact absurd (List.cons.inj (List.cons.inj hmarked).2).1 (by decide)

/-- **What the log shows of a password.** For an address of a server, the log of a new engine keeps
the password to itself exactly if the address names a user. -/
theorem hidesPassword_iff (hscheme : ':' ∉ scheme.toList)
    (hserver : ¬ "sqlite".toList <+: scheme.toList)
    (huser : ∀ c ∈ user.toList, c ≠ ':' ∧ c ≠ '/' ∧ c ≠ '@') :
    HidesPassword scheme user rest ↔ user ≠ "" := by
  constructor
  · rintro hhides rfl
    exact not_hidesPassword_anonymous hscheme hserver hhides
  · refine hidesPassword_of_ne hscheme hserver fun c hc => ?_
    simpa [isUserChar, and_assoc] using huser c hc

theorem hidesPassword_iff_someUser :
    ':' ∉ "postgresql+psycopg".toList ∧ ¬ "sqlite".toList <+: "postgresql+psycopg".toList ∧
      (∀ c ∈ "app".toList, c ≠ ':' ∧ c ≠ '/' ∧ c ≠ '@') ∧
      (HidesPassword "postgresql+psycopg" "app" "db.example/shop?p=u:v@w" ↔ "app" ≠ "") := by
  have hscheme : ':' ∉ "postgresql+psycopg".toList := by decide
  have hserver : ¬ "sqlite".toList <+: "postgresql+psycopg".toList := by decide
  have huser : ∀ c ∈ "app".toList, c ≠ ':' ∧ c ≠ '/' ∧ c ≠ '@' := by simp
  exact ⟨hscheme, hserver, huser, hidesPassword_iff hscheme hserver huser⟩

/-- An address may name a password and leave the user to the server. -/
theorem not_hidesPassword_noUser :
    ¬ ∀ scheme user rest : String, ':' ∉ scheme.toList → ¬ "sqlite".toList <+: scheme.toList →
      (∀ c ∈ user.toList, c ≠ ':' ∧ c ≠ '/' ∧ c ≠ '@') → HidesPassword scheme user rest := by
  intro hall
  have hscheme : ':' ∉ "postgresql+psycopg".toList := by decide
  have hserver : ¬ "sqlite".toList <+: "postgresql+psycopg".toList := by decide
  exact not_hidesPassword_anonymous hscheme hserver
    (hall "postgresql+psycopg" "" "db.example/shop" hscheme hserver (by simp))

end Engine

end TableGateway
