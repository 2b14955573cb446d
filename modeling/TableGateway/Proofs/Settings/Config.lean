import Mathlib.Data.List.Induction
import Mathlib.Data.List.Nodup
import TableGateway.Proofs.Record
import TableGateway.Proofs.Settings.Environment
import TableGateway.Settings.Config

/-!
# Where settings come from

Every setting of a configuration comes from the first source that gives it: the caller, the
environment, a file, the defaults. Which of them may give it depends on the setting.
-/

namespace TableGateway

/-! ## Layers -/

namespace Record

section FilterMap

variable {α : Type} {items : List α} {key : α → String} {value? : α → Option Value}

def fieldOf? (key : α → String) (value? : α → Option Value) (item : α) :
    Option (String × Value) :=
  (value? item).map fun value => (key item, value)

theorem mem_filterMap_iff {field : String × Value} :
    field ∈ items.filterMap (fieldOf? key value?) ↔
      ∃ item ∈ items, value? item = some field.2 ∧ key item = field.1 := by
  simp only [List.mem_filterMap, fieldOf?, Option.map_eq_some_iff, Prod.ext_iff]
  constructor
  · rintro ⟨item, hitem, value, hvalue, hname, rfl⟩
    exact ⟨item, hitem, hvalue, hname⟩
  · rintro ⟨item, hitem, hvalue, hname⟩
    exact ⟨item, hitem, _, hvalue, hname, rfl⟩

theorem exists_of_mem_names_filterMap {name : String}
    (h : name ∈ Record.names (items.filterMap (fieldOf? key value?))) :
    ∃ item ∈ items, (value? item).isSome ∧ key item = name := by
  obtain ⟨field, hfield, rfl⟩ := List.mem_map.mp h
  obtain ⟨item, hitem, hvalue, hname⟩ := mem_filterMap_iff.mp hfield
  exact ⟨item, hitem, Option.isSome_of_eq_some hvalue, hname⟩

theorem mem_names_filterMap {name : String}
    (h : name ∈ Record.names (items.filterMap (fieldOf? key value?))) : name ∈ items.map key := by
  obtain ⟨item, hitem, -, rfl⟩ := exists_of_mem_names_filterMap h
  exact List.mem_map_of_mem hitem

theorem namesOnce_filterMap (h : (items.map key).Nodup) :
    NamesOnce (items.filterMap (fieldOf? key value?)) := by
  induction items with
  | nil => exact List.nodup_nil
  | cons item items ih =>
      obtain ⟨hfirst, hrest⟩ := List.nodup_cons.mp h
      rw [List.filterMap_cons]
      cases hvalue : value? item with
      | none =>
          simp only [fieldOf?, hvalue, Option.map_none]
          exact ih hrest
      | some value =>
          simp only [fieldOf?, hvalue, Option.map_some]
          exact List.nodup_cons.mpr ⟨fun hmem => hfirst (mem_names_filterMap hmem), ih hrest⟩

/-- An item with a value gives the field under its own name. -/
theorem get?_filterMap (h : (items.map key).Nodup) {item : α} (hitem : item ∈ items) :
    Record.get? (items.filterMap (fieldOf? key value?)) (key item) = value? item := by
  cases hvalue : value? item with
  | none =>
      apply get?_of_notMem
      intro hmem
      obtain ⟨other, hother, hsome, hname⟩ := exists_of_mem_names_filterMap hmem
      obtain rfl := List.inj_on_of_nodup_map h hother hitem hname
      rw [hvalue] at hsome
      cases hsome
  | some value =>
      have hfield : (key item, value) ∈ items.filterMap (fieldOf? key value?) :=
        mem_filterMap_iff.mpr ⟨item, hitem, hvalue, rfl⟩
      have hname : key item ∈ names (items.filterMap (fieldOf? key value?)) :=
        List.mem_map_of_mem hfield
      rw [get?_of_mem hname, get_eq_of_mem (namesOnce_filterMap h) hfield]

end FilterMap

end Record

namespace Config

/-- A layer comes before all layers under it. -/
theorem get?_layered {layers : List Record} (h : ∀ layer ∈ layers, layer.NamesOnce)
    (name : String) :
    (layered layers).get? name = layers.reverse.findSome? fun layer => layer.get? name := by
  induction layers using List.reverseRecOn with
  | nil => rfl
  | append_singleton layers layer ih =>
      obtain ⟨hlayers, hlayer⟩ := List.forall_mem_append.mp h
      have hstep : layered (layers ++ [layer]) = (layered layers).putAll layer :=
        List.foldl_append
      rw [hstep, Record.get?_putAll (hlayer layer (List.mem_singleton_self _)), ih hlayers,
        List.reverse_concat, List.findSome?_cons]
      cases layer.get? name <;> rfl

/-! ## Sources -/

def secret? : Value → Option Value
  | .text secret => if secret.isEmpty then none else some (.text secret)
  | .halved secret => some (.halved secret)
  | _ => none

def variableValue? (env : Environment) (name : String) : Option Value :=
  (env.given? name).map Value.text

theorem fileLayer_eq (file : Record) :
    fileLayer file =
      fileNames.filterMap (Record.fieldOf? Prod.snd fun names => file.get? names.1) :=
  rfl

/-- The secrets are looked up one by one, each under its own name in the file. -/
theorem secretLayer_eq (file : Record) :
    secretLayer file =
      secretNames.filterMap (Record.fieldOf? Prod.snd fun names => secret? (file.get names.1)) := by
  unfold secretLayer
  congr 1
  funext names
  dsimp only [Record.fieldOf?]
  cases file.get names.1 with
  | text secret =>
      dsimp only [secret?]
      split <;> rfl
  | _ => rfl

theorem variableLayer_eq (env : Environment) :
    variableLayer env =
      variableNames.filterMap (Record.fieldOf? id (variableValue? env)) := by
  unfold variableLayer
  congr 1
  funext name
  rw [Record.fieldOf?, variableValue?, Option.map_map]
  rfl

/-! ## What is chosen -/

/-- The value of a secret: what the caller sets, else the variable, else what the file of secrets
holds. -/
def secretSetting (env : Environment) (secrets overrides : Record) (setting name : String) :
    Value :=
  ((overrides.get? setting).or ((variableValue? env setting).or (secret? (secrets.get name)))).getD
    .null

/-- The value of any other setting: what the caller sets, else what the file of settings holds, else
the default. -/
def plainSetting (app overrides : Record) (setting name : String) : Value :=
  ((overrides.get? setting).or (app.get? name)).getD (defaults.get setting)

section Chosen

variable {env : Environment} {app secrets overrides : Record} {name setting : String}

def chosen (env : Environment) (app secrets overrides : Record) : Record :=
  layered [defaults, fileLayer app, secretLayer secrets, variableLayer env, overrides]

/-- The layer on top that has the name counts. -/
theorem get?_chosen (honce : overrides.NamesOnce) :
    (chosen env app secrets overrides).get? name =
      (overrides.get? name).or (((variableLayer env).get? name).or
        (((secretLayer secrets).get? name).or
          (((fileLayer app).get? name).or (defaults.get? name)))) := by
  have hlayers : ∀ layer ∈ [defaults, fileLayer app, secretLayer secrets, variableLayer env,
      overrides], layer.NamesOnce := by
    simp only [List.forall_mem_cons, List.not_mem_nil, false_imp_iff, implies_true, and_true]
    refine ⟨by decide, ?_, ?_, ?_, honce⟩
    · rw [fileLayer_eq]
      exact Record.namesOnce_filterMap (by decide)
    · rw [secretLayer_eq]
      exact Record.namesOnce_filterMap (by decide)
    · rw [variableLayer_eq]
      exact Record.namesOnce_filterMap (by decide)
  rw [chosen, get?_layered hlayers]
  simp only [List.reverse_cons, List.reverse_nil, List.nil_append, List.cons_append,
    List.findSome?_cons, List.findSome?_nil]
  cases overrides.get? name <;> cases (variableLayer env).get? name <;>
    cases (secretLayer secrets).get? name <;> cases (fileLayer app).get? name <;>
    cases defaults.get? name <;> rfl

theorem get?_fileLayer (h : (name, setting) ∈ fileNames) :
    (fileLayer app).get? setting = app.get? name := by
  rw [fileLayer_eq]
  exact Record.get?_filterMap (by decide) h

theorem get?_fileLayer_of_notMem (h : setting ∉ fileNames.map Prod.snd) :
    (fileLayer app).get? setting = none := by
  rw [fileLayer_eq]
  exact Record.get?_of_notMem (mt Record.mem_names_filterMap h)

theorem get?_secretLayer (h : (name, setting) ∈ secretNames) :
    (secretLayer secrets).get? setting = secret? (secrets.get name) := by
  rw [secretLayer_eq]
  exact Record.get?_filterMap (by decide) h

theorem get?_secretLayer_of_notMem (h : setting ∉ secretNames.map Prod.snd) :
    (secretLayer secrets).get? setting = none := by
  rw [secretLayer_eq]
  exact Record.get?_of_notMem (mt Record.mem_names_filterMap h)

theorem get?_variableLayer (h : setting ∈ variableNames) :
    (variableLayer env).get? setting = variableValue? env setting := by
  rw [variableLayer_eq]
  exact Record.get?_filterMap (by decide) h

theorem get?_variableLayer_of_notMem (h : setting ∉ variableNames) :
    (variableLayer env).get? setting = none := by
  rw [variableLayer_eq]
  refine Record.get?_of_notMem (mt Record.mem_names_filterMap ?_)
  rwa [List.map_id]

/-- A secret falls through every layer that has nothing for it. -/
theorem get?_chosen_secret (honce : overrides.NamesOnce) (h : (name, setting) ∈ secretNames) :
    (chosen env app secrets overrides).get? setting =
      some (secretSetting env secrets overrides setting name) := by
  have hsetting : setting ∈ secretNames.map Prod.snd := List.mem_map_of_mem h
  have htables : ∀ setting ∈ secretNames.map Prod.snd, setting ∈ variableNames ∧
      setting ∉ fileNames.map Prod.snd := by
    decide
  have hdefault : ∀ setting ∈ secretNames.map Prod.snd, defaults.get? setting = some .null := by
    simp only [secretNames, List.map_cons, List.map_nil, List.forall_mem_cons]
    exact ⟨rfl, rfl, nofun⟩
  obtain ⟨hvariable, hfile⟩ := htables setting hsetting
  rw [get?_chosen honce, get?_variableLayer hvariable, get?_secretLayer h,
    get?_fileLayer_of_notMem hfile, hdefault setting hsetting, secretSetting]
  cases overrides.get? setting <;> cases variableValue? env setting <;>
    cases secret? (secrets.get name) <;> rfl

theorem get?_chosen_plain (honce : overrides.NamesOnce) (h : (name, setting) ∈ fileNames) :
    (chosen env app secrets overrides).get? setting =
      some (plainSetting app overrides setting name) := by
  have hsetting : setting ∈ fileNames.map Prod.snd := List.mem_map_of_mem h
  have htables : ∀ setting ∈ fileNames.map Prod.snd, setting ∉ variableNames ∧
      setting ∉ secretNames.map Prod.snd ∧ setting ∈ defaults.names := by
    decide
  obtain ⟨hvariable, hsecret, hdefault⟩ := htables setting hsetting
  rw [get?_chosen honce, get?_variableLayer_of_notMem hvariable, get?_secretLayer_of_notMem hsecret,
    get?_fileLayer h, Record.get?_of_mem hdefault, plainSetting]
  cases overrides.get? setting <;> cases app.get? name <;> rfl

theorem get?_chosen_address (honce : overrides.NamesOnce) :
    (chosen env app secrets overrides).get? "DATABASE_URL" =
      (overrides.get? "DATABASE_URL").or (variableValue? env "DATABASE_URL") := by
  have hdefault : defaults.get? "DATABASE_URL" = none := rfl
  rw [get?_chosen honce, get?_variableLayer (by decide), get?_secretLayer_of_notMem (by decide),
    get?_fileLayer_of_notMem (by decide), hdefault, Option.or_none, Option.or_none, Option.or_none]

/-- What no layer knows comes from the caller alone. -/
theorem get?_chosen_other (honce : overrides.NamesOnce) (hdefault : setting ∉ defaults.names)
    (haddress : setting ≠ "DATABASE_URL") :
    (chosen env app secrets overrides).get? setting = overrides.get? setting := by
  have hfiles : ∀ setting ∈ fileNames.map Prod.snd, setting ∈ defaults.names := by decide
  have hsecrets : ∀ setting ∈ secretNames.map Prod.snd, setting ∈ defaults.names := by decide
  have hvariables : ∀ setting ∈ variableNames, setting ∈ defaults.names ∨
      setting = "DATABASE_URL" := by
    decide
  have hvariable : setting ∉ variableNames :=
    fun hmem => (hvariables setting hmem).elim hdefault haddress
  rw [get?_chosen honce, get?_variableLayer_of_notMem hvariable,
    get?_secretLayer_of_notMem (mt (hsecrets setting) hdefault),
    get?_fileLayer_of_notMem (mt (hfiles setting) hdefault), Record.get?_of_notMem hdefault,
    Option.or_none, Option.or_none, Option.or_none, Option.or_none]

end Chosen

/-! ## What is set in the end -/

def shapedNames : List String :=
  ["SCHEMA_CACHE_SECONDS", "STRICT_COLUMNS", "ACL_RULES"]

/-- The form in which a setting is kept. Three settings are coerced, and all others stay as they
are. -/
inductive Keeps : String → Value → Value → Prop
  | lifetime {v kept : Value} (h : coerceNonNegative v (.int 0) = .ok kept) :
    Keeps "SCHEMA_CACHE_SECONDS" v kept
  | strictness (v : Value) : Keeps "STRICT_COLUMNS" v (.bool (coerceFlag v))
  | rules (v : Value) : Keeps "ACL_RULES" v (rulesValue (coerceRules v).value)
  | plain {setting : String} (v : Value)
    (h : setting ∉ shapedNames) : Keeps setting v v

/-- A configuration holds under every name what the first source gives that may give it. -/
structure Layers (env : Environment) (app secrets overrides config : Record) : Prop where
  salt : config.get? "PASSWORD_SALT" =
    some (secretSetting env secrets overrides "PASSWORD_SALT" "user_password_salt")
  key : config.get? "SECRET_KEY" =
    some (if (secretSetting env secrets overrides "SECRET_KEY" "session_secret").isTruthy then
      secretSetting env secrets overrides "SECRET_KEY" "session_secret"
      else config.get "PASSWORD_SALT")
  plain : ∀ name setting, (name, setting) ∈ fileNames → ∃ kept,
    config.get? setting = some kept ∧ Keeps setting (plainSetting app overrides setting name) kept
  address : config.get? "DATABASE_URL" =
    (overrides.get? "DATABASE_URL").or (variableValue? env "DATABASE_URL")
  other : ∀ setting, setting ∉ defaults.names → setting ≠ "DATABASE_URL" →
    config.get? setting = overrides.get? setting

section Complete

variable {settings : Record} {lifetime : Value} {setting : String}

def shapes (settings : Record) (lifetime : Value) : Record :=
  [("SCHEMA_CACHE_SECONDS", lifetime),
    ("STRICT_COLUMNS", .bool (coerceFlag (settings.get "STRICT_COLUMNS"))),
    ("ACL_RULES", rulesValue (coerceRules (settings.get "ACL_RULES")).value)]

theorem names_shapes (settings : Record) (lifetime : Value) :
    (shapes settings lifetime).names = shapedNames :=
  rfl

theorem namesOnce_shapes (settings : Record) (lifetime : Value) :
    (shapes settings lifetime).NamesOnce := by
  rw [Record.NamesOnce, names_shapes]
  decide

theorem get?_shapes_of_notMem (h : setting ∉ shapedNames) :
    (shapes settings lifetime).get? setting = none :=
  Record.get?_of_notMem h

theorem complete_eq (settings : Record) (lifetime : Value) :
    (complete settings lifetime).value =
      if ((settings.putAll (shapes settings lifetime)).get "SECRET_KEY").isTruthy then
        settings.putAll (shapes settings lifetime)
      else (settings.putAll (shapes settings lifetime)).put "SECRET_KEY"
        ((settings.putAll (shapes settings lifetime)).get "PASSWORD_SALT") :=
  rfl

theorem get?_complete (h : setting ≠ "SECRET_KEY") :
    (complete settings lifetime).value.get? setting =
      ((shapes settings lifetime).get? setting).or (settings.get? setting) := by
  rw [← Record.get?_putAll (namesOnce_shapes settings lifetime), complete_eq]
  split
  · rfl
  · rw [Record.get?_put, if_neg (Ne.symm h)]

theorem get?_complete_of_notMem (h : setting ≠ "SECRET_KEY")
    (hshape : setting ∉ shapedNames) :
    (complete settings lifetime).value.get? setting = settings.get? setting := by
  rw [get?_complete h, get?_shapes_of_notMem hshape, Option.none_or]

/-- Without a key of its own the service seals sessions with the salt. -/
theorem get?_complete_key {key : Value} (h : settings.get? "SECRET_KEY" = some key) :
    (complete settings lifetime).value.get? "SECRET_KEY" =
      some (if key.isTruthy then key
        else (complete settings lifetime).value.get "PASSWORD_SALT") := by
  have hkey : (settings.putAll (shapes settings lifetime)).get? "SECRET_KEY" = some key := by
    rw [Record.get?_putAll (namesOnce_shapes settings lifetime), h,
      get?_shapes_of_notMem (by decide), Option.none_or]
  have hget : (settings.putAll (shapes settings lifetime)).get "SECRET_KEY" = key := by
    rw [Record.get, hkey, Option.getD_some]
  by_cases htruthy : key.isTruthy
  · rw [complete_eq, hget, if_pos htruthy, if_pos htruthy, hkey]
  · have hsalt : (complete settings lifetime).value.get "PASSWORD_SALT" =
        (settings.putAll (shapes settings lifetime)).get "PASSWORD_SALT" := by
      rw [Record.get, Record.get, get?_complete (by decide),
        Record.get?_putAll (namesOnce_shapes settings lifetime)]
    rw [if_neg htruthy, hsalt, complete_eq, hget, if_neg htruthy, Record.get?_put, if_pos rfl]

/-- What was set before is kept in its form. -/
theorem exists_keeps_complete {v : Value} (hsetting : settings.get? setting = some v)
    (hkey : setting ≠ "SECRET_KEY")
    (hlifetime : coerceNonNegative (settings.get "SCHEMA_CACHE_SECONDS") (.int 0) =
      .ok lifetime) :
    ∃ kept, (complete settings lifetime).value.get? setting = some kept ∧
      Keeps setting v kept := by
  have hget : settings.get setting = v := by
    rw [Record.get, hsetting, Option.getD_some]
  by_cases hshape : setting ∈ shapedNames
  · simp only [shapedNames, List.mem_cons, List.not_mem_nil, or_false] at hshape
    rcases hshape with rfl | rfl | rfl
    · rw [hget] at hlifetime
      exact ⟨lifetime, get?_complete hkey, .lifetime hlifetime⟩
    · rw [← hget]
      exact ⟨_, get?_complete hkey, .strictness _⟩
    · rw [← hget]
      exact ⟨_, get?_complete hkey, .rules _⟩
  · exact ⟨v, (get?_complete_of_notMem hkey hshape).trans hsetting, .plain v hshape⟩

end Complete

section Build

variable {d : Deployment} {env : Environment} {overrides config : Record}

def objectIn (file : Option (List UInt8)) : Record :=
  ((file.bind Json.readFile?).bind Value.record?).getD []

/-- A file counts as empty unless it holds an object. -/
theorem value_readObject (path : String) (file : Option (List UInt8)) :
    (readObject path file).value = objectIn file := by
  cases file with
  | none => rfl
  | some bytes =>
      rw [readObject, objectIn, Option.bind_some]
      cases Json.readFile? bytes with
      | none => rfl
      | some v =>
          rw [Option.map_some, Option.bind_some]
          cases v.record? <;> rfl

theorem exists_of_buildIn (h : (buildIn d env overrides).value = .ok config) :
    ∃ lifetime,
      coerceNonNegative ((chosen env (objectIn d.appConfig) (objectIn d.secrets) overrides).get
        "SCHEMA_CACHE_SECONDS") (.int 0) = .ok lifetime ∧
      config =
        (complete (chosen env (objectIn d.appConfig) (objectIn d.secrets) overrides)
          lifetime).value := by
  unfold buildIn at h
  simp only [value_readObject] at h
  split at h
  · cases h
  · rename_i lifetime hlifetime
    cases h
    exact ⟨lifetime, hlifetime, rfl⟩

/-- Layer by layer, a configuration keeps what the first source gives. -/
theorem layers_buildIn (honce : overrides.NamesOnce)
    (h : (buildIn d env overrides).value = .ok config) :
    Layers env (objectIn d.appConfig) (objectIn d.secrets) overrides config := by
  obtain ⟨lifetime, hlifetime, rfl⟩ := exists_of_buildIn h
  generalize objectIn d.appConfig = app at hlifetime ⊢
  generalize objectIn d.secrets = secrets at hlifetime ⊢
  constructor
  case salt =>
    rw [get?_complete_of_notMem (by decide) (by decide)]
    exact get?_chosen_secret honce (by decide)
  case key => exact get?_complete_key (get?_chosen_secret honce (by decide))
  case plain =>
    intro name setting hmem
    have hkey : ∀ names ∈ fileNames, names.2 ≠ "SECRET_KEY" := by decide
    exact exists_keeps_complete (get?_chosen_plain honce hmem) (hkey _ hmem) hlifetime
  case address =>
    rw [get?_complete_of_notMem (by decide) (by decide)]
    exact get?_chosen_address honce
  case other =>
    intro setting hdefault haddress
    have hnames : ∀ setting ∈ "SECRET_KEY" :: shapedNames, setting ∈ defaults.names := by decide
    obtain ⟨hsecret, hshape⟩ := not_or.mp (mt List.mem_cons.mpr (mt (hnames setting) hdefault))
    rw [get?_complete_of_notMem hsecret hshape]
    exact get?_chosen_other honce hdefault haddress

/-- **Where settings come from.** A configuration holds under every name what the first source gives
that may give it. Variables come from the process, the file of the service and that of the project,
in this order. -/
theorem layers_build (hloads : d.LoadsFiles) (honce : overrides.NamesOnce)
    (h : (build d overrides).value = .ok config) :
    ∃ env, d.Provides env ∧
      Layers env (objectIn d.appConfig) (objectIn d.secrets) overrides config := by
  obtain ⟨env, henv, hconfig⟩ := Logged.exists_of_andThen h
  exact ⟨env, Deployment.provides_environment hloads henv, layers_buildIn honce hconfig⟩

end Build

/-! ## Deployments -/

def asciiBytes (text : String) : List UInt8 :=
  text.toList.map fun c => UInt8.ofNat c.toNat

/-- A variable that is set to nothing keeps the salt of both files away, and the first file refers
to another variable. The loader leaves files alone where it is told to. -/
def shopDeployment : Deployment where
  processVariables := [("PASSWORD_SALT", ""), ("SHOP", "shop")]
  backendVariables := some (asciiBytes "PASSWORD_SALT=pepper\nSECRET_KEY=$\x7bSHOP\x7d-key\n")
  rootVariables := some (asciiBytes "SECRET_KEY=other\nDATABASE_URL=sqlite://\n")
  appConfig := some (asciiBytes "\x7b\"login_field\": null, \"strict_columns\": \"yes\"\x7d")
  secrets := some (asciiBytes "\x7b\"user_password_salt\": \"salt\"\x7d")
  leavesFiles := fun env => env.get? "PYTHON_DOTENV_DISABLED" = some "1"

/-- How a binding is taken in, in terms that can be computed. -/
theorem add_eq : Environment.add = fun env binding =>
    match env.get? binding.name, binding.value with
    | none, some value =>
      if decide ('\x00' ∈ binding.name.toList) || decide ('\x00' ∈ value.toList) then
        .error .nullInVariable
      else if decide ('=' ∈ binding.name.toList) then .error .badVariableName
      else .ok (env ++ [(binding.name, value)])
    | _, _ => .ok env := by
  funext env binding
  unfold Environment.add
  cases env.get? binding.name with
  | some value => rfl
  | none =>
      cases binding.value with
      | none => rfl
      | some value => simp only [String.contains_char_eq]

def shopOverrides : Record :=
  [("IDENTITY_TABLE", .text "members"), ("START_LOG", .bool false)]

theorem loadsFiles_shopDeployment : shopDeployment.LoadsFiles := by
  refine ⟨rfl, fun env henv => ?_⟩
  have hname : env.get? "PYTHON_DOTENV_DISABLED" = none := by
    rw [Deployment.get?_takeInFile rfl henv]
    decide +kernel
  exact decide_eq_false (by rw [hname]; exact nofun)

theorem layers_build_shopDeployment :
    shopDeployment.LoadsFiles ∧ shopOverrides.NamesOnce ∧
      ∃ config, (build shopDeployment shopOverrides).value = .ok config ∧
        ∃ env, shopDeployment.Provides env ∧
          Layers env (objectIn shopDeployment.appConfig) (objectIn shopDeployment.secrets)
            shopOverrides config := by
  have hloads := loadsFiles_shopDeployment
  have honce : shopOverrides.NamesOnce := by decide
  have hbuilt : (build shopDeployment shopOverrides).value.toOption.isSome := by
    unfold build Deployment.environment Deployment.takeInFile Environment.takeIn
    rw [add_eq]
    decide +kernel
  obtain ⟨config, hconfig⟩ := Option.isSome_iff_exists.mp hbuilt
  have h := eq_ok_of_toOption_eq_some hconfig
  exact ⟨hloads, honce, config, h, layers_build hloads honce h⟩

end Config

end TableGateway
