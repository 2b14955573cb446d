import TableGateway.Proofs.Access.Rule
import TableGateway.Proofs.Settings.Config
import TableGateway.Service.Basic

/-!
# What a configuration allows

The setting for access lists entries, and the gate of a configuration allows what one of them
grants. So what the lists allow is put together as the lists are. Without a list the gate is open,
and with a list, however short, it is not.
-/

namespace TableGateway

/-! ## Entries -/

namespace Value

inductive Lists : Value → List Value → Prop
  | bare (entries : List Value) : Lists (.list entries) entries
  | named {v : Value} {fields : Record} {entries : List Value} (h : v.record? = some fields)
    (hrules : fields.get "rules" = .list entries) : Lists v entries

def objects (entries : List Value) : List Record :=
  entries.filterMap record?

def AreRules (entries : List Value) : Prop :=
  ∀ fields ∈ objects entries, fields.IsRule

/-- Entries are put in another order, repeated, or left out where they are no objects. -/
inductive Rearranged : List Value → List Value → Prop
  | permuted {entries others : List Value} (h : entries.Perm others) : Rearranged entries others
  | repeated {entries more : List Value} (h : more ⊆ entries) : Rearranged entries (entries ++ more)
  | thinned {entries : List Value} {keeps : Value → Bool}
    (h : ∀ v : Value, v.record?.isSome → keeps v) : Rearranged entries (entries.filter keeps)
  | trans {entries others more : List Value} (h : Rearranged entries others)
    (hmore : Rearranged others more) : Rearranged entries more

variable {entries others : List Value}

theorem objects_append (entries others : List Value) :
    objects (entries ++ others) = objects entries ++ objects others :=
  List.filterMap_append

/-- A rearranged list holds the same objects. -/
theorem Rearranged.mem_iff (h : Rearranged entries others) (fields : Record) :
    fields ∈ objects others ↔ fields ∈ objects entries := by
  induction h with
  | permuted h => exact (h.filterMap record?).mem_iff.symm
  | repeated h =>
      rw [objects_append, List.mem_append]
      exact ⟨fun hmem => hmem.elim id fun hmore => List.filterMap_subset record? h hmore, Or.inl⟩
  | @thinned entries keeps h =>
      simp only [objects, List.mem_filterMap, List.mem_filter]
      refine exists_congr fun v => and_congr_left fun hfields => ?_
      exact and_iff_left (h v (Option.isSome_of_eq_some hfields))
  | trans _ _ ih ihmore => exact ihmore.trans ih

theorem Rearranged.areRules (h : Rearranged entries others) (hentries : AreRules entries) :
    AreRules others :=
  fun fields hmem => hentries fields ((h.mem_iff fields).mp hmem)

theorem areRules_append (hentries : AreRules entries) (hothers : AreRules others) :
    AreRules (entries ++ others) := by
  intro fields hmem
  rw [objects_append, List.mem_append] at hmem
  exact hmem.elim (hentries fields) (hothers fields)

end Value

section Coerce

variable {acl : Value} {entries : List Value}

theorem coerceRules_of_record? {fields : Record} (h : acl.record? = some fields) :
    coerceRules acl = match fields.get "rules" with
      | .list entries => keepRecords entries
      | _ => ⟨none, [notRulesNotice]⟩ := by
  cases acl with
  | record | mangled =>
      cases h
      rfl
  | _ => cases h

theorem value_coerceRules_of_lists (h : acl.Lists entries) :
    (coerceRules acl).value = some (Value.objects entries) := by
  cases h with
  | bare => rfl
  | named h hrules =>
      rw [coerceRules_of_record? h, hrules]
      rfl

/-- A setting that lists nothing leaves the gate without rules. -/
theorem value_coerceRules_of_not_lists (h : ∀ entries, ¬ acl.Lists entries) :
    (coerceRules acl).value = none := by
  cases hfields : acl.record? with
  | some fields =>
      rw [coerceRules_of_record? hfields]
      split
      · rename_i entries hentries
        exact absurd (.named hfields hentries) (h entries)
      · rfl
  | none =>
      cases acl with
      | list entries => exact absurd (.bare entries) (h entries)
      | record | mangled => cases hfields
      | _ => rfl

end Coerce

/-! ## Gates -/

namespace Gate

variable {rules others both : List AccessRule} {roleField : Value}

/-- A gate decides by what its rules allow, whatever their number and order. -/
theorem decide_congr (h : ∀ call, someRuleAllows rules call ↔ someRuleAllows others call) :
    decide ⟨some rules, roleField⟩ = decide ⟨some others, roleField⟩ := by
  have heq : someRuleAllows rules = someRuleAllows others :=
    funext fun call => Bool.eq_iff_iff.mpr (h call)
  unfold decide
  dsimp only
  rw [heq]
  rfl

/-- Where the rules of a gate allow what those of one of two gates allow, so does the gate. -/
theorem verdict_or
    (h : ∀ call, someRuleAllows both call ↔
      someRuleAllows rules call ∨ someRuleAllows others call)
    (user : Option Record) (resource method : String) (kind : Option Kind) :
    verdict ⟨some both, roleField⟩ user resource method kind = .ok true ↔
      verdict ⟨some rules, roleField⟩ user resource method kind = .ok true ∨
        verdict ⟨some others, roleField⟩ user resource method kind = .ok true := by
  -- The role does not depend on the rules, so all three fail to tell it or none of them does.
  have hrole : ∀ more, roleOf ⟨some more, roleField⟩ user = roleOf ⟨none, roleField⟩ user :=
    fun _ => rfl
  simp only [verdict_of_rules, hrole]
  cases roleOf ⟨none, roleField⟩ user with
  | error f => simp [Except.map]
  | ok role => simpa [Except.map] using h _

end Gate

/-! ## Configurations -/

namespace Config

def gate (config : Record) : Except Failure Gate :=
  Gate.ofEntries (Service.rulesOf config) (config.get "ROLE_FIELD")

/-- A configuration is made with a setting for access, from a file or from the caller, and has a
name for roles. -/
structure Sets (config : Record) (acl roleField : Value) : Prop where
  made : ∃ (d : Deployment) (overrides : Record), overrides.NamesOnce ∧
    (build d overrides).value = .ok config ∧
    plainSetting (objectIn d.appConfig) overrides "ACL_RULES" "acl" = acl
  roleField : config.get "ROLE_FIELD" = roleField

variable {config : Record} {acl roleField : Value} {entries : List Value}

theorem Keeps.eq_self {setting : String} {v kept : Value} (h : Keeps setting v kept)
    (hsetting : setting ∉ shapedNames) : kept = v := by
  cases h with
  | plain => rfl
  | _ => exact absurd (by decide) hsetting

theorem Keeps.eq_rulesValue {v kept : Value} (h : Keeps "ACL_RULES" v kept) :
    kept = rulesValue (coerceRules v).value := by
  generalize hsetting : "ACL_RULES" = setting at h
  cases h with
  | lifetime => exact absurd hsetting (by decide)
  | strictness => exact absurd hsetting (by decide)
  | rules => rfl
  | plain _ h =>
      subst hsetting
      exact absurd h (by decide)

theorem rulesOf_of_get {rules : Option (List Record)}
    (h : config.get "ACL_RULES" = rulesValue rules) : Service.rulesOf config = rules := by
  unfold Service.rulesOf
  rw [h]
  cases rules with
  | none => rfl
  | some rules =>
      have hrecord : Value.record? ∘ Value.record = some := rfl
      dsimp only [rulesValue]
      rw [List.filterMap_map, hrecord, List.filterMap_some]

/-- What the file of settings names is kept in its form. -/
theorem keeps_get_of_build {d : Deployment} {overrides : Record} {name setting : String}
    (honce : overrides.NamesOnce) (h : (build d overrides).value = .ok config)
    (hmem : (name, setting) ∈ fileNames) :
    Keeps setting (plainSetting (objectIn d.appConfig) overrides setting name)
      (config.get setting) := by
  obtain ⟨env, -, hconfig⟩ := Logged.exists_of_andThen h
  obtain ⟨kept, hkept, hkeeps⟩ := (layers_buildIn honce hconfig).plain name setting hmem
  rwa [Record.get, hkept, Option.getD_some]

theorem sets_of_build {d : Deployment} {overrides : Record} (honce : overrides.NamesOnce)
    (h : (build d overrides).value = .ok config) :
    Sets config (plainSetting (objectIn d.appConfig) overrides "ACL_RULES" "acl")
      (plainSetting (objectIn d.appConfig) overrides "ROLE_FIELD" "role_field") where
  made := ⟨d, overrides, honce, h, rfl⟩
  roleField := (keeps_get_of_build honce h (by decide)).eq_self (by decide)

/-- The rules of a configuration are those of its setting for access. -/
theorem Sets.rulesOf_eq (h : Sets config acl roleField) :
    Service.rulesOf config = (coerceRules acl).value := by
  obtain ⟨d, overrides, honce, hbuild, rfl⟩ := h.made
  exact rulesOf_of_get (keeps_get_of_build honce hbuild (by decide)).eq_rulesValue

theorem Sets.gate_of_not_lists (h : Sets config acl roleField)
    (hacl : ∀ entries, ¬ acl.Lists entries) : gate config = .ok ⟨none, roleField⟩ := by
  rw [gate, h.rulesOf_eq, value_coerceRules_of_not_lists hacl, h.roleField]
  rfl

def SetsList (config : Record) (entries : List Value) (roleField : Value) : Prop :=
  ∃ acl : Value, Sets config acl roleField ∧ acl.Lists entries

theorem SetsList.not_isOpen (hlist : SetsList config entries roleField) {made : Gate}
    (hgate : gate config = .ok made) : ¬ made.isOpen := by
  obtain ⟨acl, h, hacl⟩ := hlist
  rw [gate, h.rulesOf_eq, value_coerceRules_of_lists hacl] at hgate
  obtain ⟨rules, -, hmade⟩ := bind_eq_ok_iff.mp hgate
  cases hmade
  exact Bool.false_ne_true

/-- The gate of a configuration allows what one of the objects in its list grants. -/
theorem SetsList.exists_gate (hlist : SetsList config entries roleField)
    (hentries : Value.AreRules entries) :
    ∃ rules, gate config = .ok ⟨some rules, roleField⟩ ∧
      ∀ call, Gate.someRuleAllows rules call ↔
        ∃ fields ∈ Value.objects entries, fields.Grants call := by
  obtain ⟨acl, h, hacl⟩ := hlist
  obtain ⟨rules, hrules, hallows⟩ := Gate.exists_ofEntries hentries roleField
  refine ⟨rules, ?_, hallows⟩
  rw [gate, h.rulesOf_eq, value_coerceRules_of_lists hacl, h.roleField, hrules]

/-- What configurations allow that have one name for roles, by the lists of entries they set. -/
structure Composes (roleField : Value) : Prop where
  opened : ∀ {config : Record} {acl : Value}, Sets config acl roleField →
    (∀ entries, ¬ acl.Lists entries) → ∃ made, gate config = .ok made ∧ made.isOpen
  closed : ∀ {config : Record} {entries : List Value} {made : Gate},
    SetsList config entries roleField → gate config = .ok made → ¬ made.isOpen
  joined : ∀ {first second both : Record} {entries others : List Value},
    SetsList first entries roleField → SetsList second others roleField →
    SetsList both (entries ++ others) roleField →
    Value.AreRules entries → Value.AreRules others →
      ∃ one other joint, gate first = .ok one ∧ gate second = .ok other ∧ gate both = .ok joint ∧
        ∀ user resource method kind, joint.verdict user resource method kind = .ok true ↔
          one.verdict user resource method kind = .ok true ∨
            other.verdict user resource method kind = .ok true
  rearranged : ∀ {first second : Record} {entries others : List Value},
    SetsList first entries roleField → SetsList second others roleField →
    Value.Rearranged entries others → Value.AreRules entries →
      ∃ one other, gate first = .ok one ∧ gate second = .ok other ∧ one.decide = other.decide

/-- **Lists of entries compose.** What a configuration allows is put together as its list is, and it
is open to everyone only if it has no list. -/
theorem composes (roleField : Value) : Composes roleField where
  opened h hacl := ⟨_, h.gate_of_not_lists hacl, rfl⟩
  closed h := h.not_isOpen
  joined := by
    intro first second both entries others hfirst hsecond hboth hentries hothers
    obtain ⟨rules, hone, hrules⟩ := hfirst.exists_gate hentries
    obtain ⟨more, hother, hmore⟩ := hsecond.exists_gate hothers
    obtain ⟨joint, hjoint, hall⟩ := hboth.exists_gate (Value.areRules_append hentries hothers)
    refine ⟨_, _, _, hone, hother, hjoint, Gate.verdict_or fun call => ?_⟩
    simp only [hrules, hmore, hall, Value.objects_append, List.mem_append, or_and_right, exists_or]
  rearranged := by
    intro first second entries others hfirst hsecond hrearranged hentries
    obtain ⟨rules, hone, hrules⟩ := hfirst.exists_gate hentries
    obtain ⟨more, hother, hmore⟩ := hsecond.exists_gate (hrearranged.areRules hentries)
    refine ⟨_, _, hone, hother, Gate.decide_congr fun call => ?_⟩
    simp only [hrules, hmore, hrearranged.mem_iff]

theorem exists_setsList {acl : Value} {entries : List Value} (h : acl.Lists entries) :
    ∃ config, SetsList config entries (.text "role") := by
  obtain ⟨config, hconfig⟩ : ∃ config, (build {} [("ACL_RULES", acl)]).value = .ok config :=
    ⟨_, rfl⟩
  have honce : Record.NamesOnce [("ACL_RULES", acl)] := List.pairwise_singleton _ _
  exact ⟨config, acl, sets_of_build honce hconfig, h⟩

def shopList : List Value :=
  .text "everyone" :: Gate.shopEntries.map .record

theorem areRules_shopList : Value.AreRules shopList := by
  have hobjects : Value.objects shopList = Gate.shopEntries := rfl
  rw [Value.AreRules, hobjects]
  exact Gate.isRule_of_mem_shopEntries

def adminList : List Value :=
  [.record [("roles", .text "admin")]]

theorem areRules_adminList : Value.AreRules adminList := by
  intro fields hmem
  obtain rfl := List.mem_singleton.mp hmem
  exact ⟨.one _, .nothing, .nothing, .nothing⟩

theorem composes_shopList :
    ∃ first second both one other joint,
      SetsList first shopList (.text "role") ∧ SetsList second adminList (.text "role") ∧
      SetsList both (shopList ++ adminList) (.text "role") ∧
      gate first = .ok one ∧ gate second = .ok other ∧ gate both = .ok joint ∧ ¬ joint.isOpen ∧
      ∀ user resource method kind, joint.verdict user resource method kind = .ok true ↔
        one.verdict user resource method kind = .ok true ∨
          other.verdict user resource method kind = .ok true := by
  have hcompose := composes (.text "role")
  have hnamed : (Value.record [("rules", .list shopList)]).Lists shopList := .named rfl rfl
  obtain ⟨first, hfirst⟩ := exists_setsList hnamed
  obtain ⟨second, hsecond⟩ := exists_setsList (.bare adminList)
  obtain ⟨both, hboth⟩ := exists_setsList (.bare (shopList ++ adminList))
  obtain ⟨one, other, joint, hone, hother, hjoint, hallows⟩ :=
    hcompose.joined hfirst hsecond hboth areRules_shopList areRules_adminList
  exact ⟨first, second, both, one, other, joint, hfirst, hsecond, hboth, hone, hother, hjoint,
    hcompose.closed hboth hjoint, hallows⟩

end Config

end TableGateway
