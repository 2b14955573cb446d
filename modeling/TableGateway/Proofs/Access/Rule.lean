import TableGateway.Proofs.Access.Gate
import TableGateway.Proofs.Access.Glob
import TableGateway.Proofs.Action

/-!
# What rules allow

An entry of the configuration grants a call if it covers the call in each of four respects. A gate
that is made from entries allows what one of them grants to the role of the caller, and nothing
else.
-/

namespace TableGateway

/-! ## Patterns -/

inductive Value.GivesPatterns : Value → Prop
  | nothing : GivesPatterns .null
  | one (pattern : String) : GivesPatterns (.text pattern)
  | many (items : List Value) : GivesPatterns (.list items)

/-- A setting covers a text: it is not given, or one of its patterns stands for the text once it is
brought into the form of such texts. -/
inductive Value.Covers (form : String → String) (text : String) : Value → Prop
  | nothing : Covers form text .null
  | one {pattern : String} (h : Glob.Fits (form pattern).toList text.toList) :
    Covers form text (.text pattern)
  | many {items : List Value} {item : Value} (hitem : item ∈ items)
    (h : Glob.Fits (form item.display).toList text.toList) : Covers form text (.list items)

theorem AccessRule.fits_iff {patterns : List String} {text : String} :
    fits patterns text ↔ ∃ pattern ∈ patterns, Glob.Fits pattern.toList text.toList := by
  simp only [fits, List.any_eq_true, globMatches_iff]

/-- The patterns of a setting fit what the setting covers. -/
theorem exists_readPatterns {v : Value} (h : v.GivesPatterns) :
    ∃ patterns, readPatterns v = .ok patterns ∧
      ∀ (form : String → String) (text : String), form "*" = "*" →
        (AccessRule.fits (patterns.map form) text ↔ v.Covers form text) := by
  cases h with
  | nothing =>
      refine ⟨["*"], rfl, fun form text hform => iff_of_true ?_ .nothing⟩
      rw [AccessRule.fits_iff, List.map_singleton, hform]
      exact ⟨"*", List.mem_singleton_self _, globMatches_iff.mp (globMatches_star text)⟩
  | one pattern =>
      refine ⟨[pattern], rfl, fun form text _ => ?_⟩
      rw [AccessRule.fits_iff, List.map_singleton]
      constructor
      · rintro ⟨_, hmem, h⟩
        obtain rfl := List.mem_singleton.mp hmem
        exact .one h
      · intro h
        cases h with
        | one h => exact ⟨_, List.mem_singleton_self _, h⟩
  | many items =>
      refine ⟨items.map Value.display, rfl, fun form text _ => ?_⟩
      rw [AccessRule.fits_iff, List.map_map]
      constructor
      · rintro ⟨_, hmem, h⟩
        obtain ⟨item, hitem, rfl⟩ := List.mem_map.mp hmem
        exact .many hitem h
      · intro h
        cases h with
        | many hitem h => exact ⟨_, List.mem_map_of_mem hitem, h⟩

/-! ## Entries -/

namespace Record

structure IsRule (entry : Record) : Prop where
  roles : (entry.get "roles").GivesPatterns
  resources : (entry.get "resources").GivesPatterns
  methods : (entry.get "methods").GivesPatterns
  kinds : (entry.get "kinds").GivesPatterns

/-- An entry grants a call. Its methods and kinds are taken in lower case, and the call as it is. -/
structure Grants (entry : Record) (call : Gate.Call) : Prop where
  role : (entry.get "roles").Covers id call.role
  resource : (entry.get "resources").Covers id call.resource
  method : (entry.get "methods").Covers Text.lower call.method
  kind : (entry.get "kinds").Covers Text.lower call.kind

end Record

/-- The rule of an entry allows what the entry grants. -/
theorem AccessRule.exists_read {entry : Record} (h : entry.IsRule) :
    ∃ rule, read entry = .ok rule ∧
      ∀ call : Gate.Call, rule.allows call.role call.resource call.method call.kind ↔
        entry.Grants call := by
  obtain ⟨roles, hroles, hfitRoles⟩ := exists_readPatterns h.roles
  obtain ⟨resources, hresources, hfitResources⟩ := exists_readPatterns h.resources
  obtain ⟨methods, hmethods, hfitMethods⟩ := exists_readPatterns h.methods
  obtain ⟨kinds, hkinds, hfitKinds⟩ := exists_readPatterns h.kinds
  have hlower : Text.lower "*" = "*" := by decide
  refine ⟨⟨roles, resources, methods.map Text.lower, kinds.map Text.lower⟩, ?_, fun call => ?_⟩
  · simp only [read, hroles, hresources, hmethods, hkinds]
    rfl
  · have hrole := hfitRoles id call.role rfl
    have hresource := hfitResources id call.resource rfl
    rw [List.map_id] at hrole hresource
    simp only [allows, Bool.and_eq_true, hrole, hresource, hfitMethods _ _ hlower,
      hfitKinds _ _ hlower]
    constructor
    · rintro ⟨⟨⟨hrole, hresource⟩, hmethod⟩, hkind⟩
      exact ⟨hrole, hresource, hmethod, hkind⟩
    · rintro ⟨hrole, hresource, hmethod, hkind⟩
      exact ⟨⟨⟨hrole, hresource⟩, hmethod⟩, hkind⟩

theorem Gate.someRuleAllows_cons (rule : AccessRule) (rules : List AccessRule) (call : Call) :
    someRuleAllows (rule :: rules) call ↔
      rule.allows call.role call.resource call.method call.kind ∨ someRuleAllows rules call := by
  rw [someRuleAllows, List.any_cons, Bool.or_eq_true]
  rfl

/-- The rules of entries allow what one of the entries grants. -/
theorem exists_mapM_read {entries : List Record} (h : ∀ entry ∈ entries, entry.IsRule) :
    ∃ rules, entries.mapM AccessRule.read = .ok rules ∧
      ∀ call, Gate.someRuleAllows rules call ↔ ∃ entry ∈ entries, entry.Grants call := by
  induction entries with
  | nil => exact ⟨[], rfl, fun call => by simp [Gate.someRuleAllows]⟩
  | cons entry entries ih =>
      obtain ⟨hentry, hrest⟩ := List.forall_mem_cons.mp h
      obtain ⟨rule, hrule, hallows⟩ := AccessRule.exists_read hentry
      obtain ⟨rules, hrules, hsome⟩ := ih hrest
      refine ⟨rule :: rules, ?_, fun call => ?_⟩
      · rw [List.mapM_cons, hrule, hrules]
        rfl
      · simp only [Gate.someRuleAllows_cons, hallows, hsome, List.mem_cons, exists_eq_or_imp]

/-! ## Roles -/

namespace Gate

variable {roleField : Value}

variable {entries : List Record}

/-- Whether a gate allows a call, whatever it logs about it. -/
def verdict (gate : Gate) (user : Option Record) (resource method : String) (kind : Option Kind) :
    Except Failure Bool :=
  (gate.decide user resource method kind).map Prod.fst

theorem verdict_of_rules (rules : List AccessRule) (roleField : Value) (user : Option Record)
    (resource method : String) (kind : Option Kind) :
    verdict ⟨some rules, roleField⟩ user resource method kind =
      (roleOf ⟨some rules, roleField⟩ user).map fun role =>
        someRuleAllows rules ⟨role, resource, method, (kind.map Kind.name).getD ""⟩ := by
  unfold verdict decide
  cases roleOf ⟨some rules, roleField⟩ user with
  | error f => rfl
  | ok role =>
      cases hallowed : someRuleAllows rules ⟨role, resource, method, (kind.map Kind.name).getD ""⟩
      all_goals simp [hallowed, bind, Except.bind, pure, Except.pure, Except.map]

/-- A verdict is the decision without the records that go with it. -/
theorem exists_decide_of_verdict {gate : Gate} {user : Option Record} {resource method : String}
    {kind : Option Kind} {allowed : Bool}
    (h : gate.verdict user resource method kind = .ok allowed) :
    ∃ records, gate.decide user resource method kind = .ok (allowed, records) := by
  unfold verdict at h
  cases hdecide : gate.decide user resource method kind with
  | error f =>
      rw [hdecide] at h
      cases h
  | ok decision =>
      rw [hdecide] at h
      obtain ⟨allowed, records⟩ := decision
      cases h
      exact ⟨records, rfl⟩

/-- A gate can be made from entries that rules can be read from. -/
theorem exists_ofEntries (hentries : ∀ entry ∈ entries, entry.IsRule) (roleField : Value) :
    ∃ rules, ofEntries (some entries) roleField = .ok ⟨some rules, roleField⟩ ∧
      ∀ call, someRuleAllows rules call ↔ ∃ entry ∈ entries, entry.Grants call := by
  obtain ⟨rules, hrules, hallows⟩ := exists_mapM_read hentries
  refine ⟨rules, ?_, hallows⟩
  simp only [ofEntries, hrules]
  rfl

def shopEntries : List Record :=
  [[("roles", .list [.text "anonymous"]), ("resources", .list [.text "v_*"]),
      ("methods", .list [.text "GET"]), ("kinds", .text "View")],
    [("roles", .text "user"), ("resources", .list [.text "orders", .text "order?"]),
      ("methods", .null)]]

theorem isRule_of_mem_shopEntries : ∀ entry ∈ shopEntries, entry.IsRule := by
  intro entry hentry
  simp only [shopEntries, List.mem_cons, List.not_mem_nil, or_false] at hentry
  rcases hentry with rfl | rfl
  · exact ⟨.many _, .many _, .many _, .one _⟩
  · exact ⟨.one _, .many _, .nothing, .nothing⟩

end Gate

end TableGateway
