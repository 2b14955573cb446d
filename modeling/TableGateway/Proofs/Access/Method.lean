import TableGateway.Proofs.Access.Rule
import TableGateway.Proofs.Dispatch.Stages
import TableGateway.Proofs.Dispatch.Strictness

/-!
# Rules that name methods

A rule may name a method in letters of any case, and clients may too. A method is taken for the verb
it stands for before the gate is asked, so what a rule has to name is that verb: one that names put
allows patch as well, and one that names patch allows nothing.
-/

namespace TableGateway

/-! ## Methods -/

inductive Method
  | get
  | post
  | put
  | patch
  | delete
  deriving DecidableEq

namespace Method

def name : Method → String
  | .get => "get"
  | .post => "post"
  | .put => "put"
  | .patch => "patch"
  | .delete => "delete"

def verb : Method → Verb
  | .get => .get
  | .post => .post
  | .put => .put
  | .patch => .put
  | .delete => .delete

def IsNamedBy (m : Method) (text : String) : Prop :=
  Text.lower text = m.name

instance (m : Method) (text : String) : Decidable (m.IsNamedBy text) :=
  inferInstanceAs (Decidable (_ = _))

theorem normalizeMethod_of_isNamedBy {m : Method} {text : String} (h : m.IsNamedBy text) :
    normalizeMethod text = m.verb.name := by
  have hname : Text.lower text = m.name := h
  rw [normalizeMethod, hname]
  cases m <;> rfl

end Method

/-! ## Entries -/

def Value.HasPattern (v : Value) (p : String → Prop) : Prop :=
  ∃ patterns, readPatterns v = .ok patterns ∧ ∃ pattern ∈ patterns, p pattern

/-- An entry fits the role of a caller, a resource and its kind, whatever methods it is for. -/
structure Record.Concerns (entry : Record) (role resource : String) (kind : Kind) : Prop where
  role : (entry.get "roles").HasPattern fun pattern => Glob.Fits pattern.toList role.toList
  resource : (entry.get "resources").HasPattern fun pattern =>
    Glob.Fits pattern.toList resource.toList
  kind : (entry.get "kinds").HasPattern fun pattern =>
    Glob.Fits (Text.lower pattern).toList kind.name.toList

def Record.ListsMethod (entry : Record) (word : String) : Prop :=
  (entry.get "methods").HasPattern fun pattern => Text.lower pattern = word

theorem Value.HasPattern.fits {v : Value} {patterns : List String} {text : String}
    (form : String → String)
    (h : v.HasPattern fun pattern => Glob.Fits (form pattern).toList text.toList)
    (hread : readPatterns v = .ok patterns) : AccessRule.fits (patterns.map form) text := by
  obtain ⟨_, hpatterns, pattern, hmem, hfits⟩ := h
  obtain rfl := Except.ok.inj (hread.symm.trans hpatterns)
  exact AccessRule.fits_iff.mpr ⟨form pattern, List.mem_map_of_mem hmem, hfits⟩

/-- The name of a verb is a pattern that stands for itself. -/
theorem Verb.fits_name (verb : Verb) : Glob.Fits verb.name.toList verb.name.toList := by
  rw [← globMatches_iff]
  cases verb <;> decide +kernel

theorem Record.ListsMethod.hasPattern {entry : Record} {verb : Verb}
    (h : entry.ListsMethod verb.name) :
    (entry.get "methods").HasPattern fun pattern =>
      Glob.Fits (Text.lower pattern).toList verb.name.toList := by
  obtain ⟨patterns, hread, pattern, hmem, hname⟩ := h
  exact ⟨patterns, hread, pattern, hmem, hname ▸ verb.fits_name⟩

/-- The rule of an entry allows each verb that the entry lists where it is about the call. -/
theorem AccessRule.allows_of_read {entry : Record} {rule : AccessRule} {role resource : String}
    {kind : Kind} {verb : Verb} (hread : read entry = .ok rule)
    (hconcerns : entry.Concerns role resource kind) (hlists : entry.ListsMethod verb.name) :
    rule.allows role resource verb.name kind.name := by
  unfold read at hread
  obtain ⟨roles, hroles, hread⟩ := bind_eq_ok_iff.mp hread
  obtain ⟨resources, hresources, hread⟩ := bind_eq_ok_iff.mp hread
  obtain ⟨methods, hmethods, hread⟩ := bind_eq_ok_iff.mp hread
  obtain ⟨kinds, hkinds, hread⟩ := bind_eq_ok_iff.mp hread
  cases hread
  have hrole := hconcerns.role.fits id hroles
  have hresource := hconcerns.resource.fits id hresources
  rw [List.map_id] at hrole hresource
  simp only [allows, hrole, hresource, hlists.hasPattern.fits Text.lower hmethods,
    hconcerns.kind.fits Text.lower hkinds, Bool.and_self]

/-- Reading entries drops none of them. -/
theorem exists_read_of_mem {entries : List Record} {rules : List AccessRule} {entry : Record}
    (h : entries.mapM AccessRule.read = .ok rules) (hentry : entry ∈ entries) :
    ∃ rule ∈ rules, AccessRule.read entry = .ok rule := by
  induction entries generalizing rules with
  | nil => cases hentry
  | cons first entries ih =>
      rw [List.mapM_cons] at h
      obtain ⟨rule, hrule, h⟩ := bind_eq_ok_iff.mp h
      obtain ⟨others, hothers, h⟩ := bind_eq_ok_iff.mp h
      cases h
      rcases List.mem_cons.mp hentry with rfl | hentry
      · exact ⟨rule, List.mem_cons_self, hrule⟩
      · obtain ⟨other, hother, hread⟩ := ih hothers hentry
        exact ⟨other, List.mem_cons_of_mem _ hother, hread⟩

/-- A gate lets a call pass for whose caller, resource and kind an entry lists the verb. -/
theorem Gate.permits_of_lists {gate : Gate} {entries : List Record} {entry : Record}
    {user : Option Record} {role resource : String} {kind : Kind} {verb : Verb} {roleField : Value}
    (hgate : ofEntries (some entries) roleField = .ok gate)
    (hrole : gate.roleOf user = .ok role) (hentry : entry ∈ entries)
    (hconcerns : entry.Concerns role resource kind) (hlists : entry.ListsMethod verb.name) :
    gate.Permits user resource verb.name kind := by
  unfold ofEntries at hgate
  obtain ⟨rules, hrules, hgate⟩ := bind_eq_ok_iff.mp hgate
  cases hgate
  obtain ⟨rule, hmem, hread⟩ := exists_read_of_mem hrules hentry
  exact Or.inr ⟨rules, role, rfl, hrole, rule, hmem,
    AccessRule.allows_of_read hread hconcerns hlists⟩

/-! ## Refusals -/

section Refusals

variable {settings : ResourceSettings} {hasher : Option Hasher} {d : Dispatcher} {request : Request}
  {w : World}

theorem readBody_ne_forbidden (v : Value) : readBody v ≠ .error (.api .forbidden) := by
  unfold readBody
  split
  · exact nofun
  · split <;> exact nofun
  · exact nofun
  · exact nofun

theorem hashPassword_ne_forbidden (resource : String) (body : Record) :
    hashPassword settings hasher resource body ≠ .error (.api .forbidden) := by
  rcases hashPassword_cases settings hasher resource body with
    ⟨h, -⟩ | ⟨field, given, digest, -, -, -, -, h⟩ | ⟨field, text, -, -, -, h⟩ | h |
      ⟨kind, -, -, h⟩ <;> rw [h] <;> exact nofun

theorem bind_ne_error {ε α β : Type} {x : Except ε α} {f : α → Except ε β} {e : ε}
    (hx : x ≠ .error e) (hf : ∀ a, f a ≠ .error e) : (x >>= f) ≠ .error e := by
  cases x with
  | error e' => simpa [bind, Except.bind] using hx
  | ok a => exact hf a

/-- Only the gate forbids: what comes after it fails for other reasons. -/
theorem draft_ne_forbidden (verb : Verb) (id : Option Value) :
    request.draft settings hasher verb id ≠ .error (.api .forbidden) := by
  cases verb with
  | get =>
      rw [Request.draft, draftRead]
      split <;> intro h <;> cases h
  | post =>
      refine bind_ne_error (readBody_ne_forbidden _) fun body => ?_
      by_cases hid : request.rawId.isSome || body.has idColumn
      · simp only [hid, if_true]
        exact fun h => by cases h
      · by_cases hempty : body.isEmpty
        · simp only [hid, hempty, if_true]
          exact fun h => by cases h
        · simp only [hid, hempty]
          exact bind_ne_error (hashPassword_ne_forbidden _ _) fun _ h => by cases h
  | put =>
      cases id with
      | none => exact fun h => by cases h
      | some id =>
          refine bind_ne_error (readBody_ne_forbidden _) fun body => ?_
          by_cases hid : body.has idColumn
          · simp only [hid, if_true]
            exact fun h => by cases h
          · by_cases hempty : body.isEmpty
            · simp only [hid, hempty, if_true]
              exact fun h => by cases h
            · simp only [hid, hempty]
              exact bind_ne_error (hashPassword_ne_forbidden _ _) fun _ h => by cases h
  | delete => cases id <;> intro h <;> cases h

/-- Behind the gate nothing is refused as forbidden. -/
theorem Dispatcher.result_perform_ne_forbidden (verb : Verb) :
    (d.perform request verb w).result ≠ .error (.api .forbidden) := by
  intro h
  simp only [perform, Action.result_bind_eq_error_iff, Action.ofExcept_apply,
    Action.logAll_apply] at h
  rcases h with h | ⟨id, -, h | ⟨-, -, h | ⟨draft, -, h | ⟨-, -, h | ⟨outcome, -, h⟩⟩⟩⟩⟩
  · obtain ⟨raw, n, -, -, hf⟩ := readId_eq_error_iff.mp h
    cases hf
  · cases h
  · exact draft_ne_forbidden verb id h
  · rw [Action.checkColumns_apply] at h
    split at h
    · cases h
    · split at h
      · cases h
      · split at h <;> cases h
  · rw [Action.submit_apply] at h
    split at h
    · cases h
    · split at h <;> cases h
  · unfold Reply.ofOutcome at h
    split at h <;> cases h

theorem Request.ResolvesTo.unique {found found' : Option Kind} (h : request.ResolvesTo w found)
    (h' : request.ResolvesTo w found') : found = found' := by
  obtain ⟨resolution, hresolve, rfl⟩ := h
  obtain ⟨resolution', hresolve', rfl⟩ := h'
  rw [Except.ok.inj (hresolve.symm.trans hresolve')]

/-- A request is refused as forbidden only by the gate. -/
theorem Dispatcher.exists_denied_of_forbidden
    (h : (d.dispatch request w).result = .error (.api .forbidden)) :
    ∃ kind, request.ResolvesTo w (some kind) ∧ d.Decides request kind false := by
  have hends := d.ends_dispatch request w
  generalize d.dispatch request w = ending at h hends
  cases hends with
  | unresolved hresolve =>
      obtain ⟨-, -, e, -, hf⟩ := Catalog.resolve_eq_error_iff.mp hresolve
      cases h
      cases hf
  | unknown hresolve hkind => cases h
  | undecided hresolve hkind hdecide =>
      obtain ⟨-, fields, name, -, -, -, hf⟩ := Gate.decide_eq_error_iff.mp hdecide
      cases h
      cases hf
  | denied hresolve hkind hdecide => exact ⟨_, ⟨_, hresolve, hkind⟩, _, hdecide⟩
  | illegal hresolve hkind hdecide hverb => cases h
  | performed hresolve hkind hdecide hverb => exact absurd h (d.result_perform_ne_forbidden _)

end Refusals

/-! ## Calls -/

variable {d : Dispatcher} {request : Request} {w : World} {entries : List Record} {entry : Record}
  {roleField : Value} {role : String} {kind : Kind} {m : Method}

/-- **Rules that name methods.** Where an entry is about the caller, the resource and its kind and
lists the verb that a method is served as, no call with this method is refused as forbidden, in
whatever case the two are written. -/
theorem result_ne_forbidden_of_lists (hgate : Gate.ofEntries (some entries) roleField = .ok d.gate)
    (hmethod : m.IsNamedBy request.method) (hkind : request.ResolvesTo w (some kind))
    (hrole : d.gate.roleOf request.user = .ok role) (hentry : entry ∈ entries)
    (hconcerns : entry.Concerns role request.resource kind)
    (hlists : entry.ListsMethod m.verb.name) :
    (d.dispatch request w).result ≠ .error (.api .forbidden) := by
  intro h
  obtain ⟨found, hfound, hdenied⟩ := Dispatcher.exists_denied_of_forbidden h
  obtain rfl : kind = found := Option.some.inj (hkind.unique hfound)
  obtain ⟨records, hdenied⟩ := hdenied
  rw [Method.normalizeMethod_of_isNamedBy hmethod] at hdenied
  obtain ⟨_, hallowed⟩ := Gate.decide_eq_ok_true_iff.mpr
    (Gate.permits_of_lists hgate hrole hentry hconcerns hlists)
  cases hdenied.symm.trans hallowed

def clerkEntry : Record :=
  [("roles", .text "clerk"), ("resources", .list [.text "wid*"]),
    ("methods", .list [.text "GET", .text "Put"]), ("kinds", .text "TABLE")]

def patchWidget : Request where
  method := "pATCH"
  resource := "widgets"
  rawId := some "1"
  body := .record [("name", .text "bolt")]
  user := some [("role", .text " clerk")]

def gatedDispatcher (rule : AccessRule) : Dispatcher where
  gate := ⟨some [rule], .text "role"⟩

theorem result_ne_forbidden_of_lists_patchWidget :
    let d := gatedDispatcher ⟨["clerk"], ["wid*"], ["get", "put"], ["table"]⟩
    Gate.ofEntries (some [clerkEntry]) (.text "role") = .ok d.gate ∧
      Method.patch.IsNamedBy patchWidget.method ∧
      patchWidget.ResolvesTo namedWidgetsWorld (some .table) ∧
      d.gate.roleOf patchWidget.user = .ok "clerk" ∧
      clerkEntry.Concerns "clerk" "widgets" .table ∧
      clerkEntry.ListsMethod Method.patch.verb.name ∧
      (d.dispatch patchWidget namedWidgetsWorld).result ≠ .error (.api .forbidden) := by
  intro d
  have hgate : Gate.ofEntries (some [clerkEntry]) (.text "role") = .ok d.gate := by rfl
  have hmethod : Method.patch.IsNamedBy patchWidget.method := by decide +kernel
  have hkind : patchWidget.ResolvesTo namedWidgetsWorld (some .table) := ⟨_, rfl, rfl⟩
  have hrole : d.gate.roleOf patchWidget.user = .ok "clerk" := by rfl
  have hconcerns : clerkEntry.Concerns "clerk" "widgets" .table := {
    role := ⟨_, rfl, "clerk", by simp, globMatches_iff.mp (by decide +kernel)⟩
    resource := ⟨_, rfl, "wid*", by decide, globMatches_iff.mp (by decide +kernel)⟩
    kind := ⟨_, rfl, "TABLE", by simp, globMatches_iff.mp (by decide +kernel)⟩ }
  have hlists : clerkEntry.ListsMethod Method.patch.verb.name :=
    ⟨_, rfl, "Put", by decide, by decide +kernel⟩
  exact ⟨hgate, hmethod, hkind, hrole, hconcerns, hlists,
    result_ne_forbidden_of_lists hgate hmethod hkind hrole (List.mem_singleton_self _) hconcerns
      hlists⟩

/-- A rule that names patch does not allow it. -/
theorem not_result_ne_forbidden_patchWidget :
    ¬ ∀ (d : Dispatcher) (request : Request) (w : World) (entries : List Record) (entry : Record)
      (roleField : Value) (role : String) (kind : Kind) (m : Method),
      Gate.ofEntries (some entries) roleField = .ok d.gate → m.IsNamedBy request.method →
      request.ResolvesTo w (some kind) → d.gate.roleOf request.user = .ok role →
      entry ∈ entries → entry.Concerns role request.resource kind → entry.ListsMethod m.name →
      (d.dispatch request w).result ≠ .error (.api .forbidden) := by
  intro hall
  let d := gatedDispatcher ⟨["*"], ["*"], ["patch"], ["*"]⟩
  have hkind : patchWidget.ResolvesTo namedWidgetsWorld (some .table) := ⟨_, rfl, rfl⟩
  have hstar : ∀ text : String, Glob.Fits "*".toList text.toList :=
    fun text => globMatches_iff.mp (globMatches_star text)
  have hconcerns : Record.Concerns [("methods", .list [.text "PATCH"])] "clerk" "widgets" .table :=
    { role := ⟨_, rfl, "*", by decide, hstar _⟩
      resource := ⟨_, rfl, "*", by decide, hstar _⟩
      kind := ⟨_, rfl, "*", by decide, hstar _⟩ }
  have hlists : Record.ListsMethod [("methods", .list [.text "PATCH"])] Method.patch.name :=
    ⟨_, rfl, "PATCH", by decide, by decide +kernel⟩
  have hverdict : (d.gate.verdict patchWidget.user patchWidget.resource
      (normalizeMethod patchWidget.method) (some .table)).toOption = some false := by
    decide +kernel
  have hdenied : d.Decides patchWidget .table false :=
    Gate.exists_decide_of_verdict (eq_ok_of_toOption_eq_some hverdict)
  exact hall d patchWidget namedWidgetsWorld _ _ (.text "role") "clerk" .table .patch (by rfl)
    (by decide +kernel) hkind (by rfl) (List.mem_singleton_self _) hconcerns hlists
    (Dispatcher.turnsAway_of_denied hkind hdenied).result

end TableGateway
