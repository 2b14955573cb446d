import TableGateway.Proofs.Dispatch.Contract
import TableGateway.Proofs.Dispatch.Scope

/-!
# The order of stages

A request that is turned away for its name, by the gate or for its method has nothing looked up and
nothing run for it, and the rest of it is not read. Behind these stages at most one statement is
handed over, and once it is, only its own failure is left to happen.
-/

namespace TableGateway

/-! ## What an ending tells -/

def Event.consulted? : Event → Option (String × String × Kind)
  | .consulted resource method kind => some (resource, method, kind)
  | _ => none

def Ending.consultations {α : Type} (ending : Ending α) : List (String × String × Kind) :=
  ending.events.filterMap Event.consulted?

def Ending.submissions {α : Type} (ending : Ending α) : List Statement :=
  ending.events.filterMap Event.submitted?

def Request.ResolvesTo (request : Request) (w : World) (kind : Option Kind) : Prop :=
  ∃ found, w.catalog.resolve w.schema.listing w.clock request.resource = .ok found ∧
    found.kind = kind

def Dispatcher.Decides (d : Dispatcher) (request : Request) (kind : Kind) (allowed : Bool) : Prop :=
  ∃ records, d.gate.decide request.user request.resource (normalizeMethod request.method)
    (some kind) = .ok (allowed, records)

/-- A request is turned away: no column is looked up, no statement is handed over, and all would
have gone the same way with another id, query and body. -/
structure Dispatcher.TurnsAway (d : Dispatcher) (request : Request) (w : World) (e : ApiError) :
    Prop where
  result : (d.dispatch request w).result = .error (.api e)
  unread : ∀ name, .columnsRead name ∉ (d.dispatch request w).events
  unrun : (d.dispatch request w).submissions = []
  blind : ∀ (rawId : Option String) (query : String) (body : Value),
    d.dispatch { request with rawId := rawId, query := query, body := body } w =
      d.dispatch request w

/-- A select is answered with rows, unless it fails, as a database does. What a reading by id makes
of any other answer is `Failure.noRows`. -/
def World.AnswersSelect (w : World) (s : Statement) : Prop :=
  s.keyword = "SELECT" → ∀ bound, s.bind? = some bound →
    ∀ affected insertId, w.answerTo bound ≠ .done (.written affected insertId)

/-- A dispatch keeps to the order of its stages. -/
structure Dispatcher.IsOrderly (d : Dispatcher) (request : Request) (w : World) : Prop where
  unresolved : request.ResolvesTo w none →
    d.TurnsAway request w (.unknownResource request.resource) ∧
      (d.dispatch request w).consultations = []
  asked : ∀ kind, request.ResolvesTo w (some kind) →
    (d.dispatch request w).consultations =
      [(request.resource, normalizeMethod request.method, kind)]
  denied : ∀ kind, request.ResolvesTo w (some kind) → d.Decides request kind false →
    d.TurnsAway request w .forbidden
  illegal : ∀ kind, request.ResolvesTo w (some kind) → d.Decides request kind true →
    normalizeMethod request.method ∉ kind.verbs.map Verb.name →
    d.TurnsAway request w
      (.methodNotAllowed (normalizeMethod request.method) kind request.resource)
  atMostOne : (d.dispatch request w).submissions.length ≤ 1
  served : ∀ reply, (d.dispatch request w).result = .ok reply →
    (d.dispatch request w).submissions.length = 1
  failed : ∀ f, (d.dispatch request w).result = .error f →
    ∀ s ∈ (d.dispatch request w).submissions, w.AnswersSelect s →
      (Action.submit s w).result = .error f

variable {d : Dispatcher} {request : Request} {w : World} {kind : Kind} {verb : Verb}
  {s : Statement} {f : Failure} {reply : Reply}

/-! ## What is emitted -/

theorem Action.submissions_submit (s : Statement) (w : World) :
    (Action.submit s w).submissions = [s] := by
  rw [Ending.submissions, submit_apply]
  split
  · rfl
  · split <;> rfl

theorem Action.consultations_submit (s : Statement) (w : World) :
    (Action.submit s w).consultations = [] := by
  rw [Ending.consultations, submit_apply]
  split
  · rfl
  · split <;> rfl

section Selection

variable {γ : Type} {g : Event → Option γ} (hlogged : ∀ r, g (.logged r) = none)

include hlogged

theorem filterMap_logged (records : List LogRecord) :
    (records.map Event.logged).filterMap g = [] := by
  simp [List.filterMap_map, hlogged]

theorem Action.filterMap_readEvents (hlisted : g .listed = none) (listing : Listing) (reads : Nat) :
    (readEvents listing reads).filterMap g = [] := by
  refine List.filterMap_eq_nil_iff.mpr fun event hevent => ?_
  simp only [readEvents, List.mem_flatten, List.mem_replicate] at hevent
  obtain ⟨row, ⟨-, rfl⟩, hevent⟩ := hevent
  rcases List.mem_pair.mp hevent with rfl | rfl
  · exact hlisted
  · exact hlogged _

/-- Records of the log and the columns that were read aside, an admitted request emits what the
running of one statement does, or nothing. -/
theorem Dispatcher.filterMap_events_perform (hread : ∀ name, g (.columnsRead name) = none)
    (d : Dispatcher) (request : Request) (verb : Verb) (w : World) :
    (d.perform request verb w).events.filterMap g = [] ∨
      ∃ s, (d.perform request verb w).events.filterMap g =
        (Action.submit s w).events.filterMap g := by
  cases hid : readId request.rawId with
  | error f => exact Or.inl (by rw [perform, hid, Action.ofExcept_error_bind]; rfl)
  | ok id =>
      cases hdraft : request.draft d.settings d.hasher verb id with
      | error f =>
          left
          rw [perform, hid, Action.ofExcept_ok_bind, Action.logAll_bind, hdraft,
            Action.ofExcept_error_bind, List.filterMap_append, filterMap_logged hlogged]
          rfl
      | ok draft =>
          have hcheck : (Action.checkColumns d.settings request.resource draft w).events.filterMap g
              = [] := by
            refine List.filterMap_eq_nil_iff.mpr fun event hevent => ?_
            rw [Action.eq_columnsRead_of_mem_checkColumns hevent]
            exact hread _
          rw [perform, hid, Action.ofExcept_ok_bind, Action.logAll_bind, hdraft,
            Action.ofExcept_ok_bind, List.filterMap_append, filterMap_logged hlogged,
            List.nil_append]
          cases hchecked : (Action.checkColumns d.settings request.resource draft w).result with
          | error f =>
              rw [Action.bind_of_error hchecked]
              exact Or.inl hcheck
          | ok u =>
              right
              refine ⟨draft.statement, ?_⟩
              rw [Action.bind_of_ok hchecked, List.filterMap_append, hcheck, List.nil_append,
                Action.world_checkColumns]
              cases hrun : (Action.submit draft.statement w).result with
              | error f => rw [Action.bind_of_error hrun]
              | ok outcome => rw [Action.bind_of_ok hrun, Action.ofExcept_apply, List.append_nil]

end Selection

theorem Dispatcher.consultations_perform (d : Dispatcher) (request : Request) (verb : Verb)
    (w : World) : (d.perform request verb w).consultations = [] := by
  rcases filterMap_events_perform (g := Event.consulted?) (fun _ => rfl) (fun _ => rfl) d request
    verb w with h | ⟨s, h⟩
  · exact h
  · exact h.trans (Action.consultations_submit s w)

theorem Dispatcher.length_submissions_perform_le (d : Dispatcher) (request : Request) (verb : Verb)
    (w : World) : (d.perform request verb w).submissions.length ≤ 1 := by
  rcases filterMap_events_perform (g := Event.submitted?) (fun _ => rfl) (fun _ => rfl) d request
    verb w with h | ⟨s, h⟩
  · rw [Ending.submissions, h]
    exact Nat.zero_le 1
  · rw [Ending.submissions, h.trans (Action.submissions_submit s w)]
    exact Nat.le_refl 1

theorem Dispatcher.consultations_askEvents (request : Request) (listing : Listing) (reads : Nat)
    (kind : Kind) (records : List LogRecord) :
    (askEvents request listing reads kind records).filterMap Event.consulted? =
      [(request.resource, normalizeMethod request.method, kind)] := by
  rw [askEvents, List.filterMap_append, Action.filterMap_readEvents (fun _ => rfl) rfl,
    List.nil_append]
  exact congrArg (_ :: ·) (filterMap_logged (fun _ => rfl) records)

theorem Dispatcher.submissions_askEvents (request : Request) (listing : Listing) (reads : Nat)
    (kind : Kind) (records : List LogRecord) :
    (askEvents request listing reads kind records).filterMap Event.submitted? = [] := by
  rw [askEvents, List.filterMap_append, Action.filterMap_readEvents (fun _ => rfl) rfl,
    List.nil_append]
  exact filterMap_logged (fun _ => rfl) records

/-! ## What a dispatch emits -/

/-- The gate is asked once, about the method as it is compared. -/
theorem Dispatcher.consultations_dispatch (d : Dispatcher) (h : request.ResolvesTo w (some kind)) :
    (d.dispatch request w).consultations =
      [(request.resource, normalizeMethod request.method, kind)] := by
  obtain ⟨found, hresolve, hkind⟩ := h
  rw [Ending.consultations, dispatch_apply]
  simp only [hresolve, hkind]
  split
  · exact consultations_askEvents _ _ _ _ _
  · split
    · split
      · exact consultations_askEvents _ _ _ _ _
      · rename_i verb hverb
        have hperform := d.consultations_perform request verb { w with catalog := found.catalog }
        rw [List.filterMap_append, consultations_askEvents]
        exact congrArg ([_] ++ ·) hperform
    · exact consultations_askEvents _ _ _ _ _

/-- No dispatch hands over more than one statement. -/
theorem Dispatcher.length_submissions_dispatch_le (d : Dispatcher) (request : Request) (w : World) :
    (d.dispatch request w).submissions.length ≤ 1 := by
  have hends := d.ends_dispatch request w
  generalize d.dispatch request w = ending at hends ⊢
  rw [Ending.submissions]
  cases hends with
  | unresolved hresolve => exact Nat.zero_le 1
  | unknown hresolve hkind =>
      rw [Action.filterMap_readEvents (fun _ => rfl) rfl]
      exact Nat.zero_le 1
  | undecided hresolve hkind hdecide | denied hresolve hkind hdecide
  | illegal hresolve hkind hdecide hverb =>
      rw [submissions_askEvents]
      exact Nat.zero_le 1
  | @performed found kind records verb hresolve hkind hdecide hverb =>
      rw [List.filterMap_append, submissions_askEvents, List.nil_append]
      exact d.length_submissions_perform_le request verb { w with catalog := found.catalog }

/-! ## Requests that are turned away -/

theorem Dispatcher.turnsAway_of_ending {e : ApiError} (met : World) (events : List Event)
    (h : ∀ (rawId : Option String) (query : String) (body : Value),
      d.dispatch { request with rawId := rawId, query := query, body := body } w =
        ⟨.error (.api e), met, events⟩)
    (hunread : ∀ name, .columnsRead name ∉ events)
    (hunrun : events.filterMap Event.submitted? = []) : d.TurnsAway request w e := by
  have hself : d.dispatch request w = ⟨.error (.api e), met, events⟩ :=
    h request.rawId request.query request.body
  refine ⟨by rw [hself], ?_, ?_, fun rawId query body => (h rawId query body).trans hself.symm⟩
  · rw [hself]
    exact hunread
  · rw [Ending.submissions, hself]
    exact hunrun

theorem Action.columnsRead_notMem_readEvents (name : String) (listing : Listing) (reads : Nat) :
    .columnsRead name ∉ readEvents listing reads := by
  simp [readEvents, List.mem_flatten, List.mem_replicate]

theorem Dispatcher.columnsRead_notMem_askEvents (name : String) (request : Request)
    (listing : Listing) (reads : Nat) (kind : Kind) (records : List LogRecord) :
    .columnsRead name ∉ askEvents request listing reads kind records := by
  simp [askEvents, Action.columnsRead_notMem_readEvents]

/-- A name that is not there is turned away before the gate is asked. -/
theorem Dispatcher.turnsAway_of_unresolved (d : Dispatcher) (h : request.ResolvesTo w none) :
    d.TurnsAway request w (.unknownResource request.resource) ∧
      (d.dispatch request w).consultations = [] := by
  obtain ⟨found, hresolve, hkind⟩ := h
  constructor
  · refine turnsAway_of_ending { w with catalog := found.catalog }
      (Action.readEvents w.schema.listing found.reads) (fun rawId query body => ?_)
      (fun name => Action.columnsRead_notMem_readEvents name _ _)
      (Action.filterMap_readEvents (fun _ => rfl) rfl _ _)
    rw [dispatch_apply]
    simp only [hresolve, hkind]
  · rw [Ending.consultations, dispatch_apply]
    simp only [hresolve, hkind]
    exact Action.filterMap_readEvents (fun _ => rfl) rfl _ _

/-- Whom the gate denies is told nothing about methods. -/
theorem Dispatcher.turnsAway_of_denied (hkind : request.ResolvesTo w (some kind))
    (hdenied : d.Decides request kind false) : d.TurnsAway request w .forbidden := by
  obtain ⟨found, hresolve, hkind⟩ := hkind
  obtain ⟨records, hdecide⟩ := hdenied
  refine turnsAway_of_ending { w with catalog := found.catalog }
    (askEvents request w.schema.listing found.reads kind records)
    (fun rawId query body => ?_) (fun name => columnsRead_notMem_askEvents name _ _ _ _ _)
    (submissions_askEvents _ _ _ _ _)
  rw [dispatch_apply]
  simp only [hresolve, hkind, hdecide]
  rfl

theorem Kind.verb?_eq_none_iff {kind : Kind} {method : String} :
    kind.verb? method = none ↔ method ∉ kind.verbs.map Verb.name := by
  simp [verb?]

/-- The method counts only behind the gate. -/
theorem Dispatcher.turnsAway_of_illegal (hkind : request.ResolvesTo w (some kind))
    (hallowed : d.Decides request kind true)
    (hillegal : normalizeMethod request.method ∉ kind.verbs.map Verb.name) :
    d.TurnsAway request w
      (.methodNotAllowed (normalizeMethod request.method) kind request.resource) := by
  obtain ⟨found, hresolve, hkind⟩ := hkind
  obtain ⟨records, hdecide⟩ := hallowed
  have hverb := Kind.verb?_eq_none_iff.mpr hillegal
  refine turnsAway_of_ending { w with catalog := found.catalog }
    (askEvents request w.schema.listing found.reads kind records)
    (fun rawId query body => ?_) (fun name => columnsRead_notMem_askEvents name _ _ _ _ _)
    (submissions_askEvents _ _ _ _ _)
  rw [dispatch_apply]
  simp only [hresolve, hkind, hdecide, hverb, if_true]
  rfl

/-! ## Requests that reach the database -/

/-- No reply comes without a statement. -/
theorem Dispatcher.exists_submits_of_result_eq_ok (h : (d.dispatch request w).result = .ok reply) :
    ∃ kind verb id draft, d.Submits request w kind verb id draft := by
  have hends := d.ends_dispatch request w
  generalize d.dispatch request w = ending at h hends
  cases hends with
  | unresolved hresolve | unknown hresolve hkind | undecided hresolve hkind hdecide
  | denied hresolve hkind hdecide | illegal hresolve hkind hdecide hverb => cases h
  | @performed found kind records verb hresolve hkind hdecide hverb =>
      simp only [perform, Action.result_bind_eq_ok_iff, Action.ofExcept_apply] at h
      obtain ⟨id, hread, _, _, draft, hdraft, _, hchecked, -⟩ := h
      have hknown : draft.ColumnsKnown d.settings request.resource w.schema :=
        Draft.columnsKnown_iff (w := { w with catalog := found.catalog }).mpr hchecked
      exact ⟨kind, verb, id, draft, ⟨⟨found, hresolve, hkind⟩, ⟨records, hdecide⟩, hverb⟩,
        hread, hdraft, hknown⟩

theorem Dispatcher.length_submissions_of_result_eq_ok
    (h : (d.dispatch request w).result = .ok reply) :
    (d.dispatch request w).submissions.length = 1 := by
  obtain ⟨kind, verb, id, draft, hsubmits⟩ := exists_submits_of_result_eq_ok h
  have hs : draft.statement ∈ (d.dispatch request w).submissions :=
    Event.mem_filterMap_submitted?_iff.mpr
      (submitted_mem_dispatch_iff.mpr ⟨kind, verb, id, draft, hsubmits, rfl⟩)
  exact Nat.le_antisymm (d.length_submissions_dispatch_le request w)
    (List.length_pos_of_mem hs)

theorem Action.result_submit_catalog (s : Statement) (w : World) (catalog : Catalog) :
    (Action.submit s { w with catalog := catalog }).result = (Action.submit s w).result := by
  have hanswer : ∀ bound, World.answerTo { w with catalog := catalog } bound = w.answerTo bound :=
    fun _ => rfl
  rw [submit_apply, submit_apply]
  cases s.bind? with
  | none => rfl
  | some bound =>
      simp only [hanswer]
      cases w.answerTo bound <;> rfl

theorem Dispatcher.result_dispatch_of_admits (h : d.Admits request w kind verb) :
    ∃ catalog, (d.dispatch request w).result =
      (d.perform request verb { w with catalog := catalog }).result := by
  obtain ⟨found, records, -, -, hending⟩ := dispatch_of_admits h
  exact ⟨found.catalog, by rw [hending]⟩

/-- After a statement was handed over, it fails itself, or it is a select that was answered with a
write. -/
theorem result_submit_cases_of_result_eq_error (h : (d.dispatch request w).result = .error f)
    (hs : s ∈ (d.dispatch request w).submissions) :
    (Action.submit s w).result = .error f ∨
      f = .noRows ∧ s.keyword = "SELECT" ∧ ∃ bound affected insertId, s.bind? = some bound ∧
        w.answerTo bound = .done (.written affected insertId) := by
  obtain ⟨kind, verb, id, draft, ⟨hadmits, hread, hdraft, hknown⟩, rfl⟩ :=
    submitted_mem_dispatch_iff.mp (Event.mem_filterMap_submitted?_iff.mp hs)
  obtain ⟨catalog, hresult⟩ := Dispatcher.result_dispatch_of_admits hadmits
  rw [hresult, result_perform_eq_error_iff] at h
  rw [← Action.result_submit_catalog draft.statement w catalog]
  rcases h with hid | ⟨_, hid, h⟩
  · cases hread.symm.trans hid
  · cases hread.symm.trans hid
    rcases h with hmade | ⟨_, hmade, h⟩
    · cases hdraft.symm.trans hmade
    · cases hdraft.symm.trans hmade
      rcases h with hchecked | ⟨-, hfailed | ⟨outcome, hrun, hreply⟩⟩
      · have hfound : (Action.checkColumns d.settings request.resource draft
            { w with catalog := catalog }).result = .ok () :=
          Draft.columnsKnown_iff.mp hknown
        cases hfound.symm.trans hchecked
      · exact Or.inl hfailed
      -- The statement came to an outcome that is no answer to a reading by id.
      · obtain ⟨rfl, -, ⟨affected, insertId, rfl⟩, hf⟩ := ofOutcome_eq_error_iff.mp hreply
        obtain ⟨bound, hbound, hanswer⟩ := submit_eq_ok_iff.mp hrun
        exact Or.inr ⟨hf, keyword_draft hdraft, bound, affected, insertId, hbound, hanswer⟩

/-- Behind a hand-over no value is hashed. -/
theorem submissions_eq_nil_of_result_eq_unencodable {text : Text.HalvedText}
    (h : (d.dispatch request w).result = .error (.unencodable text)) :
    (d.dispatch request w).submissions = [] := by
  refine List.eq_nil_iff_forall_not_mem.mpr fun s hs => ?_
  rcases result_submit_cases_of_result_eq_error h hs with hfailed | ⟨hf, -⟩
  · rw [Action.submit_apply] at hfailed
    split at hfailed
    · cases hfailed
    · split at hfailed <;> cases hfailed
  · cases hf

theorem Dispatcher.result_submit_of_result_eq_error (hselect : w.AnswersSelect s)
    (h : (d.dispatch request w).result = .error f)
    (hs : s ∈ (d.dispatch request w).submissions) : (Action.submit s w).result = .error f := by
  rcases result_submit_cases_of_result_eq_error h hs with
    hfailed | ⟨-, hkeyword, bound, affected, insertId, hbound, hanswer⟩
  · exact hfailed
  · exact absurd hanswer (hselect hkeyword bound hbound affected insertId)

/-- **The order of stages.** A dispatch turns a request away for its name, then by the gate, then
for its method, each time without effect and without reading the rest of the request. It hands over
at most one statement, one for each reply, and fails behind it only as the statement does. -/
theorem isOrderly_dispatch (d : Dispatcher) (request : Request) (w : World) :
    d.IsOrderly request w where
  unresolved := d.turnsAway_of_unresolved
  asked := fun _ => d.consultations_dispatch
  denied := fun _ => Dispatcher.turnsAway_of_denied
  illegal := fun _ => Dispatcher.turnsAway_of_illegal
  atMostOne := d.length_submissions_dispatch_le request w
  served := fun _ => Dispatcher.length_submissions_of_result_eq_ok
  failed := fun _ hf _ hs hselect => Dispatcher.result_submit_of_result_eq_error hselect hf hs

def readWidget : Request where
  method := "Get"
  resource := "widgets"
  rawId := some "1"
  user := some [("role", .text "reader")]

theorem isOrderly_dispatch_readWidget :
    let d : Dispatcher := { gate := ⟨some [⟨["reader"], ["*"], ["get"], ["table"]⟩], .text "role"⟩ }
    let w : World := {
      schema := { tables := ["widgets"] }
      answers := [.done (.rows [[("id", .int 1), ("name", .text "bolt")]])] }
    (d.dispatch readWidget w).submissions.length = 1 ∧
      (∀ s ∈ (d.dispatch readWidget w).submissions, w.AnswersSelect s) ∧
      d.IsOrderly readWidget w := by
  intro d w
  have hserved : (d.dispatch readWidget w).submissions.length = 1 := by decide +kernel
  have hselect : ∀ s ∈ (d.dispatch readWidget w).submissions, w.AnswersSelect s := by
    intro s _ _ bound _ affected insertId
    simp [w, World.answerTo]
  exact ⟨hserved, hselect, isOrderly_dispatch d readWidget w⟩

end TableGateway
