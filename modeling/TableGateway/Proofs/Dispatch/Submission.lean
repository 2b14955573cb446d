import TableGateway.Proofs.Database.Catalog
import TableGateway.Proofs.Dispatch.Draft

/-!
# What a dispatch submits

A dispatch goes through its stages in order. `Dispatcher.Admits` says that a request passed the
first three, and `Dispatcher.Submits` that it reached the database; a statement is handed over
exactly if it is that of such a request.
-/

namespace TableGateway

/-! ## Columns -/

def Draft.lookedUp (draft : Draft) (settings : ResourceSettings) : Option (List String) :=
  if settings.strictColumns then draft.checked else none

def unknownColumns (known names : List String) : List String :=
  names.eraseDups.filter fun name => !known.contains name

def Draft.ColumnsKnown (draft : Draft) (settings : ResourceSettings) (resource : String)
    (schema : Schema) : Prop :=
  ∀ names, draft.lookedUp settings = some names →
    ∃ known, schema.columns? resource = some known ∧ ∀ name ∈ names, name ∈ known

theorem unknownColumns_eq_nil_iff {known names : List String} :
    unknownColumns known names = [] ↔ ∀ name ∈ names, name ∈ known := by
  simp [unknownColumns, List.filter_eq_nil_iff, List.mem_eraseDups]

/-- Looking up columns reads them once, and says which are missing. -/
theorem Action.checkColumns_apply (settings : ResourceSettings) (resource : String)
    (draft : Draft) (w : World) :
    Action.checkColumns settings resource draft w =
      match draft.lookedUp settings with
      | none => ⟨.ok (), w, []⟩
      | some names =>
        match w.schema.columns? resource with
        | none => ⟨.error (.noSuchTable resource), w, [.columnsRead resource]⟩
        | some known =>
          if unknownColumns known names = [] then ⟨.ok (), w, [.columnsRead resource]⟩
          else
            ⟨.error (.api (.unknownColumns resource (unknownColumns known names))), w,
              [.columnsRead resource]⟩ := by
  unfold checkColumns Draft.lookedUp
  cases settings.strictColumns with
  | false => rfl
  | true =>
      cases draft.checked with
      | none => rfl
      | some names =>
          simp only [if_true]
          cases hknown : w.schema.columns? resource with
          | none =>
              have hread : (columns resource w).result = .error (.noSuchTable resource) := by
                rw [columns_apply, hknown]
              rw [bind_of_error hread, columns_apply, hknown]
          | some known =>
              have hread : (columns resource w).result = .ok known := by
                rw [columns_apply, hknown]
              rw [bind_of_ok hread, columns_apply, hknown]
              dsimp only
              generalize hunknown : unknownColumns known names = unknown
              unfold unknownColumns at hunknown
              simp only [hunknown]
              cases unknown <;> rfl

/-- The look-up succeeds exactly if no column is missing. -/
theorem Draft.columnsKnown_iff {draft : Draft} {settings : ResourceSettings} {resource : String}
    {w : World} :
    draft.ColumnsKnown settings resource w.schema ↔
      (Action.checkColumns settings resource draft w).result = .ok () := by
  rw [Action.checkColumns_apply]
  unfold ColumnsKnown
  cases draft.lookedUp settings with
  | none => simp
  | some names =>
      cases w.schema.columns? resource with
      | none => simp
      | some known =>
          by_cases h : unknownColumns known names = []
          · simpa [h] using unknownColumns_eq_nil_iff.mp h
          · simpa [h] using fun hall => h (unknownColumns_eq_nil_iff.mpr hall)

/-! ## Statements -/

def Statement.runEvents (s : Statement) (bound : BoundStatement) : List Event :=
  [.submitted s, .logged s.runNotice, .executed bound]

/-- A statement without a value for each placeholder does not reach the database. -/
theorem Action.submit_apply (s : Statement) (w : World) :
    Action.submit s w =
      match s.bind? with
      | none =>
        ⟨.error (.unbalanced s.placeholderCount s.params.length), w, [.submitted s]⟩
      | some bound =>
        match w.answerTo bound with
        | .done outcome => ⟨.ok outcome, w.afterAnswer, s.runEvents bound⟩
        | .refused e =>
          ⟨.error (.api (.refused e.message)),
            { w.afterAnswer with catalog := w.catalog.invalidate },
            s.runEvents bound ++ [.logged e.refusalNotice]⟩
        | .broke text => ⟨.error (.breakdown text), w.afterAnswer, s.runEvents bound⟩ := by
  unfold submit
  rw [emit_bind]
  have hrun := runStatement_apply s w
  cases hbound : s.bind? with
  | none =>
      simp only [hbound] at hrun ⊢
      rw [rescue_of_error (by rw [hrun]), hrun]
      rfl
  | some bound =>
      simp only [hbound] at hrun ⊢
      cases hanswer : w.answerTo bound with
      | done outcome =>
          simp only [hanswer] at hrun ⊢
          rw [rescue_of_ok (by rw [hrun]), hrun]
          rfl
      | refused e | broke text =>
          simp only [hanswer] at hrun ⊢
          rw [rescue_of_error (by rw [hrun]), hrun]
          rfl

theorem Action.submitted_mem_submit_iff {s t : Statement} {w : World} :
    .submitted s ∈ (Action.submit t w).events ↔ s = t := by
  rw [submit_apply]
  cases t.bind? with
  | none => simp
  | some bound =>
      dsimp only
      cases w.answerTo bound <;> simp [Statement.runEvents]

/-! ## Stages -/

/-- The name of a request resolves to a kind, the gate allows the call, and the kind admits a verb
that the method names. -/
structure Dispatcher.Admits (d : Dispatcher) (request : Request) (w : World) (kind : Kind)
    (verb : Verb) : Prop where
  resolved : ∃ found, w.catalog.resolve w.schema.listing w.clock request.resource = .ok found ∧
    found.kind = some kind
  allowed : ∃ records, d.gate.decide request.user request.resource
    (normalizeMethod request.method) (some kind) = .ok (true, records)
  admitted : kind.verb? (normalizeMethod request.method) = some verb

theorem Dispatcher.admits_of_open {d : Dispatcher} {request : Request} {w : World} {kind : Kind}
    {verb : Verb} (hgate : d.gate.rules = none) (hlifetime : w.catalog.lifetime ≤ 0)
    (hkind : w.schema.listing.kind? request.resource = some kind)
    (hverb : kind.verb? (normalizeMethod request.method) = some verb) :
    d.Admits request w kind verb := by
  have hallowed : d.gate.decide request.user request.resource (normalizeMethod request.method)
      (some kind) = .ok (true, []) := by
    rw [Gate.decide, hgate]
    rfl
  exact ⟨⟨_, Catalog.resolve_of_lifetime_le hlifetime _ _ _, hkind⟩, ⟨[], hallowed⟩, hverb⟩

def openDispatcher (strict : Bool) : Dispatcher where
  gate := ⟨none, .text "role"⟩
  settings := { strictColumns := strict }

/-- An admitted request has its draft made, and all columns it needs are there. -/
structure Dispatcher.Submits (d : Dispatcher) (request : Request) (w : World) (kind : Kind)
    (verb : Verb) (id : Option Value) (draft : Draft) : Prop where
  admits : d.Admits request w kind verb
  read : readId request.rawId = .ok id
  drafted : request.draft d.settings d.hasher verb id = .ok draft
  known : draft.ColumnsKnown d.settings request.resource w.schema

variable {d : Dispatcher} {request : Request} {w : World} {s : Statement}

theorem Action.world_checkColumns (settings : ResourceSettings) (resource : String)
    (draft : Draft) (w : World) :
    (Action.checkColumns settings resource draft w).world = w := by
  rw [checkColumns_apply]
  split
  · rfl
  · split
    · rfl
    · split <;> rfl

theorem Action.eq_columnsRead_of_mem_checkColumns {settings : ResourceSettings} {resource : String}
    {draft : Draft} {event : Event}
    (h : event ∈ (Action.checkColumns settings resource draft w).events) :
    event = .columnsRead resource := by
  rw [checkColumns_apply] at h
  split at h
  · cases h
  · split at h
    · exact List.mem_singleton.mp h
    · split at h
      · exact List.mem_singleton.mp h
      · exact List.mem_singleton.mp h

theorem Action.submitted_notMem_checkColumns (settings : ResourceSettings) (resource : String)
    (draft : Draft) (w : World) (s : Statement) :
    .submitted s ∉ (Action.checkColumns settings resource draft w).events := by
  intro h
  cases eq_columnsRead_of_mem_checkColumns h

theorem submitted_mem_perform_iff {verb : Verb} :
    .submitted s ∈ (d.perform request verb w).events ↔
      ∃ id draft, readId request.rawId = .ok id ∧
        request.draft d.settings d.hasher verb id = .ok draft ∧
        draft.ColumnsKnown d.settings request.resource w.schema ∧ s = draft.statement := by
  have hunit : ∀ draft, (∃ u, (Action.checkColumns d.settings request.resource draft w).result =
      .ok u) ↔ draft.ColumnsKnown d.settings request.resource w.schema :=
    fun draft => ⟨fun ⟨(), h⟩ => Draft.columnsKnown_iff.mpr h,
      fun h => ⟨(), Draft.columnsKnown_iff.mp h⟩⟩
  simp only [Dispatcher.perform, Action.mem_events_bind_iff, Action.ofExcept_apply,
    Action.logAll_apply, Action.submitted_notMem_checkColumns, Action.submitted_mem_submit_iff,
    Action.world_checkColumns]
  simp [hunit]

theorem Action.submitted_notMem_readEvents (s : Statement) (listing : Listing) (reads : Nat) :
    .submitted s ∉ readEvents listing reads := by
  simp [readEvents, List.mem_flatten, List.mem_replicate]

def Dispatcher.askEvents (request : Request) (listing : Listing) (reads : Nat) (kind : Kind)
    (records : List LogRecord) : List Event :=
  Action.readEvents listing reads ++
    .consulted request.resource (normalizeMethod request.method) kind :: records.map .logged

/-- The stages of a dispatch, one outcome for each at which it may end. -/
theorem Dispatcher.dispatch_apply (d : Dispatcher) (request : Request) (w : World) :
    d.dispatch request w =
      match w.catalog.resolve w.schema.listing w.clock request.resource with
      | .error e => ⟨.error e, w, []⟩
      | .ok found =>
        let met := { w with catalog := found.catalog }
        match found.kind with
        | none =>
          ⟨.error (.api (.unknownResource request.resource)), met,
            Action.readEvents w.schema.listing found.reads⟩
        | some kind =>
          match d.gate.decide request.user request.resource (normalizeMethod request.method)
              (some kind) with
          | .error e => ⟨.error e, met, askEvents request w.schema.listing found.reads kind []⟩
          | .ok (allowed, records) =>
            let asked := askEvents request w.schema.listing found.reads kind records
            if allowed then
              match kind.verb? (normalizeMethod request.method) with
              | none =>
                ⟨.error (.api (.methodNotAllowed (normalizeMethod request.method) kind
                  request.resource)), met, asked⟩
              | some verb =>
                { d.perform request verb met with
                  events := asked ++ (d.perform request verb met).events }
            else ⟨.error (.api .forbidden), met, asked⟩ := by
  unfold dispatch
  have hresolve := Action.resolve_apply w request.resource
  cases hfound : w.catalog.resolve w.schema.listing w.clock request.resource with
  | error e =>
      simp only [hfound] at hresolve ⊢
      rw [Action.bind_of_error (by rw [hresolve]), hresolve]
  | ok found =>
      simp only [hfound] at hresolve ⊢
      rw [Action.bind_of_ok (by rw [hresolve]), hresolve]
      cases found.kind with
      | none => simp
      | some kind =>
          have hconsult := Action.consult_apply { w with catalog := found.catalog } d.gate
            request.user request.resource (normalizeMethod request.method) kind
          cases hdecide : d.gate.decide request.user request.resource
              (normalizeMethod request.method) (some kind) with
          | error e =>
              simp only [hdecide] at hconsult ⊢
              rw [Action.bind_of_error (by rw [hconsult]), hconsult]
              rfl
          | ok decision =>
              obtain ⟨allowed, records⟩ := decision
              simp only [hdecide] at hconsult ⊢
              rw [Action.bind_of_ok (by rw [hconsult]), hconsult]
              cases allowed with
              | false => simp [askEvents]
              | true =>
                  cases kind.verb? (normalizeMethod request.method) with
                  | none => simp [askEvents]
                  | some verb => simp [askEvents]

theorem Dispatcher.submitted_notMem_askEvents (s : Statement) (request : Request)
    (listing : Listing) (reads : Nat) (kind : Kind) (records : List LogRecord) :
    .submitted s ∉ askEvents request listing reads kind records := by
  simp [askEvents, Action.submitted_notMem_readEvents]

/-- How far a dispatch gets, and how it ends there. -/
inductive Dispatcher.Ends (d : Dispatcher) (request : Request) (w : World) : Ending Reply → Prop
  | unresolved {f : Failure}
    (hresolve : w.catalog.resolve w.schema.listing w.clock request.resource = .error f) :
    Ends d request w ⟨.error f, w, []⟩
  | unknown {found : Catalog.Resolution}
    (hresolve : w.catalog.resolve w.schema.listing w.clock request.resource = .ok found)
    (hkind : found.kind = none) :
    Ends d request w ⟨.error (.api (.unknownResource request.resource)),
      { w with catalog := found.catalog }, Action.readEvents w.schema.listing found.reads⟩
  | undecided {found : Catalog.Resolution} {kind : Kind} {f : Failure}
    (hresolve : w.catalog.resolve w.schema.listing w.clock request.resource = .ok found)
    (hkind : found.kind = some kind)
    (hdecide : d.gate.decide request.user request.resource (normalizeMethod request.method)
      (some kind) = .error f) :
    Ends d request w ⟨.error f, { w with catalog := found.catalog },
      askEvents request w.schema.listing found.reads kind []⟩
  | denied {found : Catalog.Resolution} {kind : Kind} {records : List LogRecord}
    (hresolve : w.catalog.resolve w.schema.listing w.clock request.resource = .ok found)
    (hkind : found.kind = some kind)
    (hdecide : d.gate.decide request.user request.resource (normalizeMethod request.method)
      (some kind) = .ok (false, records)) :
    Ends d request w ⟨.error (.api .forbidden), { w with catalog := found.catalog },
      askEvents request w.schema.listing found.reads kind records⟩
  | illegal {found : Catalog.Resolution} {kind : Kind} {records : List LogRecord}
    (hresolve : w.catalog.resolve w.schema.listing w.clock request.resource = .ok found)
    (hkind : found.kind = some kind)
    (hdecide : d.gate.decide request.user request.resource (normalizeMethod request.method)
      (some kind) = .ok (true, records))
    (hverb : kind.verb? (normalizeMethod request.method) = none) :
    Ends d request w
      ⟨.error (.api (.methodNotAllowed (normalizeMethod request.method) kind request.resource)),
        { w with catalog := found.catalog },
        askEvents request w.schema.listing found.reads kind records⟩
  | performed {found : Catalog.Resolution} {kind : Kind} {records : List LogRecord} {verb : Verb}
    (hresolve : w.catalog.resolve w.schema.listing w.clock request.resource = .ok found)
    (hkind : found.kind = some kind)
    (hdecide : d.gate.decide request.user request.resource (normalizeMethod request.method)
      (some kind) = .ok (true, records))
    (hverb : kind.verb? (normalizeMethod request.method) = some verb) :
    Ends d request w
      { d.perform request verb { w with catalog := found.catalog } with
        events := askEvents request w.schema.listing found.reads kind records ++
          (d.perform request verb { w with catalog := found.catalog }).events }

/-- A dispatch ends at the first stage that fails, and each stage emits its own events. -/
theorem Dispatcher.ends_dispatch (d : Dispatcher) (request : Request) (w : World) :
    d.Ends request w (d.dispatch request w) := by
  rw [dispatch_apply]
  split
  · rename_i f hresolve
    exact .unresolved hresolve
  · rename_i found hresolve
    dsimp only
    split
    · rename_i hkind
      exact .unknown hresolve hkind
    · rename_i kind hkind
      split
      · rename_i f hdecide
        exact .undecided hresolve hkind hdecide
      · rename_i allowed records hdecide
        cases allowed with
        | false => exact .denied hresolve hkind hdecide
        | true =>
            rw [if_pos rfl]
            split
            · rename_i hverb
              exact .illegal hresolve hkind hdecide hverb
            · rename_i verb hverb
              exact .performed hresolve hkind hdecide hverb

theorem Dispatcher.dispatch_of_admits {kind : Kind} {verb : Verb}
    (h : d.Admits request w kind verb) :
    ∃ found records, w.catalog.resolve w.schema.listing w.clock request.resource = .ok found ∧
      found.kind = some kind ∧ d.dispatch request w =
        { d.perform request verb { w with catalog := found.catalog } with
          events := askEvents request w.schema.listing found.reads kind records ++
            (d.perform request verb { w with catalog := found.catalog }).events } := by
  obtain ⟨⟨found, hresolve, hkind⟩, ⟨records, hdecide⟩, hverb⟩ := h
  refine ⟨found, records, hresolve, hkind, ?_⟩
  rw [dispatch_apply]
  simp only [hresolve, hkind, hdecide, hverb, if_true]

/-- **What is submitted.** A statement is handed over exactly if it is that of an admitted request
whose draft was made and whose columns are there. -/
theorem submitted_mem_dispatch_iff :
    .submitted s ∈ (d.dispatch request w).events ↔
      ∃ kind verb id draft, d.Submits request w kind verb id draft ∧ s = draft.statement := by
  constructor
  · intro h
    have hends := d.ends_dispatch request w
    generalize d.dispatch request w = ending at h hends
    cases hends with
    | unresolved hresolve => cases h
    | unknown hresolve hkind => exact absurd h (Action.submitted_notMem_readEvents _ _ _)
    | undecided hresolve hkind hdecide | denied hresolve hkind hdecide
    | illegal hresolve hkind hdecide hverb =>
        exact absurd h (Dispatcher.submitted_notMem_askEvents _ _ _ _ _ _)
    | performed hresolve hkind hdecide hverb =>
        have h := (List.mem_append.mp h).resolve_left
          (Dispatcher.submitted_notMem_askEvents _ _ _ _ _ _)
        obtain ⟨id, draft, hread, hdraft, hknown, hs⟩ := submitted_mem_perform_iff.mp h
        exact ⟨_, _, id, draft,
          ⟨⟨⟨_, hresolve, hkind⟩, ⟨_, hdecide⟩, hverb⟩, hread, hdraft, hknown⟩, hs⟩
  · rintro ⟨kind, verb, id, draft, ⟨hadmits, hread, hdraft, hknown⟩, hs⟩
    obtain ⟨found, records, -, -, hending⟩ := Dispatcher.dispatch_of_admits hadmits
    rw [hending]
    exact List.mem_append_right _
      (submitted_mem_perform_iff.mpr ⟨id, draft, hread, hdraft, hknown, hs⟩)

/-- A gate without rules and a dispatcher that looks up no columns have a new record inserted. -/
theorem submitted_insertStatement {body stored : Record} (hgate : d.gate.rules = none)
    (hlax : d.settings.strictColumns = false) (hlifetime : w.catalog.lifetime ≤ 0)
    (hkind : w.schema.listing.kind? request.resource = some .table)
    (hverb : Kind.table.verb? (normalizeMethod request.method) = some .post)
    (hid : request.rawId = none) (hoffers : request.Offers body)
    (hstored : hashPassword d.settings d.hasher request.resource body = .ok stored) :
    .submitted (insertStatement request.resource stored) ∈ (d.dispatch request w).events := by
  have hadmits := Dispatcher.admits_of_open hgate hlifetime hkind hverb
  have hdraft : request.draft d.settings d.hasher .post none =
      .ok (.inserting request.resource stored) :=
    (draftCreate_of_offers hid hoffers).trans (by rw [hstored]; rfl)
  have hknown : (Draft.inserting request.resource stored).ColumnsKnown d.settings request.resource
      w.schema := by
    simp [Draft.ColumnsKnown, Draft.lookedUp, hlax]
  exact submitted_mem_dispatch_iff.mpr
    ⟨.table, .post, none, _, ⟨hadmits, by rw [hid]; rfl, hdraft, hknown⟩, rfl⟩

end TableGateway
