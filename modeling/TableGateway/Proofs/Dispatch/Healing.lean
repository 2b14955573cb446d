import TableGateway.Proofs.Dispatch.Scope

/-!
# Healing of a stale listing

A kept listing may name a table that is gone. Once the database refuses a statement the listing is
dropped, and the next request meets the schema as it is. A look-up of columns that fails says just
as much about the listing, but leaves it as it was.
-/

namespace TableGateway

variable {d : Dispatcher} {request : Request} {kind : Kind} {verb : Verb} {id : Option Value}
  {draft : Draft} {w : World}

/-! ## The catalog that a dispatch leaves -/

theorem Dispatcher.perform_of_draft (hread : readId request.rawId = .ok id)
    (hdraft : request.draft d.settings d.hasher verb id = .ok draft) (w : World) :
    (d.perform request verb w).world =
      ((Action.checkColumns d.settings request.resource draft >>= fun _ =>
        Action.submit draft.statement >>= fun outcome =>
          Action.ofExcept (Reply.ofOutcome verb id outcome)) w).world := by
  rw [perform, hread, Action.ofExcept_ok_bind, Action.logAll_bind, hdraft, Action.ofExcept_ok_bind]

theorem Dispatcher.world_of_submit (statement : Statement) (verb : Verb) (id : Option Value)
    (w : World) :
    ((Action.submit statement >>= fun outcome =>
      Action.ofExcept (Reply.ofOutcome verb id outcome)) w).world =
      (Action.submit statement w).world := by
  cases hresult : (Action.submit statement w).result with
  | ok outcome => rw [Action.bind_of_ok hresult, Action.ofExcept_apply]
  | error f => rw [Action.bind_of_error hresult]

/-- What is performed without its columns ends in the world it began in. -/
theorem Dispatcher.world_perform_of_not_columnsKnown (hread : readId request.rawId = .ok id)
    (hdraft : request.draft d.settings d.hasher verb id = .ok draft)
    (hunknown : ¬ draft.ColumnsKnown d.settings request.resource w.schema) :
    (d.perform request verb w).world = w := by
  rw [perform_of_draft hread hdraft]
  cases hresult : (Action.checkColumns d.settings request.resource draft w).result with
  | ok u => exact absurd (Draft.columnsKnown_iff.mpr hresult) hunknown
  | error f => rw [Action.bind_of_error hresult, Action.world_checkColumns]

theorem Dispatcher.world_perform_of_columnsKnown (hread : readId request.rawId = .ok id)
    (hdraft : request.draft d.settings d.hasher verb id = .ok draft)
    (hknown : draft.ColumnsKnown d.settings request.resource w.schema) :
    (d.perform request verb w).world = (Action.submit draft.statement w).world := by
  rw [perform_of_draft hread hdraft, Action.bind_of_ok (Draft.columnsKnown_iff.mp hknown),
    Action.world_checkColumns, world_of_submit]

theorem Action.catalog_submit (s : Statement) (w : World) :
    (Action.submit s w).world.catalog = w.catalog ∨
      (Action.submit s w).world.catalog = w.catalog.invalidate := by
  rw [submit_apply]
  split
  · exact Or.inl rfl
  · split
    · exact Or.inl rfl
    · exact Or.inr rfl
    · exact Or.inl rfl

/-- What is performed keeps the catalog or has it forget its listing. -/
theorem Dispatcher.catalog_perform (d : Dispatcher) (request : Request) (verb : Verb) (w : World) :
    (d.perform request verb w).world.catalog = w.catalog ∨
      (d.perform request verb w).world.catalog = w.catalog.invalidate := by
  cases hread : readId request.rawId with
  | error f => exact Or.inl (by rw [perform, hread, Action.ofExcept_error_bind])
  | ok id =>
      cases hdraft : request.draft d.settings d.hasher verb id with
      | error f =>
          left
          rw [perform, hread, Action.ofExcept_ok_bind, Action.logAll_bind, hdraft,
            Action.ofExcept_error_bind]
      | ok draft =>
          by_cases hknown : draft.ColumnsKnown d.settings request.resource w.schema
          · rw [world_perform_of_columnsKnown hread hdraft hknown]
            exact Action.catalog_submit draft.statement w
          · exact Or.inl (by rw [world_perform_of_not_columnsKnown hread hdraft hknown])

theorem Dispatcher.world_dispatch_of_admits (h : d.Admits request w kind verb) :
    ∃ found, w.catalog.Finds w.schema.listing w.clock request.resource found ∧
      found.kind = some kind ∧
      (d.dispatch request w).world =
        (d.perform request verb { w with catalog := found.catalog }).world := by
  obtain ⟨found, records, hresolve, hkind, hending⟩ := dispatch_of_admits h
  exact ⟨found, Catalog.finds_of_resolve_eq_ok hresolve, hkind, by rw [hending]⟩

/-- Serving a request does not change how long listings are kept. -/
theorem Dispatcher.lifetime_dispatch (d : Dispatcher) (request : Request) (w : World) :
    (d.dispatch request w).world.catalog.lifetime = w.catalog.lifetime := by
  have hfound : ∀ {found}, w.catalog.resolve w.schema.listing w.clock request.resource = .ok found →
      found.catalog.lifetime = w.catalog.lifetime :=
    fun hresolve => (Catalog.finds_of_resolve_eq_ok hresolve).lifetime_eq
  have hends := d.ends_dispatch request w
  generalize d.dispatch request w = ending at hends ⊢
  cases hends with
  | unresolved hresolve => rfl
  | unknown hresolve hkind | undecided hresolve hkind hdecide | denied hresolve hkind hdecide
  | illegal hresolve hkind hdecide hverb => exact hfound hresolve
  | @performed found kind records verb hresolve hkind hdecide hverb =>
      rcases d.catalog_perform request verb { w with catalog := found.catalog } with h | h
      · exact (congrArg Catalog.lifetime h).trans (hfound hresolve)
      · exact (congrArg Catalog.lifetime h).trans (hfound hresolve)

/-- The lifetime of a catalog is the same throughout a run. -/
theorem Dispatcher.lifetime_met {requests : List (Circumstances × Request)} {served : Served}
    (hserved : served ∈ d.history requests w) :
    served.met.catalog.lifetime = w.catalog.lifetime := by
  induction requests generalizing w with
  | nil => simp [history] at hserved
  | cons first rest ih =>
      rcases List.mem_cons.mp hserved with rfl | hserved
      · rfl
      · exact (ih hserved).trans (d.lifetime_dispatch first.2 (first.1.apply w))

/-! ## Failures -/

inductive Access
  | columns
  | statement
  deriving Repr, DecidableEq

/-- An admitted request fails where it asks the database: the columns to be looked up are those of a
table that is gone, or its statement is refused. -/
inductive Dispatcher.FailsAt (d : Dispatcher) (request : Request) (w : World) : Access → Prop
  | columns {kind : Kind} {verb : Verb} {id : Option Value} {draft : Draft} {names : List String}
    (hadmits : d.Admits request w kind verb) (hread : readId request.rawId = .ok id)
    (hdraft : request.draft d.settings d.hasher verb id = .ok draft)
    (hlookedUp : draft.lookedUp d.settings = some names)
    (hgone : w.schema.columns? request.resource = none) : FailsAt d request w .columns
  | statement {kind : Kind} {verb : Verb} {id : Option Value} {draft : Draft}
    {bound : BoundStatement} {e : DatabaseError} (hsubmits : d.Submits request w kind verb id draft)
    (hbound : draft.statement.bind? = some bound) (hrefused : w.answerTo bound = .refused e) :
    FailsAt d request w .statement

/-- No listing is kept, so whatever happens next, each name is looked up in the schema. -/
structure World.IsHealed (w : World) : Prop where
  dropped : w.catalog.kept = none
  live : ∀ (circumstances : Circumstances) (name : String),
    let met := circumstances.apply w
    ∃ found, met.catalog.resolve met.schema.listing met.clock name = .ok found ∧
      found.kind = met.schema.kind? name ∧ 0 < found.reads

theorem World.isHealed_iff : w.IsHealed ↔ w.catalog.kept = none := by
  refine ⟨IsHealed.dropped, fun h => ⟨h, fun circumstances name => ?_⟩⟩
  have hkept : (circumstances.apply w).catalog.kept = none := h
  obtain ⟨found, hresolve, hkind, hreads⟩ := Catalog.exists_resolve_of_kept_eq_none hkept
    (circumstances.apply w).schema.listing (circumstances.apply w).clock name
  exact ⟨found, hresolve, hkind.trans (Schema.kind?_listing _ _), hreads⟩

theorem kept_of_refused {bound : BoundStatement} {e : DatabaseError}
    (hsubmits : d.Submits request w kind verb id draft)
    (hbound : draft.statement.bind? = some bound) (hrefused : w.answerTo bound = .refused e) :
    (d.dispatch request w).world.catalog.kept = none := by
  obtain ⟨found, -, -, hworld⟩ := Dispatcher.world_dispatch_of_admits hsubmits.admits
  -- The catalog that the look-up left changes nothing for the statement.
  let met : World := { w with catalog := found.catalog }
  have hanswer : met.answerTo bound = .refused e := hrefused
  rw [hworld, Dispatcher.world_perform_of_columnsKnown (w := met) hsubmits.read hsubmits.drafted
    hsubmits.known, Action.submit_apply, hbound]
  simp only [hanswer]
  rfl

/-- After a failed look-up of columns the listing is still kept, and it still holds the name. -/
theorem exists_kept_of_gone {names : List String} (hlifetime : 0 < w.catalog.lifetime)
    (hadmits : d.Admits request w kind verb) (hread : readId request.rawId = .ok id)
    (hdraft : request.draft d.settings d.hasher verb id = .ok draft)
    (hlookedUp : draft.lookedUp d.settings = some names)
    (hgone : w.schema.columns? request.resource = none) :
    ∃ listing, (d.dispatch request w).world.catalog.kept = some listing ∧
      listing.kind? request.resource = some kind := by
  obtain ⟨found, hfinds, hkind, hworld⟩ := Dispatcher.world_dispatch_of_admits hadmits
  have hunknown : ¬ draft.ColumnsKnown d.settings request.resource w.schema := by
    intro hknown
    obtain ⟨known, hknown, -⟩ := hknown names hlookedUp
    rw [hgone] at hknown
    cases hknown
  rw [hworld]
  rw [Dispatcher.world_perform_of_not_columnsKnown (w := { w with catalog := found.catalog })
    hread hdraft hunknown]
  exact hfinds.exists_kept hlifetime hkind

variable {requests : List (Circumstances × Request)} {access : Access}

/-- **Healing.** In any run with a lifetime, a request that fails where it asks the database leaves
nothing kept, so that the next one meets the schema as it is, exactly if what failed is its
statement. -/
theorem isHealed_iff_of_failsAt (hlifetime : 0 < w.catalog.lifetime) {served : Served}
    (hserved : served ∈ d.history requests w)
    (hfails : d.FailsAt served.request served.met access) :
    served.ending.world.IsHealed ↔ access = .statement := by
  have hending : served.ending = d.dispatch served.request served.met :=
    Dispatcher.forall_mem_history (P := fun served =>
      served.ending = d.dispatch served.request served.met) (fun _ _ => rfl) served hserved
  rw [World.isHealed_iff, hending]
  cases hfails with
  | columns hadmits hread hdraft hlookedUp hgone =>
      rw [← Dispatcher.lifetime_met hserved] at hlifetime
      obtain ⟨listing, hkept, -⟩ :=
        exists_kept_of_gone hlifetime hadmits hread hdraft hlookedUp hgone
      simp [hkept]
  | statement hsubmits hbound hrefused =>
      simp [kept_of_refused hsubmits hbound hrefused]

def readWidgets : Request where
  method := "GET"
  resource := "widgets"

def widgetsThere : Circumstances where
  schema := some { tables := ["widgets"], columns := [("widgets", ["id", "name"])] }

def widgetsGone : Circumstances where
  schema := some {}
  answers := [.refused ⟨"OperationalError", "no such table: widgets", none⟩]

def minuteWorld : World where
  catalog := { lifetime := 60 }

def droppedWorld (strict : Bool) : World :=
  widgetsGone.apply
    ((openDispatcher strict).dispatch readWidgets (widgetsThere.apply minuteWorld)).world

/-- A table that was dropped is missed at the look-up of columns in strict mode, and else by the
database. -/
theorem failsAt_droppedWorld (strict : Bool) :
    (openDispatcher strict).FailsAt readWidgets (droppedWorld strict)
      (cond strict .columns .statement) := by
  have hlifetime : 0 < (droppedWorld strict).catalog.lifetime := by
    cases strict <;> decide +kernel
  have hkept : (droppedWorld strict).catalog.kept = some [("widgets", .table)] := by
    cases strict <;> decide +kernel
  have hfresh : (droppedWorld strict).catalog.isFresh (droppedWorld strict).clock = .ok true := by
    apply eq_ok_of_toOption_eq_some
    cases strict <;> decide +kernel
  have hadmits : (openDispatcher strict).Admits readWidgets (droppedWorld strict) .table .get :=
    ⟨⟨_, Catalog.resolve_of_kept hlifetime hkept hfresh (by decide) _, rfl⟩, ⟨[], rfl⟩, by decide⟩
  have hdraft : readWidgets.draft (openDispatcher strict).settings none .get none =
      .ok (.reading (openDispatcher strict).settings "widgets" {} none) := rfl
  cases strict with
  | true => exact .columns hadmits rfl hdraft rfl rfl
  | false =>
      obtain ⟨bound, hbound⟩ :
          ∃ bound, (selectStatement "REGEXP" "widgets" {} none).bind? = some bound := ⟨_, rfl⟩
      have hsubmits : (openDispatcher false).Submits readWidgets (droppedWorld false) .table .get
          none (.reading {} "widgets" {} none) :=
        ⟨hadmits, rfl, hdraft, fun names hnames => by cases hnames⟩
      exact .statement hsubmits hbound rfl

def droppedTable : List (Circumstances × Request) :=
  [(widgetsThere, readWidgets), (widgetsGone, readWidgets)]

theorem mem_history_droppedTable (strict : Bool) :
    ⟨readWidgets, droppedWorld strict,
      (openDispatcher strict).dispatch readWidgets (droppedWorld strict)⟩ ∈
      (openDispatcher strict).history droppedTable minuteWorld :=
  List.mem_cons_of_mem _ List.mem_cons_self

theorem isHealed_iff_of_failsAt_droppedTable :
    ∃ served ∈ (openDispatcher false).history droppedTable minuteWorld,
      (openDispatcher false).FailsAt served.request served.met .statement ∧
        served.ending.world.IsHealed := by
  have hserved := mem_history_droppedTable false
  have hfails := failsAt_droppedWorld false
  exact ⟨_, hserved, hfails,
    (isHealed_iff_of_failsAt (by decide +kernel) hserved hfails).mpr rfl⟩

theorem not_isHealed_droppedTable :
    ¬ ∀ (d : Dispatcher) (requests : List (Circumstances × Request)) (w : World) (served : Served)
      (access : Access), 0 < w.catalog.lifetime → served ∈ d.history requests w →
      d.FailsAt served.request served.met access → served.ending.world.IsHealed := by
  intro h
  have hhealed := h (openDispatcher true) droppedTable minuteWorld _ .columns (by decide +kernel)
    (mem_history_droppedTable true) (failsAt_droppedWorld true)
  have hkept : ((openDispatcher true).dispatch readWidgets (droppedWorld true)).world.catalog.kept =
      some [("widgets", .table)] := by
    decide +kernel
  cases hkept.symm.trans hhealed.dropped

end TableGateway
