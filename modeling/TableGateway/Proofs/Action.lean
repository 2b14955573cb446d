import TableGateway.Access.Gate
import TableGateway.Database.Run

namespace TableGateway

variable {α β : Type}

/-! ## Results -/

section Result

variable {ε : Type} {x : Except ε α} {f : α → Except ε β}

theorem eq_ok_of_toOption_eq_some {a : α} (h : x.toOption = some a) : x = .ok a := by
  cases x with
  | error e => cases h
  | ok a' => exact congrArg Except.ok (Option.some.inj h)

theorem bind_eq_ok_iff {b : β} : (x >>= f) = .ok b ↔ ∃ a, x = .ok a ∧ f a = .ok b := by
  cases x with
  | error e => simp [bind, Except.bind]
  | ok a => simp [bind, Except.bind]

end Result

def Failure.IsApi (f : Failure) : Prop :=
  ∃ e, f = .api e

@[simp]
theorem Failure.IsApi.api (e : ApiError) : (Failure.api e).IsApi :=
  ⟨e, rfl⟩

/-! ## Actions -/

namespace Action

section Compound

variable {x : Action α} {f : α → Action β} {w : World}

theorem bind_of_ok {a : α} (h : (x w).result = .ok a) :
    (x >>= f) w = { f a (x w).world with events := (x w).events ++ (f a (x w).world).events } := by
  change andThen x f w = _
  unfold andThen
  rcases hx : x w with ⟨result, world, events⟩
  rw [hx] at h
  subst h
  rfl

theorem bind_of_error {e : Failure} (h : (x w).result = .error e) :
    (x >>= f) w = ⟨.error e, (x w).world, (x w).events⟩ := by
  change andThen x f w = _
  unfold andThen
  rcases hx : x w with ⟨result, world, events⟩
  rw [hx] at h
  subst h
  rfl

theorem result_bind_eq_ok_iff {b : β} :
    ((x >>= f) w).result = .ok b ↔
      ∃ a, (x w).result = .ok a ∧ (f a (x w).world).result = .ok b := by
  cases h : (x w).result with
  | ok a => simp [bind_of_ok h]
  | error e => simp [bind_of_error h]

theorem result_bind_eq_error_iff {e : Failure} :
    ((x >>= f) w).result = .error e ↔
      (x w).result = .error e ∨
        ∃ a, (x w).result = .ok a ∧ (f a (x w).world).result = .error e := by
  cases h : (x w).result with
  | ok a => simp [bind_of_ok h]
  | error e => simp [bind_of_error h]

theorem mem_events_bind_iff {event : Event} :
    event ∈ ((x >>= f) w).events ↔
      event ∈ (x w).events ∨
        ∃ a, (x w).result = .ok a ∧ event ∈ (f a (x w).world).events := by
  cases h : (x w).result with
  | ok a => simp [bind_of_ok h]
  | error e => simp [bind_of_error h]

theorem bind_pure_apply (x : Action α) (g : α → β) (w : World) :
    (x >>= fun a => pure (g a)) w = ⟨(x w).result.map g, (x w).world, (x w).events⟩ := by
  cases h : (x w).result with
  | ok a =>
      rw [bind_of_ok h]
      exact congrArg (Ending.mk _ _) (List.append_nil _)
  | error e => rw [bind_of_error h]; rfl

theorem rescue_of_ok {handle : Failure → Action α} {a : α} (h : (x w).result = .ok a) :
    rescue x handle w = x w := by
  unfold rescue
  rcases hx : x w with ⟨result, world, events⟩
  rw [hx] at h
  subst h
  rfl

theorem rescue_of_error {handle : Failure → Action α} {e : Failure}
    (h : (x w).result = .error e) :
    rescue x handle w =
      { handle e (x w).world with
        events := (x w).events ++ (handle e (x w).world).events } := by
  unfold rescue
  rcases hx : x w with ⟨result, world, events⟩
  rw [hx] at h
  subst h
  rfl

end Compound

section Primitive

variable (w : World)

@[simp]
theorem pure_apply (a : α) : (pure a : Action α) w = ⟨.ok a, w, []⟩ := rfl

@[simp]
theorem fail_apply (e : Failure) : (fail e : Action α) w = ⟨.error e, w, []⟩ := rfl

@[simp]
theorem emit_apply (event : Event) : emit event w = ⟨.ok (), w, [event]⟩ := rfl

@[simp]
theorem logAll_apply (records : List LogRecord) :
    logAll records w = ⟨.ok (), w, records.map .logged⟩ := rfl

@[simp]
theorem getWorld_apply : getWorld w = ⟨.ok w, w, []⟩ := rfl

@[simp]
theorem modifyWorld_apply (f : World → World) : modifyWorld f w = ⟨.ok (), f w, []⟩ := rfl

@[simp]
theorem ofExcept_apply (r : Except Failure α) : ofExcept r w = ⟨r, w, []⟩ := by
  cases r <;> rfl

section Sequence

variable (f : Unit → Action β)

@[simp]
theorem getWorld_bind (f : World → Action β) : (getWorld >>= f) w = f w w := rfl

@[simp]
theorem modifyWorld_bind (g : World → World) : (modifyWorld g >>= f) w = f () (g w) := rfl

@[simp]
theorem emit_bind (event : Event) :
    (emit event >>= f) w = { f () w with events := event :: (f () w).events } := rfl

@[simp]
theorem logAll_bind (records : List LogRecord) :
    (logAll records >>= f) w =
      { f () w with events := records.map .logged ++ (f () w).events } := rfl

@[simp]
theorem ofExcept_ok_bind (a : α) (f : α → Action β) : (ofExcept (.ok a) >>= f) w = f a w := rfl

@[simp]
theorem ofExcept_error_bind (e : Failure) (f : α → Action β) :
    (ofExcept (.error e) >>= f) w = ⟨.error e, w, []⟩ := rfl

end Sequence

def readEvents (listing : Listing) (reads : Nat) : List Event :=
  (List.replicate reads [.listed, .logged (listingNotice listing)]).flatten

@[simp]
theorem noteReads_bind (listing : Listing) (reads : Nat) (f : Unit → Action β) :
    (noteReads listing reads >>= f) w =
      { f () w with events := readEvents listing reads ++ (f () w).events } := rfl

theorem resolve_apply (name : String) :
    resolve name w =
      match w.catalog.resolve w.schema.listing w.clock name with
      | .error e => ⟨.error e, w, []⟩
      | .ok found =>
        ⟨.ok found.kind, { w with catalog := found.catalog },
          readEvents w.schema.listing found.reads⟩ := by
  rw [resolve, getWorld_bind]
  cases w.catalog.resolve w.schema.listing w.clock name with
  | error e => rfl
  | ok found => simp

theorem listResources_apply :
    listResources w =
      match w.catalog.look w.schema.listing w.clock with
      | .error e => ⟨.error e, w, []⟩
      | .ok seen =>
        ⟨.ok seen.listing.sorted, { w with catalog := seen.catalog },
          readEvents w.schema.listing seen.reads⟩ := by
  rw [listResources, getWorld_bind]
  cases w.catalog.look w.schema.listing w.clock with
  | error e => rfl
  | ok seen => simp

theorem consult_apply (gate : Gate) (user : Option Record) (resource method : String)
    (kind : Kind) :
    consult gate user resource method kind w =
      match gate.decide user resource method (some kind) with
      | .error e => ⟨.error e, w, [.consulted resource method kind]⟩
      | .ok (allowed, records) =>
        ⟨.ok allowed, w, .consulted resource method kind :: records.map .logged⟩ := by
  rw [consult, emit_bind]
  cases gate.decide user resource method (some kind) with
  | error e => rfl
  | ok decision => simp

theorem columns_apply (name : String) :
    columns name w =
      match w.schema.columns? name with
      | some columns => ⟨.ok columns, w, [.columnsRead name]⟩
      | none => ⟨.error (.noSuchTable name), w, [.columnsRead name]⟩ := by
  rw [columns, emit_bind, getWorld_bind]
  cases w.schema.columns? name <;> rfl

end Primitive

end Action

/-! ## Running a statement -/

def World.answerTo (w : World) (s : BoundStatement) : Answer :=
  match w.answers with
  | [] => w.store.answer s
  | answer :: _ => answer

def World.afterAnswer (w : World) : World :=
  { w with answers := w.answers.tail }

def Statement.runNotice (s : Statement) : LogRecord :=
  ⟨.debug, .database,
    "SQL " ++ s.sql ++ " (" ++ Number.writeInt s.params.length ++ " params)"⟩

def DatabaseError.refusalNotice (e : DatabaseError) : LogRecord :=
  ⟨.warning, .database, "Statement failed: " ++ e.message⟩

namespace Action

theorem nextAnswer_apply (s : BoundStatement) (w : World) :
    nextAnswer s w = ⟨.ok (w.answerTo s), w.afterAnswer, [.executed s]⟩ := by
  rw [nextAnswer, emit_bind, getWorld_bind]
  rcases w with ⟨schema, answers, store, reachable, clock, catalog⟩
  cases answers <;> rfl

theorem runStatement_apply (s : Statement) (w : World) :
    runStatement s w =
      match s.bind? with
      | none => ⟨.error (.unbalanced s.placeholderCount s.params.length), w, []⟩
      | some bound =>
        match w.answerTo bound with
        | .done outcome => ⟨.ok outcome, w.afterAnswer, [.logged s.runNotice, .executed bound]⟩
        | .refused e =>
          ⟨.error (.query e.message), w.afterAnswer,
            [.logged s.runNotice, .executed bound, .logged e.refusalNotice]⟩
        | .broke text =>
          ⟨.error (.breakdown text), w.afterAnswer, [.logged s.runNotice, .executed bound]⟩ := by
  unfold runStatement
  cases s.bind? with
  | none => rfl
  | some bound =>
      have hanswer : (nextAnswer bound w).result = .ok (w.answerTo bound) := by
        rw [nextAnswer_apply]
      simp only [log, emit_bind, bind_of_ok hanswer, nextAnswer_apply]
      cases w.answerTo bound <;> simp [Statement.runNotice, DatabaseError.refusalNotice]

end Action

/-! ## Events -/

theorem Event.submitted?_eq_some_iff {e : Event} {s : Statement} :
    e.submitted? = some s ↔ e = .submitted s := by
  cases e <;> simp [submitted?]

theorem Event.mem_filterMap_submitted?_iff {events : List Event} {s : Statement} :
    s ∈ events.filterMap submitted? ↔ .submitted s ∈ events := by
  simp [List.mem_filterMap, submitted?_eq_some_iff]

end TableGateway
