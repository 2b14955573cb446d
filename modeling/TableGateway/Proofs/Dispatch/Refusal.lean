import Mathlib.Data.List.Forall2
import TableGateway.Proofs.Database.Report
import TableGateway.Proofs.Dispatch.Submission

/-!
# What a refusal tells of a statement

A database may name the statement in its refusal, behind a mark. Two refusals that agree up to such
a mark cannot be told apart: neither by their messages, nor by the replies and the log of whatever
run meets the one or the other.
-/

namespace TableGateway

open Text

/-- Two refusals of one kind read the same as far as a mark, or the server gives the same message
with both. -/
inductive DatabaseError.AgreesUpToMark (e e' : DatabaseError) : Prop
  | mark {mark : List Char} (hname : e.name = e'.name)
    (hmark : mark = statementMark ∨ mark = lineMark) (front back back' : List Char)
    (h : e.rawMessage.toList = front ++ (mark ++ back))
    (h' : e'.rawMessage.toList = front ++ (mark ++ back'))
  | primary {report report' : DriverReport} (hname : e.name = e'.name) (message : String)
    (hmessage : message ≠ "") (h : e.origin = some report) (h' : e'.origin = some report')
    (hprimary : report.primary = some (.text message))
    (hprimary' : report'.primary = some (.text message))

inductive Answer.Trades (e e' : DatabaseError) : Answer → Answer → Prop
  | same (answer : Answer) : Trades e e' answer answer
  | refused : Trades e e' (.refused e) (.refused e')

def World.Trades (e e' : DatabaseError) (w w' : World) : Prop :=
  ∃ answers, List.Forall₂ (Answer.Trades e e') w.answers answers ∧
    w' = { w with answers := answers }

def Circumstances.Trades (e e' : DatabaseError) (c c' : Circumstances) : Prop :=
  ∃ answers, List.Forall₂ (Answer.Trades e e') c.answers answers ∧
    c' = { c with answers := answers }

def VisitsTrade (e e' : DatabaseError) (visit visit' : Circumstances × Request) : Prop :=
  visit.1.Trades e e' visit'.1 ∧ visit.2 = visit'.2

/-- Two endings that cannot be told apart: one result, and one row of events with every record of
the log in it. -/
structure Ending.LooksAlike {α : Type} (e e' : DatabaseError) (x y : Ending α) : Prop where
  result : x.result = y.result
  events : x.events = y.events
  world : x.world.Trades e e' y.world

def Action.Conceals {α : Type} (e e' : DatabaseError) (x : Action α) : Prop :=
  ∀ w w', w.Trades e e' w' → (x w).LooksAlike e e' (x w')

/-- Whoever meets one refusal in the place of the other does not notice. -/
structure DatabaseError.TellsAlike (e e' : DatabaseError) : Prop where
  message : e.message = e'.message
  run : ∀ s, (Action.runStatement s).Conceals e e'
  dispatch : ∀ (d : Dispatcher) visits visits' w w', w.Trades e e' w' →
    List.Forall₂ (VisitsTrade e e') visits visits' →
    List.Forall₂ (Ending.LooksAlike e e') (d.dispatchAll visits w) (d.dispatchAll visits' w')

variable {e e' : DatabaseError} {w w' : World}

/-! ## Messages -/

theorem DatabaseError.rawMessage_of_primary {report : DriverReport} {message : String}
    (hmessage : message ≠ "") (h : e.origin = some report)
    (hprimary : report.primary = some (.text message)) : e.rawMessage = message := by
  rw [rawMessage, h]
  dsimp only
  rw [DriverReport.primaryText?, hprimary]
  simp [hmessage]

theorem DatabaseError.AgreesUpToMark.name_eq (h : e.AgreesUpToMark e') : e.name = e'.name := by
  cases h with
  | mark hname => exact hname
  | primary hname => exact hname

theorem DatabaseError.AgreesUpToMark.unmarked_eq (h : e.AgreesUpToMark e') :
    e.unmarked = e'.unmarked := by
  cases h with
  | mark hname hmark front back back' h h' =>
      rw [unmarked, unmarked, h, h', before_marks_append hmark, before_marks_append hmark]
  | primary hname message hmessage h h' hprimary hprimary' =>
      rw [unmarked, unmarked, rawMessage_of_primary hmessage h hprimary,
        rawMessage_of_primary hmessage h' hprimary']

theorem DatabaseError.AgreesUpToMark.message_eq (h : e.AgreesUpToMark e') :
    e.message = e'.message := by
  rw [← String.toList_inj, toList_message, toList_message, unlinked, unlinked, h.unmarked_eq,
    h.name_eq]

/-! ## Worlds -/

theorem World.Trades.answerTo (h : w.Trades e e' w') (s : BoundStatement) :
    Answer.Trades e e' (w.answerTo s) (w'.answerTo s) := by
  obtain ⟨answers, hanswers, rfl⟩ := h
  unfold World.answerTo
  generalize w.answers = waiting at hanswers ⊢
  cases hanswers with
  | nil => exact .same _
  | cons h _ => exact h

theorem World.Trades.afterAnswer (h : w.Trades e e' w') :
    w.afterAnswer.Trades e e' w'.afterAnswer := by
  obtain ⟨answers, hanswers, rfl⟩ := h
  refine ⟨answers.tail, ?_, rfl⟩
  generalize hwaiting : w.answers = waiting at hanswers
  rw [World.afterAnswer, hwaiting]
  cases hanswers with
  | nil => exact .nil
  | cons _ hrest => exact hrest

theorem Circumstances.Trades.apply {c c' : Circumstances} (hc : c.Trades e e' c')
    (h : w.Trades e e' w') : (c.apply w).Trades e e' (c'.apply w') := by
  obtain ⟨answers, hanswers, rfl⟩ := hc
  obtain ⟨waiting, -, rfl⟩ := h
  exact ⟨answers, hanswers, rfl⟩

/-! ## Actions -/

namespace Action

variable {α β : Type} {x : Action α} {f : α → Action β}

/-- A second action that conceals the trade after each result lets the whole conceal it. -/
theorem Conceals.bind (hx : x.Conceals e e') (hf : ∀ a, (f a).Conceals e e') :
    (x >>= f).Conceals e e' := by
  intro w w' h
  have hfirst := hx w w' h
  cases hresult : (x w).result with
  | ok a =>
      have hnext := hf a _ _ hfirst.world
      rw [bind_of_ok hresult, bind_of_ok (hfirst.result ▸ hresult)]
      exact ⟨hnext.result, congrArg₂ (· ++ ·) hfirst.events hnext.events, hnext.world⟩
  | error failure =>
      rw [bind_of_error hresult, bind_of_error (hfirst.result ▸ hresult)]
      exact ⟨rfl, hfirst.events, hfirst.world⟩

/-- Whoever handles a failure sees the same failure in both worlds. -/
theorem Conceals.rescue {handle : Failure → Action α} (hx : x.Conceals e e')
    (hhandle : ∀ failure, (handle failure).Conceals e e') : (rescue x handle).Conceals e e' := by
  intro w w' h
  have hfirst := hx w w' h
  cases hresult : (x w).result with
  | ok a =>
      rw [rescue_of_ok hresult, rescue_of_ok (hfirst.result ▸ hresult)]
      exact hfirst
  | error failure =>
      have hnext := hhandle failure _ _ hfirst.world
      rw [rescue_of_error hresult, rescue_of_error (hfirst.result ▸ hresult)]
      exact ⟨hnext.result, congrArg₂ (· ++ ·) hfirst.events hnext.events, hnext.world⟩

/-- An action that goes past the answers that wait conceals what they are. -/
theorem conceals_of_frame
    (h : ∀ w answers, x { w with answers := answers } =
      { x w with world := { (x w).world with answers := answers } }) : x.Conceals e e' := by
  rintro w w' ⟨answers, hanswers, rfl⟩
  have hkept : (x w).world.answers = w.answers :=
    congrArg (fun ending => ending.world.answers) (h w w.answers)
  rw [h w answers]
  exact ⟨rfl, rfl, answers, hkept ▸ hanswers, rfl⟩

theorem conceals_fail (failure : Failure) : (fail failure : Action α).Conceals e e' :=
  conceals_of_frame fun _ _ => rfl

theorem conceals_ofExcept (r : Except Failure α) : (ofExcept r).Conceals e e' :=
  conceals_of_frame fun w answers => by rw [ofExcept_apply, ofExcept_apply]

theorem conceals_resolve (name : String) : (resolve name).Conceals e e' := by
  refine conceals_of_frame fun w answers => ?_
  rw [resolve_apply, resolve_apply]
  dsimp only
  cases w.catalog.resolve w.schema.listing w.clock name <;> rfl

theorem conceals_consult (gate : Gate) (user : Option Record) (resource method : String)
    (kind : Kind) : (consult gate user resource method kind).Conceals e e' := by
  refine conceals_of_frame fun w answers => ?_
  rw [consult_apply, consult_apply]
  cases gate.decide user resource method (some kind) <;> rfl

theorem conceals_checkColumns (settings : ResourceSettings) (resource : String) (draft : Draft) :
    (checkColumns settings resource draft).Conceals e e' := by
  refine conceals_of_frame fun w answers => ?_
  rw [checkColumns_apply, checkColumns_apply]
  cases draft.lookedUp settings with
  | none => rfl
  | some names =>
      dsimp only
      cases w.schema.columns? resource with
      | none => rfl
      | some known =>
          dsimp only
          split <;> rfl

/-- A refusal shows in its message only, and the two messages are the same. -/
theorem conceals_runStatement (hmessage : e.message = e'.message) (s : Statement) :
    (runStatement s).Conceals e e' := by
  intro w w' h
  have hafter := h.afterAnswer
  rw [runStatement_apply, runStatement_apply]
  cases s.bind? with
  | none => exact ⟨rfl, rfl, h⟩
  | some bound =>
      have hanswer := h.answerTo bound
      dsimp only
      generalize w.answerTo bound = answer at hanswer ⊢
      generalize w'.answerTo bound = answer' at hanswer ⊢
      cases hanswer with
      | same => cases answer <;> exact ⟨rfl, rfl, hafter⟩
      | refused =>
          have hnotice : e.refusalNotice = e'.refusalNotice := by
            rw [DatabaseError.refusalNotice, hmessage, ← DatabaseError.refusalNotice]
          dsimp only
          rw [hmessage, hnotice]
          exact ⟨rfl, rfl, hafter⟩

theorem conceals_submit (hmessage : e.message = e'.message) (s : Statement) :
    (submit s).Conceals e e' := by
  refine (conceals_of_frame fun _ _ => rfl).bind fun _ => ?_
  refine (conceals_runStatement hmessage s).rescue fun failure => ?_
  split
  · exact (conceals_of_frame fun _ _ => rfl).bind fun _ => conceals_fail _
  · exact conceals_fail _

end Action

/-! ## Dispatch -/

theorem Dispatcher.conceals_perform (hmessage : e.message = e'.message) (d : Dispatcher)
    (request : Request) (verb : Verb) : (d.perform request verb).Conceals e e' := by
  refine (Action.conceals_ofExcept _).bind fun id => ?_
  refine (Action.conceals_of_frame fun _ _ => rfl).bind fun _ => ?_
  refine (Action.conceals_ofExcept _).bind fun draft => ?_
  refine (Action.conceals_checkColumns _ _ draft).bind fun _ => ?_
  refine (Action.conceals_submit hmessage draft.statement).bind fun outcome => ?_
  exact Action.conceals_ofExcept _

/-- Each stage of a dispatch conceals the trade, so the dispatch does. -/
theorem Dispatcher.conceals_dispatch (hmessage : e.message = e'.message) (d : Dispatcher)
    (request : Request) : (d.dispatch request).Conceals e e' := by
  refine (Action.conceals_resolve request.resource).bind fun kind => ?_
  cases kind with
  | none => exact Action.conceals_fail _
  | some kind =>
      refine (Action.conceals_consult _ _ _ _ kind).bind fun allowed => ?_
      cases allowed with
      | false => exact Action.conceals_fail _
      | true =>
          cases kind.verb? (normalizeMethod request.method) with
          | none => exact Action.conceals_fail _
          | some verb => exact d.conceals_perform hmessage request verb

/-- A run looks alike request by request, as each leaves worlds behind that trade refusals. -/
theorem Dispatcher.looksAlike_dispatchAll (hmessage : e.message = e'.message) (d : Dispatcher)
    {visits visits' : List (Circumstances × Request)}
    (hvisits : List.Forall₂ (VisitsTrade e e') visits visits') (h : w.Trades e e' w') :
    List.Forall₂ (Ending.LooksAlike e e') (d.dispatchAll visits w) (d.dispatchAll visits' w') := by
  induction hvisits generalizing w w' with
  | nil => exact .nil
  | @cons visit visit' visits visits' hvisit _ ih =>
      obtain ⟨circumstances, request⟩ := visit
      obtain ⟨circumstances', request'⟩ := visit'
      obtain ⟨hcircumstances, rfl⟩ := hvisit
      have hfirst := d.conceals_dispatch hmessage request _ _ (hcircumstances.apply h)
      exact .cons hfirst (ih hfirst.world)

/-- **What a refusal tells of a statement.** Refusals that agree up to a mark of a statement, or in
the message of the server, have the same message, and no run of statements or requests that meets
the one can be told from a run that meets the other. -/
theorem tellsAlike_of_agreesUpToMark (h : e.AgreesUpToMark e') : e.TellsAlike e' where
  message := h.message_eq
  run := Action.conceals_runStatement h.message_eq
  dispatch := fun d _ _ _ _ hw hvisits => d.looksAlike_dispatchAll h.message_eq hvisits hw

def duplicateKey (statement : String) : DatabaseError where
  name := "IntegrityError"
  text := "duplicate key"
  origin := some ⟨"duplicate key \nLINE 1: " ++ statement ++ "[SQL: " ++ statement ++ "]", none⟩

theorem tellsAlike_of_agreesUpToMark_duplicateKey :
    (duplicateKey "INSERT").AgreesUpToMark (duplicateKey "UPDATE [SQL: x]") ∧
      (duplicateKey "INSERT").TellsAlike (duplicateKey "UPDATE [SQL: x]") := by
  have hagrees : (duplicateKey "INSERT").AgreesUpToMark (duplicateKey "UPDATE [SQL: x]") :=
    .mark rfl (.inr rfl) "duplicate key ".toList "1: INSERT[SQL: INSERT]".toList
      "1: UPDATE [SQL: x][SQL: UPDATE [SQL: x]]".toList (by decide) (by decide)
  exact ⟨hagrees, tellsAlike_of_agreesUpToMark hagrees⟩

end TableGateway
