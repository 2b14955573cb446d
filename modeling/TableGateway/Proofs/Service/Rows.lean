import TableGateway.Proofs.Json.RoundTrip
import TableGateway.Proofs.Service.Target

/-!
# Rows that are served

The rows that the database returns for an allowed reading reach the client one by one and column by
column. What stands in the way is only a value that has no form a client could read: bytes, a moment
outside the calendar in universal time, or an integer with too many digits.
-/

namespace TableGateway

variable {d : Dispatcher} {request : Request} {id : Option Value} {w : World} {rows : List Record}

/-- A reading is allowed, its id is read from the path, if there is one, and the database returns
rows for its statement. -/
structure Dispatcher.ReturnsRows (d : Dispatcher) (request : Request) (w : World)
    (id : Option Value) (rows : List Record) : Prop where
  returned : ∃ kind draft bound, d.Submits request w kind .get id draft ∧
    draft.statement.bind? = some bound ∧ w.answerTo bound = .done (.rows rows)

/-- Nothing happens to the rows of the database on the way to the reply. -/
theorem Dispatcher.result_dispatch_of_returnsRows (h : d.ReturnsRows request w id rows) :
    (d.dispatch request w).result = Reply.ofOutcome .get id (.rows rows) := by
  obtain ⟨kind, draft, bound, hsubmits, hbound, hanswer⟩ := h.returned
  obtain ⟨catalog, hresult⟩ := result_dispatch_of_admits hsubmits.admits
  -- The catalog that the look-up left changes nothing for the statement.
  let met : World := { w with catalog := catalog }
  have hsubmitted : (Action.submit draft.statement met).result = .ok (.rows rows) := by
    rw [Action.result_submit_catalog]
    exact submit_eq_ok_iff.mpr ⟨bound, hbound, hanswer⟩
  have hknown := Draft.columnsKnown_iff (w := met).mp hsubmits.known
  rw [hresult, perform, hsubmits.read, Action.ofExcept_ok_bind, Action.logAll_bind,
    hsubmits.drafted, Action.ofExcept_ok_bind, Action.bind_of_ok hknown,
    Action.world_checkColumns, Action.bind_of_ok hsubmitted, Action.ofExcept_apply]

structure HttpResponse.Carries (response : HttpResponse) (shown : Value) : Prop where
  status : response.status = 200
  isJson : response.isJson
  text : Json.read 2 response.text.toList = .ok shown

/-- All rows in their order for a reading without id, the first row for one by id, and null if there
is none. -/
def ServesRows (response : HttpResponse) : Option Value → List Record → Prop
  | none, rows => ∃ served, response.Carries (.list (served.map .record)) ∧
      List.Forall₂ Record.Shows rows served
  | some _, row :: _ => ∃ served, response.Carries (.record served) ∧ row.Shows served
  | some _, [] => response = ⟨404, "null\n", true⟩

def rowsToServe (id : Option Value) (rows : List Record) : List Record :=
  if id.isSome then rows.take 1 else rows

namespace Service

open Json

variable {s : Service} {session : Session} {r : HttpRequest} {name : String}
  {rawId : Option String}

/-- A reply carries its value exactly if the value has a written form. -/
theorem carries_replyResponse_iff {α : Type} {v : Value} {depth : Nat} {make : α → Value}
    {Shows : α → Prop} (hdepth : depth ≤ 2)
    (hreads : ∀ {written}, write? v = some written →
      ∃ shown, Reads depth (Text.points written.toList) (make shown) ∧ Shows shown) :
    (∃ shown, (replyResponse ⟨v, 200⟩).value.Carries (make shown) ∧ Shows shown) ↔
      (write? v).isSome := by
  cases hwrite : write? v with
  | none =>
      have hresponse : (replyResponse ⟨v, 200⟩).value = .ofError 500 "Internal Server Error" := by
        simp only [replyResponse, HttpResponse.ofValue?, hwrite, Option.map_none]
        rfl
      refine iff_of_false ?_ Bool.false_ne_true
      rintro ⟨shown, hcarries, -⟩
      have hstatus := hcarries.status
      rw [hresponse] at hstatus
      cases hstatus
  | some written =>
      have hresponse : (replyResponse ⟨v, 200⟩).value = ⟨200, written ++ "\n", true⟩ := by
        simp only [replyResponse, HttpResponse.ofValue?, hwrite, Option.map_some]
      obtain ⟨shown, hread, hshows⟩ := hreads hwrite
      have htext : Text.points (written ++ "\n").toList =
          Text.points written.toList ++ [.char '\n'] := by
        rw [String.toList_append, Text.points_append]
        rfl
      refine iff_of_true ⟨shown, ?_, hshows⟩ rfl
      rw [hresponse]
      refine ⟨rfl, rfl, ?_⟩
      rw [Json.read, htext]
      exact hread.readPoints_eq hdepth (.inr rfl)

/-- A reply carries its rows exactly if all of them can be written and read. -/
theorem servesRows_replyResponse_iff (hrows : ∀ row ∈ rows, row.IsRow) {reply : Reply}
    (h : Reply.ofOutcome .get id (.rows rows) = .ok reply) :
    ServesRows (replyResponse reply).value id rows ↔
      ∀ row ∈ rowsToServe id rows, row.IsServable := by
  cases id with
  | none =>
      obtain rfl := Except.ok.inj h
      exact (carries_replyResponse_iff (Nat.le_refl 2) (exists_reads_rows hrows)).trans
        (isSome_write?_rows_iff hrows)
  | some id =>
      cases rows with
      | nil =>
          obtain rfl := Except.ok.inj h
          exact iff_of_true rfl (List.forall_mem_nil _)
      | cons row rows =>
          obtain rfl := Except.ok.inj h
          have hrow := hrows row List.mem_cons_self
          have hfirst : (∀ row' ∈ rowsToServe (some id) (row :: rows), row'.IsServable) ↔
              row.IsServable :=
            List.forall_mem_singleton
          rw [hfirst, ← isSome_write?_record_iff hrow]
          exact carries_replyResponse_iff (by decide) (exists_reads_record hrow)

/-- A reading of a resource answers with the reply of its dispatch. -/
theorem response_of_dispatch {reply : Reply} (hr : r.routing = .to (.resource name rawId))
    (hmethod : r.method = "GET")
    (h : (s.dispatcher.dispatch (r.asked session name rawId .null) w).result = .ok reply) :
    (s.serve session r w).response = (replyResponse reply).value := by
  have hnohead : r.method ≠ "HEAD" := by
    rw [hmethod]
    decide
  have hbody : bodyOf r = .ok .null := by
    rw [bodyOf, hmethod]
    rfl
  have hhandled : (s.handle session r (.resource name rawId) w).result = .ok { reply } := by
    rw [handle, resource, hbody, Action.ofExcept_ok_bind]
    exact congrArg Ending.result (Action.bind_of_ok h)
  rw [response_serve hnohead, route, hr]
  simp only [serveAt, hhandled, finish]

/-- **Rows that are served.** -/
theorem servesRows_iff (hr : r.routing = .to (.resource name rawId)) (hmethod : r.method = "GET")
    (hreturns : s.dispatcher.ReturnsRows (r.asked session name rawId .null) w id rows)
    (hrows : ∀ row ∈ rows, row.IsRow) :
    ServesRows (s.serve session r w).response id rows ↔
      ∀ row ∈ rowsToServe id rows, row.IsServable := by
  have hdispatch := Dispatcher.result_dispatch_of_returnsRows hreturns
  cases hreply : Reply.ofOutcome .get id (.rows rows) with
  | error f =>
      obtain ⟨-, -, ⟨affected, insertId, hwritten⟩, -⟩ := ofOutcome_eq_error_iff.mp hreply
      cases hwritten
  | ok reply =>
      rw [response_of_dispatch hr hmethod (hdispatch.trans hreply)]
      exact servesRows_replyResponse_iff hrows hreply

def filesRequest : HttpRequest where
  method := "GET"
  path := "/api/files"

def filesWorld (rows : List Record) : World where
  schema := { tables := ["files"] }
  answers := [.done (.rows rows)]

theorem returnsRows_filesWorld (rows : List Record) :
    sealedService.dispatcher.ReturnsRows (filesRequest.asked none "files" none .null)
      (filesWorld rows) none rows := by
  have hadmits : sealedService.dispatcher.Admits (filesRequest.asked none "files" none .null)
      (filesWorld rows) .table .get :=
    Dispatcher.admits_of_open rfl (by decide : ({} : Catalog).lifetime ≤ 0) rfl (by decide)
  have hdraft : (filesRequest.asked none "files" none .null).draft
      sealedService.dispatcher.settings sealedService.dispatcher.hasher .get none =
        .ok ⟨⟨"SELECT * FROM files", []⟩, some []⟩ := rfl
  exact ⟨.table, _, ⟨_, _⟩, ⟨hadmits, rfl, hdraft, nofun⟩, rfl, rfl⟩

def plainFile : Record :=
  [("name", .text "Ада \"A\""), ("id", .int 7), ("made", .date ⟨2024, 2, 29⟩),
    ("price", .decimal (.finite false 150 (-2))), ("data", .null)]

theorem servesRows_plainFile :
    filesRequest.routing = .to (.resource "files" none) ∧ filesRequest.method = "GET" ∧
      sealedService.dispatcher.ReturnsRows (filesRequest.asked none "files" none .null)
        (filesWorld [plainFile]) none [plainFile] ∧
      (∀ row ∈ [plainFile], row.IsRow) ∧
      ServesRows (sealedService.serve none filesRequest (filesWorld [plainFile])).response none
        [plainFile] := by
  have hrouting : filesRequest.routing = .to (.resource "files" none) := by decide +kernel
  have hrows : ∀ row ∈ [plainFile], row.IsRow :=
    List.forall_mem_singleton.mpr ⟨by decide, by simp [plainFile, Value.IsScalar]⟩
  have hshort : (Nat.toDigits 10 (7 : Int).natAbs).length ≤ Number.maxDigits := by decide
  have hservable : ∀ row ∈ rowsToServe none [plainFile], row.IsServable :=
    List.forall_mem_singleton.mpr
      (by simpa [Record.IsServable, plainFile, Value.IsServable] using hshort)
  have hreturns := returnsRows_filesWorld [plainFile]
  exact ⟨hrouting, rfl, hreturns, hrows, (servesRows_iff hrouting rfl hreturns hrows).mpr hservable⟩

/-- A row that holds bytes is not served at all. -/
theorem not_servesRows_bytes :
    ¬ ∀ (s : Service) (session : Session) (r : HttpRequest) (w : World) (name : String)
      (rawId : Option String) (id : Option Value) (rows : List Record),
      r.routing = .to (.resource name rawId) → r.method = "GET" →
      s.dispatcher.ReturnsRows (r.asked session name rawId .null) w id rows →
      (∀ row ∈ rows, row.IsRow) → ServesRows (s.serve session r w).response id rows := by
  intro hall
  let rows : List Record := [[("id", .int 1), ("data", .bytes [])]]
  have hrows : ∀ row ∈ rows, row.IsRow :=
    List.forall_mem_singleton.mpr ⟨by decide, by simp [Value.IsScalar]⟩
  obtain ⟨served, hcarries, -⟩ := hall sealedService none filesRequest (filesWorld rows) "files"
    none none rows (by decide +kernel) rfl (returnsRows_filesWorld rows) hrows
  have hstatus : (sealedService.serve none filesRequest (filesWorld rows)).response.status =
      500 := by
    decide +kernel
  exact absurd (hcarries.status.symm.trans hstatus) (by decide)

end Service

end TableGateway
