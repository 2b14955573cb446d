import TableGateway.Proofs.Action
import TableGateway.Proofs.Session
import TableGateway.Service.Serve

namespace TableGateway

variable {s : Service} {session : Session} {r : HttpRequest} {w : World}

/-! ## Routes -/

namespace Route

theorem exists_of_pick? {routes : List Route} {method : String} {endpoint : Endpoint}
    (h : pick? routes method = some (.to endpoint)) :
    ∃ route ∈ routes, method ∈ route.methods ∧ route.endpoint = endpoint := by
  unfold pick? at h
  split at h
  · split at h <;> cases h
  · obtain ⟨route, hroute, hendpoint⟩ := Option.map_eq_some_iff.mp h
    have hmethod := List.find?_some hroute
    exact ⟨route, List.mem_of_find?_eq_some hroute, by simpa using hmethod,
      Routing.to.inj hendpoint⟩

/-- Besides its own paths the service has none but those of resources and files. -/
theorem mem_ofParts_cases {parts : List String} {route : Route} (h : route ∈ ofParts parts) :
    route ∈ ofLogin ∨ route = ⟨reading, .health⟩ ∨ (∃ name id, route = ofResource name id) ∨
      route = ⟨reading, .asset⟩ := by
  unfold ofParts at h
  split at h
  · rename_i name
    rcases List.mem_append.mp h with h | h
    · split_ifs at h
      · exact Or.inl h
      · exact Or.inr (Or.inl (List.mem_singleton.mp h))
      · cases h
    · split_ifs at h
      · cases h
      · exact Or.inr (Or.inr (Or.inl ⟨name, none, List.mem_singleton.mp h⟩))
  · rename_i name id
    split_ifs at h
    · cases h
    · exact Or.inr (Or.inr (Or.inl ⟨name, some id, List.mem_singleton.mp h⟩))
  · split_ifs at h
    · exact Or.inr (Or.inr (Or.inr (List.mem_singleton.mp h)))
    · cases h
  · cases h

theorem methods_of_login {parts : List String} {route : Route} (h : route ∈ ofParts parts)
    (hendpoint : route.endpoint = .login) : route.methods = ["POST"] := by
  rcases mem_ofParts_cases h with h | rfl | ⟨name, id, rfl⟩ | rfl
  · simp only [ofLogin, List.mem_cons, List.not_mem_nil, or_false] at h
    rcases h with rfl | rfl | rfl
    · rfl
    · cases hendpoint
    · cases hendpoint
  · cases hendpoint
  · cases hendpoint
  · cases hendpoint

end Route

theorem HttpRequest.exists_route {endpoint : Endpoint} (h : r.routing = .to endpoint) :
    ∃ route ∈ Route.ofPath r.absolutePath.toList, r.method ∈ route.methods ∧
      route.endpoint = endpoint := by
  unfold routing at h
  dsimp only at h
  split at h
  · rename_i routing hpick
    rw [h] at hpick
    exact Route.exists_of_pick? hpick
  · split at h
    · cases h
    · split at h <;> cases h

theorem HttpRequest.method_of_login (h : r.routing = .to .login) : r.method = "POST" := by
  obtain ⟨route, hroute, hmethod, hendpoint⟩ := exists_route h
  rw [Route.methods_of_login hroute hendpoint] at hmethod
  exact List.mem_singleton.mp hmethod

/-! ## Responses -/

theorem ApiError.status_ne (e : ApiError) : e.status ≠ 200 := by
  unfold status
  split <;> decide

namespace Service

theorem status_failureResponse (r : HttpRequest) (f : Failure) :
    (failureResponse r f).value.status ≠ 200 := by
  unfold failureResponse
  split
  · rename_i e
    exact e.status_ne
  · exact (by decide : 404 ≠ 200)
  · exact (by decide : 500 ≠ 200)

def whoResponse : Session → HttpResponse
  | none => .ofError 401 ApiError.notLoggedIn.message
  | some user => (replyResponse ⟨.record user, 200⟩).value

/-! ## Logging in -/

structure Enters (s : Service) (r : HttpRequest) (w : World) (user : Record) (session : Session) :
    Prop where
  found : (s.login r w).result = .ok { reply := ⟨.record user, 200⟩, change := .enter user }
  kept : s.sessions.keep? user = some session

/-- A login that succeeds shows the user without the password and puts the same into the session. -/
theorem exists_of_login {handled : Handled} (h : (s.login r w).result = .ok handled) :
    ∃ row : Record, handled =
      { reply := ⟨.record (s.publicUser row), 200⟩, change := .enter (s.publicUser row) } := by
  unfold login at h
  obtain ⟨⟨name, password⟩, -, h⟩ := Action.result_bind_eq_ok_iff.mp h
  cases hhasher : s.dispatcher.hasher with
  | none =>
      simp only [hhasher] at h
      cases h
  | some hasher =>
      simp only [hhasher] at h
      obtain ⟨found, -, h⟩ := Action.result_bind_eq_ok_iff.mp h
      cases found with
      | none => cases h
      | some row => exact ⟨row, (Except.ok.inj h).symm⟩

theorem notMem_names_publicUser {field : String}
    (hfield : s.dispatcher.settings.passwordField = .text field) (row : Record) :
    field ∉ (s.publicUser row).names := by
  unfold publicUser
  rw [hfield]
  intro hmem
  obtain ⟨column, hcolumn, hname⟩ := List.mem_map.mp hmem
  simpa [hname] using (List.mem_filter.mp hcolumn).2

/-! ## Turns -/

theorem session_serve (s : Service) (session : Session) (r : HttpRequest) (w : World) :
    (s.serve session r w).session = (s.route session r w).session := by
  unfold serve
  dsimp only
  split <;> rfl

/-- A login is served as it is handled, since it cannot ask for no body. -/
theorem serve_of_login (hr : r.routing = .to .login) :
    s.serve session r w = s.serveAt session r .login w := by
  have hmethod : r.method ≠ "HEAD" := by
    rw [HttpRequest.method_of_login hr]
    decide
  unfold serve route
  rw [hr, if_neg hmethod]

theorem response_serve (hmethod : r.method ≠ "HEAD") :
    (s.serve session r w).response = (s.route session r w).response := by
  unfold serve
  dsimp only
  rw [if_neg hmethod]

/-- What a request leads to. A login that finds a user enters, even if its reply has no written
form; one that does not has no response of success. -/
inductive TurnsTo (s : Service) (session : Session) (r : HttpRequest) (w : World) :
    HttpResponse → Session → Prop
  | entered {user : Record} {left : Session} (hr : r.routing = .to .login)
    (h : s.Enters r w user left) :
    TurnsTo s session r w (replyResponse ⟨.record user, 200⟩).value left
  | failed {response : HttpResponse} (hr : r.routing = .to .login)
    (hstatus : response.status ≠ 200) (h : ∀ user left, ¬ s.Enters r w user left) :
    TurnsTo s session r w response session
  | left {response : HttpResponse} (hr : r.routing = .to .logout) :
    TurnsTo s session r w response none
  | stayed {response : HttpResponse} (hlogin : r.routing ≠ .to .login)
    (hlogout : r.routing ≠ .to .logout) : TurnsTo s session r w response session

/-- The session is set before the response is written, so it stays set if there is no written form.
-/
theorem turnsTo_of_login (hr : r.routing = .to .login) :
    s.TurnsTo session r w (s.serve session r w).response (s.serve session r w).session := by
  rw [serve_of_login hr]
  unfold serveAt
  dsimp only [handle]
  cases hresult : (s.login r w).result with
  | error f =>
      refine .failed hr (status_failureResponse r f) ?_
      rintro user left ⟨hfound, -⟩
      cases hresult.symm.trans hfound
  | ok handled =>
      obtain ⟨row, rfl⟩ := exists_of_login hresult
      dsimp only [finish]
      -- What the session can keep decides, not whether the reply can be written.
      cases hkeep : s.sessions.keep? (s.publicUser row) with
      | some left => exact .entered hr ⟨hresult, hkeep⟩
      | none =>
          refine .failed hr (by decide : (500 : Nat) ≠ 200) ?_
          rintro user left ⟨hfound, hkept⟩
          cases hresult.symm.trans hfound
          cases hkeep.symm.trans hkept

theorem session_of_logout (hon : s.sessions.isOn) (hr : r.routing = .to .logout) :
    (s.serve session r w).session = none := by
  rw [session_serve, route, hr]
  simp only [serveAt, handle, logout, hon, if_true]
  rfl

theorem change_of_health {handled : Handled} (h : (health w).result = .ok handled) :
    handled.change = .unchanged := by
  obtain ⟨answers, -, h⟩ := Action.result_bind_eq_ok_iff.mp h
  cases answers with
  | true =>
      cases h
      rfl
  | false =>
      obtain ⟨_, -, h⟩ := Action.result_bind_eq_ok_iff.mp h
      cases h
      rfl

theorem change_of_resource {handled : Handled} {name : String} {id : Option String}
    (h : (s.resource session r name id w).result = .ok handled) : handled.change = .unchanged := by
  obtain ⟨body, -, h⟩ := Action.result_bind_eq_ok_iff.mp h
  obtain ⟨reply, -, h⟩ := Action.result_bind_eq_ok_iff.mp h
  cases h
  rfl

/-- No endpoint but those of logging in and out touches the session. -/
theorem change_of_handle {endpoint : Endpoint} {handled : Handled} (hlogin : endpoint ≠ .login)
    (hlogout : endpoint ≠ .logout) (h : (s.handle session r endpoint w).result = .ok handled) :
    handled.change = .unchanged := by
  cases endpoint with
  | login => exact absurd rfl hlogin
  | logout => exact absurd rfl hlogout
  | whoami =>
      cases session with
      | none => cases h
      | some user =>
          cases h
          rfl
  | health => exact change_of_health h
  | resource name id => exact change_of_resource h
  | asset => cases h

/-- Every request but one to log in or out leaves the session as it was. -/
theorem session_of_other (hlogin : r.routing ≠ .to .login) (hlogout : r.routing ≠ .to .logout) :
    (s.serve session r w).session = session := by
  rw [session_serve, route]
  split
  · rename_i endpoint hr
    rw [hr] at hlogin hlogout
    simp only [serveAt]
    cases hresult : (s.handle session r endpoint w).result with
    | error f => rfl
    | ok handled =>
        have hchange := change_of_handle (fun h => hlogin (congrArg Routing.to h))
          (fun h => hlogout (congrArg Routing.to h)) hresult
        simp only [finish, hchange]
  all_goals rfl

/-- **What a turn does to a session.** -/
theorem turnsTo_serve (hon : s.sessions.isOn) (session : Session) (r : HttpRequest) (w : World) :
    s.TurnsTo session r w (s.serve session r w).response (s.serve session r w).session := by
  by_cases hlogin : r.routing = .to .login
  · exact turnsTo_of_login hlogin
  · by_cases hlogout : r.routing = .to .logout
    · rw [session_of_logout hon hlogout]
      exact .left hlogout
    · rw [session_of_other hlogin hlogout]
      exact .stayed hlogin hlogout

theorem response_of_whoami (hr : r.routing = .to .whoami) (hmethod : r.method = "GET") :
    (s.serve session r w).response = whoResponse session := by
  rw [response_serve (by rw [hmethod]; decide), route, hr]
  cases session <;> rfl

end Service

end TableGateway
