import TableGateway.Proofs.Service.Turn

/-!
# Who is logged in

What a client has seen tells who is logged in: the user of the last login that succeeded, if no
logout came after it. The session agrees with it from turn to turn as long as every user who is put
into a session is shown alike when the session comes back.
-/

namespace TableGateway

variable {s : Service} {session : Session} {shown : Option String} {r : HttpRequest} {w : World}

/-! ## What a client has seen -/

def shownAfter (shown : Option String) (r : HttpRequest) (response : HttpResponse) :
    Option String :=
  match r.routing with
  | .to .login => if response.status = 200 then some response.text else shown
  | .to .logout => none
  | _ => shown

def shownResponse : Option String → HttpResponse
  | some text => ⟨200, text, true⟩
  | none => .ofError 401 ApiError.notLoggedIn.message

namespace Service

structure Visit where
  request : HttpRequest
  session : Session
  world : World

def turn (s : Service) (visit : Visit) : Turn :=
  s.serve visit.session visit.request visit.world

def visits (s : Service) : Session → List (Circumstances × HttpRequest) → World → List Visit
  | _, [], _ => []
  | session, (circumstances, r) :: rest, w =>
    let visit : Visit := ⟨r, session, circumstances.apply w⟩
    visit :: s.visits (s.turn visit).session rest (s.turn visit).world

def sessionAfter (s : Service) : Session → List (Circumstances × HttpRequest) → World → Session
  | session, [], _ => session
  | session, (circumstances, r) :: rest, w =>
    let turn := s.serve session r (circumstances.apply w)
    s.sessionAfter turn.session rest turn.world

def lastShown (s : Service) (visits : List Visit) : Option String :=
  visits.foldl (fun shown visit => shownAfter shown visit.request (s.turn visit).response) none

/-- The visits of a run lead to the turns of the run. -/
theorem map_turn_visits (s : Service) (session : Session)
    (requests : List (Circumstances × HttpRequest)) (w : World) :
    (s.visits session requests w).map s.turn = s.serveAll session requests w := by
  induction requests generalizing session w with
  | nil => rfl
  | cons request rest ih => exact congrArg (_ :: ·) (ih _ _)

/-- A question for who is logged in, asked at the end, is answered from the session that is left. -/
theorem getLast?_serveAll_whoami (hr : r.routing = .to .whoami) (hmethod : r.method = "GET")
    (circumstances : Circumstances) (session : Session)
    (before : List (Circumstances × HttpRequest)) (w : World) :
    (s.serveAll session (before ++ [(circumstances, r)]) w).getLast?.map Turn.response =
      some (whoResponse (s.sessionAfter session before w)) := by
  induction before generalizing session w with
  | nil => exact congrArg some (response_of_whoami hr hmethod)
  | cons request rest ih =>
      have hne : ∀ session w, s.serveAll session (rest ++ [(circumstances, r)]) w ≠ [] := by
        intro session w
        cases rest <;> exact List.cons_ne_nil _ _
      rw [List.cons_append, serveAll, sessionAfter, List.getLast?_cons_of_ne_nil (hne _ _)]
      exact ih _ _

/-! ## Turns -/

/-- The session agrees with what the client has seen. -/
def Tracks (session : Session) (shown : Option String) : Prop :=
  whoResponse session = shownResponse shown

theorem tracks_none : Tracks none none :=
  rfl

theorem replyResponse_of_write? {user : Record} {text : String}
    (h : Json.write? (.record user) = some text) :
    (replyResponse ⟨.record user, 200⟩).value = ⟨200, text ++ "\n", true⟩ := by
  simp [replyResponse, HttpResponse.ofValue?, h]

theorem replyResponse_of_not_write? {user : Record} (h : Json.write? (.record user) = none) :
    (replyResponse ⟨.record user, 200⟩).value.status = 500 := by
  simp [replyResponse, HttpResponse.ofValue?, h, internalError, HttpResponse.ofError]

theorem status_shownResponse (shown : Option String) : (shownResponse shown).status ≠ 500 := by
  cases shown with
  | none => decide
  | some text => exact (by decide : 200 ≠ 500)

/-- After a login the session agrees with what was shown exactly if the user comes back as shown. -/
theorem tracks_of_enters (hr : r.routing = .to .login) (hlasts : s.sessions.Lasts) {user : Record}
    {left : Session} (h : s.Enters r w user left) :
    Tracks left (shownAfter shown r (replyResponse ⟨.record user, 200⟩).value) ↔
      (Value.record user).isLasting := by
  obtain ⟨kept, rfl, hkept⟩ := SessionKeeping.exists_of_keep? hlasts h.kept
  unfold Tracks shownAfter whoResponse
  rw [hr]
  dsimp only
  rcases kept_cases hkept with ⟨hlasting, text, htext, hagain⟩ |
    ⟨hlasting, ⟨htext, hagain⟩ | ⟨text, other, htext, hagain, hne⟩⟩
  · rw [replyResponse_of_write? htext, replyResponse_of_write? hagain]
    exact iff_of_true rfl hlasting
  · rw [hlasting]
    refine iff_of_false ?_ Bool.false_ne_true
    intro hsame
    have hstatus := congrArg HttpResponse.status hsame
    rw [replyResponse_of_not_write? hagain] at hstatus
    exact status_shownResponse _ hstatus.symm
  · rw [hlasting, replyResponse_of_write? htext, replyResponse_of_write? hagain]
    refine iff_of_false ?_ Bool.false_ne_true
    intro hsame
    exact hne ((String.append_left_inj "\n").mp (congrArg HttpResponse.text hsame))

/-- Every user whom a visit puts into the session is shown alike when the session comes back. -/
def EntersLasting (s : Service) (visit : Visit) : Prop :=
  visit.request.routing = .to .login →
    ∀ user left, s.Enters visit.request visit.world user left → (Value.record user).isLasting

theorem shownAfter_of_other {response : HttpResponse} (hlogin : r.routing ≠ .to .login)
    (hlogout : r.routing ≠ .to .logout) : shownAfter shown r response = shown := by
  unfold shownAfter
  split
  · exact absurd ‹_› hlogin
  · exact absurd ‹_› hlogout
  · rfl

theorem turnsTo_turn (hon : s.sessions.isOn) (visit : Visit) :
    s.TurnsTo visit.session visit.request visit.world (s.turn visit).response
      (s.turn visit).session :=
  turnsTo_serve hon visit.session visit.request visit.world

/-- A turn keeps session and client in agreement exactly if it puts no user into the session whom it
shows otherwise later. -/
theorem tracks_turn (hon : s.sessions.isOn) (hlasts : s.sessions.Lasts) (visit : Visit)
    (h : Tracks visit.session shown) :
    Tracks (s.turn visit).session (shownAfter shown visit.request (s.turn visit).response) ↔
      s.EntersLasting visit := by
  have hturn := turnsTo_turn hon visit
  unfold EntersLasting
  generalize (s.turn visit).response = response at hturn ⊢
  generalize (s.turn visit).session = left at hturn ⊢
  cases hturn with
  | @entered user left hr henters =>
      rw [tracks_of_enters hr hlasts henters]
      constructor
      · intro hlasting _ other _ hother
        cases henters.found.symm.trans hother.found
        exact hlasting
      · intro hall
        exact hall hr user left henters
  | failed hr hstatus hnone =>
      have hshown : shownAfter shown visit.request response = shown := by
        unfold shownAfter
        rw [hr]
        exact if_neg hstatus
      rw [hshown]
      exact iff_of_true h fun _ user left henters => absurd henters (hnone user left)
  | left hr =>
      have hshown : shownAfter shown visit.request response = none := by
        unfold shownAfter
        rw [hr]
      rw [hshown, hr]
      exact iff_of_true rfl nofun
  | stayed hlogin hlogout =>
      rw [shownAfter_of_other hlogin hlogout]
      exact iff_of_true h fun hr => absurd hr hlogin

/-! ## Runs -/

/-- A session agrees at every point of a run exactly if every user who entered comes back as shown.
-/
theorem forall_tracks_iff (hon : s.sessions.isOn) (hlasts : s.sessions.Lasts)
    (requests : List (Circumstances × HttpRequest)) (w : World) (h : Tracks session shown) :
    (∀ before, before <+: requests → Tracks (s.sessionAfter session before w)
      ((s.visits session before w).foldl
        (fun shown visit => shownAfter shown visit.request (s.turn visit).response) shown)) ↔
      ∀ visit ∈ s.visits session requests w, s.EntersLasting visit := by
  induction requests generalizing session shown w with
  | nil =>
      refine iff_of_true ?_ (by simp [visits])
      intro before hbefore
      rw [List.prefix_nil.mp hbefore]
      exact h
  | cons request rest ih =>
      obtain ⟨circumstances, r⟩ := request
      have hstep := tracks_turn hon hlasts ⟨r, session, circumstances.apply w⟩ h
      rw [visits, List.forall_mem_cons, ← hstep]
      -- A prefix of the run is empty, or goes on from where the first visit leaves the client.
      constructor
      · intro hall
        have hfirst := hall [(circumstances, r)] (List.prefix_append _ rest)
        refine ⟨hfirst, (ih _ hfirst).mp ?_⟩
        intro before hbefore
        exact hall ((circumstances, r) :: before) (List.cons_prefix_cons.mpr ⟨rfl, hbefore⟩)
      · rintro ⟨hfirst, hrest⟩ before hbefore
        rcases List.prefix_cons_iff.mp hbefore with rfl | ⟨tail, rfl, htail⟩
        · exact h
        · exact (ih _ hfirst).mpr hrest tail htail

/-- What every turn preserves holds of every session of a run. -/
theorem forall_mem_visits {P : Session → Prop}
    (hstep : ∀ visit : Visit, P visit.session → P (s.turn visit).session)
    {requests : List (Circumstances × HttpRequest)} (h : P session) :
    ∀ visit ∈ s.visits session requests w, P (s.turn visit).session := by
  induction requests generalizing session w with
  | nil => simp [visits]
  | cons request rest ih =>
      obtain ⟨circumstances, r⟩ := request
      have hfirst := hstep ⟨r, session, circumstances.apply w⟩ h
      rw [visits, List.forall_mem_cons]
      exact ⟨hfirst, ih hfirst⟩

def HidesColumn (column : String) (session : Session) : Prop :=
  ∀ user, session = some user → column ∉ user.names

/-- No turn brings the column of the password into a session. -/
theorem hidesColumn_turn (hon : s.sessions.isOn) (hlasts : s.sessions.Lasts) {field : String}
    (hfield : s.dispatcher.settings.passwordField = .text field) {visit : Visit}
    (h : HidesColumn field visit.session) : HidesColumn field (s.turn visit).session := by
  have hturn := turnsTo_turn hon visit
  generalize (s.turn visit).response = response at hturn
  generalize (s.turn visit).session = left at hturn ⊢
  cases hturn with
  | @entered found left hr henters =>
      obtain ⟨kept, rfl, hkept⟩ := SessionKeeping.exists_of_keep? hlasts henters.kept
      obtain ⟨row, hrow⟩ := exists_of_login henters.found
      intro user huser
      cases huser
      cases hrow
      rw [mem_names_of_kept hkept]
      exact notMem_names_publicUser hfield row
  | failed hr hstatus hnone => exact h
  | left hr => exact nofun
  | stayed hlogin hlogout => exact h

/-- A visit changes who is logged in only by a login that succeeds or by a logout. -/
def Undisturbed (s : Service) (visit : Visit) : Prop :=
  (s.turn visit).session ≠ visit.session →
    visit.request.routing = .to .logout ∨
      visit.request.routing = .to .login ∧ (s.turn visit).response.status = 200

/-- Where users come back as they were shown, only a login that succeeds and a logout change the
answer. -/
theorem undisturbed_of_entersLasting (hon : s.sessions.isOn) (hlasts : s.sessions.Lasts)
    {visit : Visit} (h : s.EntersLasting visit) : s.Undisturbed visit := by
  have hturn := turnsTo_turn hon visit
  unfold Undisturbed
  generalize (s.turn visit).response = response at hturn ⊢
  generalize (s.turn visit).session = left at hturn ⊢
  intro hchanged
  cases hturn with
  | @entered user left hr henters =>
      obtain ⟨kept, rfl, hkept⟩ := SessionKeeping.exists_of_keep? hlasts henters.kept
      have hlasting := h hr user _ henters
      rcases kept_cases hkept with ⟨-, text, htext, -⟩ | ⟨hnot, -⟩
      · exact Or.inr ⟨hr, by rw [replyResponse_of_write? htext]⟩
      · rw [hnot] at hlasting
        cases hlasting
  | failed hr hstatus hnone => exact absurd rfl hchanged
  | left hr => exact Or.inl hr
  | stayed hlogin hlogout => exact absurd rfl hchanged

/-! ## The session and its history -/

/-- A run keeps track of who is logged in: at every point of it the question is answered with the
user of the last login that succeeded, if no logout came after it; nothing else changes the answer,
and no answer has the column of the password. -/
structure KeepsTrack (s : Service) (requests : List (Circumstances × HttpRequest)) (w : World) :
    Prop where
  answered : ∀ before, before <+: requests → ∀ (circumstances : Circumstances) (r : HttpRequest),
    r.routing = .to .whoami → r.method = "GET" →
      (s.serveAll none (before ++ [(circumstances, r)]) w).getLast?.map Turn.response =
        some (shownResponse (s.lastShown (s.visits none before w)))
  undisturbed : ∀ visit ∈ s.visits none requests w, s.Undisturbed visit
  hidden : ∀ field, s.dispatcher.settings.passwordField = .text field →
    ∀ visit ∈ s.visits none requests w, HidesColumn field (s.turn visit).session

def whoamiRequest : HttpRequest where
  method := "GET"
  path := "/api/login"

/-- **The session and its history.** A run keeps track of who is logged in exactly if no login in it
finds a user with bytes or with a moment before the year one hundred. -/
theorem keepsTrack_iff (hon : s.sessions.isOn) (hlasts : s.sessions.Lasts)
    (requests : List (Circumstances × HttpRequest)) (w : World) :
    s.KeepsTrack requests w ↔ ∀ visit ∈ s.visits none requests w, s.EntersLasting visit := by
  have htracks := forall_tracks_iff hon hlasts requests w tracks_none
  constructor
  · intro h
    refine htracks.mp fun before hbefore => ?_
    have hanswer := h.answered before hbefore {} whoamiRequest (by decide +kernel) rfl
    rw [getLast?_serveAll_whoami (by decide +kernel) rfl] at hanswer
    exact Option.some.inj hanswer
  · intro h
    refine ⟨?_, ?_, ?_⟩
    · intro before hbefore circumstances r hr hmethod
      rw [getLast?_serveAll_whoami hr hmethod]
      exact congrArg some (htracks.mpr h before hbefore)
    · intro visit hvisit
      exact undisturbed_of_entersLasting hon hlasts (h visit hvisit)
    · intro field hfield
      exact forall_mem_visits (fun _ => hidesColumn_turn hon hlasts hfield) nofun

def sealedService : Service where
  dispatcher := { gate := ⟨none, .text "role"⟩, hasher := some ⟨"pepper", by decide⟩ }
  loginField := .text "email"
  sessions := ⟨.text "key", .null⟩

theorem lasts_sealedService : sealedService.sessions.Lasts := by
  have hseconds : sealedService.sessions.seconds?.all fun seconds => !decide (seconds ≤ -1) := by
    decide +kernel
  intro seconds h
  rw [h] at hseconds
  simpa using hseconds

def loginRequest : HttpRequest where
  method := "POST"
  path := "/api/login"
  contentType := "application/json"
  body := "\x7b\"email\":\"ada\",\"password\":\"secret\"\x7d".toList.map
    fun c => UInt8.ofNat c.toNat

def loginThatFinds (name : String) (value : Value) : Circumstances × HttpRequest :=
  ({ answers := [.done (.rows [[("id", .int 1), ("password", .text "stored"), (name, value)]])] },
    loginRequest)

def timelyRun : List (Circumstances × HttpRequest) :=
  [loginThatFinds "seen" (.moment ⟨⟨2024, 2, 29⟩, 23, 30, 0, 5, some (-3600)⟩),
    ({}, { method := "GET", path := "/api/health" }), ({}, loginRequest)]

theorem keepsTrack_timelyRun :
    sealedService.sessions.isOn ∧ sealedService.sessions.Lasts ∧
      (sealedService.serveAll none timelyRun {}).map (fun turn => turn.response.status) =
        [200, 200, 401] ∧
      sealedService.KeepsTrack timelyRun {} := by
  have hon : sealedService.sessions.isOn := by decide
  have hstatus : (sealedService.serveAll none timelyRun {}).map
      (fun turn => turn.response.status) = [200, 200, 401] := by
    decide +kernel
  have hlasting : (sealedService.visits none timelyRun {}).all fun visit =>
      match (sealedService.login visit.request visit.world).result with
      | .ok ⟨_, .enter user⟩ => (Value.record user).isLasting
      | _ => true := by
    decide +kernel
  refine ⟨hon, lasts_sealedService, hstatus, (keepsTrack_iff hon lasts_sealedService _ _).mpr ?_⟩
  intro visit hvisit _ user left henters
  have huser := List.all_eq_true.mp hlasting visit hvisit
  rw [henters.found] at huser
  exact huser

/-- A login fails as a whole if the user it finds holds bytes, but leaves a session with the user
behind. -/
theorem not_keepsTrack_picture :
    ¬ ∀ (s : Service) (requests : List (Circumstances × HttpRequest)) (w : World),
      s.sessions.isOn → s.sessions.Lasts → s.KeepsTrack requests w := by
  intro h
  let login := loginThatFinds "picture" (.bytes [255])
  let visit : Visit := ⟨loginRequest, none, login.1.apply {}⟩
  have htrack := h sealedService [login] {} (by decide) lasts_sealedService
  have hvisit : visit ∈ sealedService.visits none [login] {} := List.mem_cons_self
  have hstatus : (sealedService.turn visit).response.status = 500 := by decide +kernel
  have hentered : (sealedService.turn visit).session.isSome := by decide +kernel
  have hchanged : (sealedService.turn visit).session ≠ visit.session :=
    ne_of_apply_ne Option.isSome fun hsame => Bool.noConfusion (hentered.symm.trans hsame)
  rcases htrack.undisturbed visit hvisit hchanged with hlogout | ⟨-, hsuccess⟩
  · exact absurd hlogout (by decide +kernel)
  · exact absurd (hstatus.symm.trans hsuccess) (by decide)

end Service

end TableGateway
