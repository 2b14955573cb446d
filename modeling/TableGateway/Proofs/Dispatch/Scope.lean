import TableGateway.Proofs.Access.Gate
import TableGateway.Proofs.Dispatch.Statement
import TableGateway.Proofs.Dispatch.Submission

/-!
# The scope of writes

A dispatcher serves requests one after another while the schema, the clock and the answers of the
database change around it. Whatever they are, a statement that is no select is one that the request
it was made for may make: on a table, with the leave of the gate, and on one record at most.
-/

namespace TableGateway

def Verb.keyword : Verb → String
  | .get => "SELECT"
  | .post => "INSERT"
  | .put => "UPDATE"
  | .delete => "DELETE"

theorem Kind.verb?_eq_some {kind : Kind} {method : String} {verb : Verb}
    (h : kind.verb? method = some verb) : verb ∈ kind.verbs ∧ verb.name = method :=
  ⟨List.mem_of_find?_eq_some h, by simpa using List.find?_some h⟩

/-- A view is only read. -/
theorem Kind.eq_table_of_verb? {kind : Kind} {method : String} {verb : Verb}
    (h : kind.verb? method = some verb) (hverb : verb ≠ .get) : kind = .table := by
  cases kind with
  | table => rfl
  | view =>
      have hmem := (verb?_eq_some h).1
      exact absurd (List.mem_singleton.mp hmem) hverb

def Verb.methods : Verb → List String
  | .get => ["get"]
  | .post => ["post"]
  | .put => ["put", "patch"]
  | .delete => ["delete"]

/-- The methods that lead to a verb are its own name and, for changes, `patch`. -/
theorem Verb.mem_methods_of_name_eq {verb : Verb} {method : String}
    (h : verb.name = normalizeMethod method) : Text.lower method ∈ verb.methods := by
  unfold normalizeMethod at h
  by_cases hpatch : Text.lower method = "patch"
  · rw [if_pos hpatch] at h
    rw [hpatch]
    cases verb with
    | put => decide
    | _ => exact absurd h (by decide)
  · rw [if_neg hpatch] at h
    rw [← h]
    cases verb <;> decide

structure Statement.PicksRecord (s : Statement) (request : Request) : Prop where
  condition : " WHERE id = ?".toList <:+ s.sql.toList
  number : ∃ raw number, request.rawId = some raw ∧ Number.read? raw.toList = .ok (some number) ∧
    s.params.getLast? = some number.toValue

/-- An id is the number that the path spells. -/
theorem readId_eq_ok_some {rawId : Option String} {id : Value} (h : readId rawId = .ok (some id)) :
    ∃ raw number, rawId = some raw ∧ Number.read? raw.toList = .ok (some number) ∧
      id = number.toValue := by
  cases rawId with
  | none => cases h
  | some raw =>
      simp only [readId] at h
      cases hread : Number.read? raw.toList with
      | error e => simp [hread] at h
      | ok number =>
          simp only [hread, Except.ok.injEq, Option.map_eq_some_iff] at h
          obtain ⟨number, rfl, rfl⟩ := h
          exact ⟨raw, number, rfl, hread, rfl⟩

theorem condition_updateStatement (resource : String) (body : Record) (id : Value) :
    " WHERE id = ?".toList <:+ (updateStatement resource body id).sql.toList := by
  unfold updateStatement
  simp only [String.toList_append, List.append_assoc]
  exact ((List.suffix_append _ _).trans (List.suffix_append _ _)).trans
    ((List.suffix_append _ _).trans (List.suffix_append _ _))

theorem condition_deleteStatement (resource : String) (id : Value) :
    " WHERE id = ?".toList <:+ (deleteStatement resource id).sql.toList := by
  unfold deleteStatement
  simp only [String.toList_append, List.append_assoc]
  exact (List.suffix_append _ _).trans (List.suffix_append _ _)

variable {d : Dispatcher} {settings : ResourceSettings} {hasher : Option Hasher}
  {request : Request} {verb : Verb} {id : Option Value} {draft : Draft} {w : World} {s : Statement}

/-- A draft for a verb begins with the word for it. -/
theorem keyword_draft (h : request.draft settings hasher verb id = .ok draft) :
    draft.statement.keyword = verb.keyword := by
  cases Request.drafts_of_draft_eq_ok h with
  | select hread => exact keyword_selectStatement _ _ _ _
  | insert hid hoffers hstored => exact keyword_insertStatement _ _
  | update hoffers hstored => exact keyword_updateStatement _ _ _
  | delete => exact keyword_deleteStatement _ _

/-- A draft that changes or removes records is about the one that the path names. -/
theorem picksRecord_draft (hread : readId request.rawId = .ok id)
    (h : request.draft settings hasher verb id = .ok draft) (hverb : verb = .put ∨ verb = .delete) :
    draft.statement.PicksRecord request := by
  cases Request.drafts_of_draft_eq_ok h with
  | select hread => exact absurd hverb (by decide)
  | insert hid hoffers hstored => exact absurd hverb (by decide)
  | update hoffers hstored =>
      obtain ⟨raw, number, hraw, hnumber, rfl⟩ := readId_eq_ok_some hread
      exact ⟨condition_updateStatement _ _ _, raw, number, hraw, hnumber, List.getLast?_concat⟩
  | delete =>
      obtain ⟨raw, number, hraw, hnumber, rfl⟩ := readId_eq_ok_some hread
      exact ⟨condition_deleteStatement _ _, raw, number, hraw, hnumber, rfl⟩

/-- A request may have a statement run that is no select: its name is a table's, the gate permits
the call, the word is the one for the method, and a change or removal is about the record that the
path names. -/
structure Dispatcher.Sanctions (d : Dispatcher) (request : Request) (w : World) (s : Statement) :
    Prop where
  isTable : ∃ found, w.catalog.resolve w.schema.listing w.clock request.resource = .ok found ∧
    found.kind = some .table
  permitted : d.gate.Permits request.user request.resource (normalizeMethod request.method) .table
  method : ∃ verb : Verb, verb ≠ .get ∧ Text.lower request.method ∈ verb.methods ∧
    s.keyword = verb.keyword
  oneRecord : s.keyword = "UPDATE" ∨ s.keyword = "DELETE" → s.PicksRecord request

/-- Serving a request submits selects and statements that it may have run. -/
theorem sanctions_of_submitted (hs : .submitted s ∈ (d.dispatch request w).events) :
    s.keyword = "SELECT" ∨ d.Sanctions request w s := by
  obtain ⟨kind, verb, id, draft, ⟨hadmits, hread, hdraft, -⟩, rfl⟩ :=
    submitted_mem_dispatch_iff.mp hs
  have hkeyword := keyword_draft hdraft
  by_cases hget : verb = .get
  · subst hget
    exact Or.inl hkeyword
  · right
    have htable := Kind.eq_table_of_verb? hadmits.admitted hget
    subst htable
    have hname := (Kind.verb?_eq_some hadmits.admitted).2
    refine ⟨hadmits.resolved, Gate.decide_eq_ok_true_iff.mp hadmits.allowed,
      ⟨verb, hget, Verb.mem_methods_of_name_eq hname, hkeyword⟩, fun h => ?_⟩
    refine picksRecord_draft hread hdraft ?_
    rw [hkeyword] at h
    cases verb with
    | get => exact absurd rfl hget
    | post => exact absurd h (by decide)
    | put => exact Or.inl rfl
    | delete => exact Or.inr rfl

structure Served where
  request : Request
  met : World
  ending : Ending Reply

/-- What became of requests that were served in order, each in the world that the one before left,
changed by its circumstances. -/
def Dispatcher.history (d : Dispatcher) : List (Circumstances × Request) → World → List Served
  | [], _ => []
  | (circumstances, request) :: rest, w =>
    let ending := d.dispatch request (circumstances.apply w)
    ⟨request, circumstances.apply w, ending⟩ :: d.history rest ending.world

variable {requests : List (Circumstances × Request)}

/-- The history of a run has the endings of the run. -/
theorem Dispatcher.map_ending_history (d : Dispatcher) (requests : List (Circumstances × Request))
    (w : World) : (d.history requests w).map Served.ending = d.dispatchAll requests w := by
  induction requests generalizing w with
  | nil => rfl
  | cons first rest ih => exact congrArg (_ :: ·) (ih _)

/-- What holds of each single request holds of all requests of a run. -/
theorem Dispatcher.forall_mem_history {P : Served → Prop}
    (h : ∀ request met, P ⟨request, met, d.dispatch request met⟩) :
    ∀ served ∈ d.history requests w, P served := by
  -- Each request leaves another world for the next, so nothing is kept fixed but the dispatcher.
  induction requests generalizing w with
  | nil => simp [history]
  | cons first rest ih =>
      intro served hserved
      rcases List.mem_cons.mp hserved with rfl | hserved
      · exact h _ _
      · exact ih served hserved

/-- **Writes in scope.** In any run, whatever is submitted for a request is a select or a statement
that the request may have run in the world it met. -/
theorem sanctions_of_mem_history {served : Served} (hserved : served ∈ d.history requests w)
    (hs : .submitted s ∈ served.ending.events) :
    s.keyword = "SELECT" ∨ d.Sanctions served.request served.met s := by
  have hall : ∀ served ∈ d.history requests w, ∀ s, .submitted s ∈ served.ending.events →
      s.keyword = "SELECT" ∨ d.Sanctions served.request served.met s :=
    Dispatcher.forall_mem_history fun _ _ _ => sanctions_of_submitted
  exact hall served hserved s hs

def patchTwice : List (Circumstances × Request) :=
  let patch : Request := {
    method := "PATCH"
    resource := "widgets"
    rawId := some " 7"
    body := .record [("name", .text "bolt")]
    user := some [("role", .text "editor")] }
  [({ schema := some { views := ["widgets"] } }, patch),
    ({ schema := some { tables := ["widgets"] } }, patch)]

theorem sanctions_of_mem_history_patchTwice :
    let d : Dispatcher := { gate := ⟨some [⟨["editor"], ["wid*"], ["put"], ["*"]⟩], .text "role"⟩ }
    ∃ served ∈ d.history patchTwice {}, ∃ s : Statement,
      .submitted s ∈ served.ending.events ∧ s.keyword = "UPDATE" ∧
      (s.keyword = "SELECT" ∨ d.Sanctions served.request served.met s) := by
  intro d
  have hsubmitted : (d.history patchTwice {}).map (fun served =>
      (served.ending.events.filterMap Event.submitted?).map Statement.keyword) =
      [[], ["UPDATE"]] := by
    decide +kernel
  obtain ⟨served, hserved, hwords⟩ : ∃ served ∈ d.history patchTwice {},
      (served.ending.events.filterMap Event.submitted?).map Statement.keyword = ["UPDATE"] :=
    List.mem_map.mp (hsubmitted ▸ by simp)
  obtain ⟨s, hs, hkeyword⟩ := List.mem_map.mp (hwords ▸ List.mem_singleton_self _)
  have hmem := Event.mem_filterMap_submitted?_iff.mp hs
  exact ⟨served, hserved, s, hmem, hkeyword, sanctions_of_mem_history hserved hmem⟩

end TableGateway
