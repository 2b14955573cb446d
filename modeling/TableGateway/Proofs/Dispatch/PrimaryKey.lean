import TableGateway.Proofs.Credentials
import TableGateway.Proofs.Text.Blank

/-!
# The column of the primary key

The database gives each new record its id, and a change never gives it another. A body is searched
for the id under one spelling, though, and a database takes other spellings for the same column.
These are all of them that can be the name of a column in a body.
-/

namespace TableGateway

open Text

def otherIdSpellings : List String :=
  ["Id", "iD", "ID", "id\n", "Id\n", "iD\n", "ID\n"]

theorem toNat_toLower (c : Char) :
    c.toLower.toNat = if 65 ≤ c.toNat ∧ c.toNat ≤ 90 then c.toNat + 32 else c.toNat := by
  unfold Char.toLower
  split
  · rename_i h
    have hlow : 65 ≤ c.toNat := UInt32.le_iff_toNat_le.mp h.1
    have hhigh : c.toNat ≤ 90 := UInt32.le_iff_toNat_le.mp h.2
    rw [if_pos ⟨hlow, hhigh⟩]
    change (c.val + 32).toNat = c.toNat + 32
    rw [UInt32.toNat_add]
    change (c.toNat + 32) % 4294967296 = c.toNat + 32
    omega
  · rename_i h
    rw [if_neg fun hbounds =>
      h ⟨UInt32.le_iff_toNat_le.mpr hbounds.1, UInt32.le_iff_toNat_le.mpr hbounds.2⟩]

theorem eq_or_eq_of_toLower_eq {c lower upper : Char} (hupper : upper.toNat + 32 = lower.toNat)
    (h : c.toLower = lower) : c = lower ∨ c = upper := by
  have hnat : c.toLower.toNat = lower.toNat := congrArg Char.toNat h
  rw [toNat_toLower] at hnat
  split at hnat
  · right
    apply Char.toNat_inj.mp
    omega
  · exact Or.inl (Char.toNat_inj.mp hnat)

/-- A line end behind an identifier does not count as a part of it. -/
theorem exists_columnKey_eq {name : String} (h : isIdentifier name) :
    ∃ plain, columnKey name = plain.map Char.toLower ∧
      (name.toList = plain ∨ name.toList = plain ++ ['\n']) := by
  obtain ⟨c, rest, hstart, hrest, hname⟩ := isIdentifier_cases h
  have hblank : ∀ d ∈ c :: rest, isBlank d = false := by
    intro d hd
    rcases List.mem_cons.mp hd with rfl | hd
    · exact isBlank_eq_false_of_isNameChar (isNameChar_of_isNameStart hstart)
    · exact isBlank_eq_false_of_isNameChar (hrest d hd)
  refine ⟨c :: rest, ?_, hname⟩
  rw [columnKey]
  rcases hname with hname | hname
  · rw [hname, trim_eq_self hblank]
  · have hline : ∀ d ∈ ['\n'], isBlank d := List.forall_mem_singleton.mpr (by decide)
    have htrim := trim_append (List.forall_mem_nil _) hline
      (fun d hd => hblank d (List.mem_of_mem_head? hd))
      (fun d hd => hblank d (List.mem_of_mem_getLast? hd)) (List.cons_ne_nil c rest)
    rw [List.nil_append] at htrim
    rw [hname, htrim]

/-- Among identifiers a database takes only a few spellings for the id. -/
theorem columnKey_eq_idColumn_iff {name : String} (h : isIdentifier name) :
    columnKey name = columnKey idColumn ↔ name = idColumn ∨ name ∈ otherIdSpellings := by
  constructor
  · intro hkey
    obtain ⟨plain, hlower, hname⟩ := exists_columnKey_eq h
    have hid : columnKey idColumn = ['i', 'd'] := by decide
    rw [hlower, hid] at hkey
    obtain ⟨i, rest, rfl, hi, hrest⟩ := List.map_eq_cons_iff.mp hkey
    obtain ⟨d, rest, rfl, hd, hrest⟩ := List.map_eq_cons_iff.mp hrest
    obtain rfl := List.map_eq_nil_iff.mp hrest
    have hi : i = 'i' ∨ i = 'I' := eq_or_eq_of_toLower_eq rfl hi
    have hd : d = 'd' ∨ d = 'D' := eq_or_eq_of_toLower_eq rfl hd
    have hname : name = String.ofList [i, d] ∨ name = String.ofList [i, d, '\n'] :=
      hname.imp (fun h => String.ofList_toList.symm.trans (congrArg String.ofList h))
        (fun h => String.ofList_toList.symm.trans (congrArg String.ofList h))
    rcases hi with rfl | rfl <;> rcases hd with rfl | rfl <;> rcases hname with rfl | rfl <;> decide
  · rintro (rfl | hother)
    · rfl
    · have hall : ∀ name ∈ otherIdSpellings, columnKey name = columnKey idColumn := by decide
      exact hall name hother

/-- A statement binds no value to the id column, however it is spelled. -/
def Statement.KeepsId (s : Statement) (resource : String) : Prop :=
  ∀ column value, s.Binds resource column value → columnKey column ≠ columnKey idColumn

variable {d : Dispatcher} {request : Request} {w : World} {s : Statement} {body : Record}

theorem Request.Offers.notMem_names (h : request.Offers body) : idColumn ∉ body.names := by
  intro hmem
  obtain ⟨field, hfield, hname⟩ := List.mem_map.mp hmem
  have hhas : body.has idColumn = true := List.any_eq_true.mpr ⟨field, hfield, by simp [hname]⟩
  rw [h.noId] at hhas
  cases hhas

/-- **The primary key.** A write that was handed over leaves the id column alone exactly if no name
of the body is another spelling of it. -/
theorem keepsId_submitted_iff (hbody : request.body = .record body)
    (hs : .submitted s ∈ (d.dispatch request w).events)
    (hwrite : s.keyword = "INSERT" ∨ s.keyword = "UPDATE") :
    s.KeepsId request.resource ↔ ∀ name ∈ body.names, name ∉ otherIdSpellings := by
  obtain ⟨offered, stored, hoffers, hstored, hwrites⟩ := writes_of_submitted hs hwrite
  obtain rfl := hoffers.eq_of_body_eq hbody
  have hidentifiers := hoffers.isIdentifier_stored hstored
  have hother : ∀ name ∈ offered.names, columnKey name = columnKey idColumn →
      name ∈ otherIdSpellings := by
    intro name hname hkey
    have hcases := (columnKey_eq_idColumn_iff (hoffers.isIdentifier name hname)).mp hkey
    refine hcases.resolve_left ?_
    rintro rfl
    exact hoffers.notMem_names hname
  constructor
  · intro h name hname hspelling
    rw [← names_of_hashPassword hstored] at hname
    obtain ⟨⟨column, value⟩, hmem, rfl⟩ := List.mem_map.mp hname
    have hkey := (columnKey_eq_idColumn_iff (hidentifiers column hname)).mpr (Or.inr hspelling)
    exact h column value ((hwrites.binds_iff hidentifiers column value).mpr hmem) hkey
  · intro h column value hbinds hkey
    have hmem := (hwrites.binds_iff hidentifiers column value).mp hbinds
    have hname : column ∈ offered.names := by
      rw [← names_of_hashPassword hstored]
      exact List.mem_map.mpr ⟨_, hmem, rfl⟩
    exact h column hname (hother column hname hkey)

def newWidget (column : String) : Request where
  method := "POST"
  resource := "widgets"
  body := .record [(column, .int 7)]

def widgetsWorld : World where
  schema := { tables := ["widgets"] }

theorem submitted_newWidget (column : String)
    (hoffers : (newWidget column).Offers [(column, .int 7)]) :
    .submitted (insertStatement "widgets" [(column, .int 7)]) ∈
      ((openDispatcher false).dispatch (newWidget column) widgetsWorld).events := by
  have hkind : widgetsWorld.schema.listing.kind? "widgets" = some .table := by decide
  have hverb : Kind.table.verb? (normalizeMethod "POST") = some .post := by decide
  exact submitted_insertStatement rfl rfl (by decide) hkind hverb rfl hoffers rfl

theorem keepsId_submitted_newWidget :
    ∃ s : Statement, .submitted s ∈
        ((openDispatcher false).dispatch (newWidget "size") widgetsWorld).events ∧
      s.KeepsId "widgets" := by
  have hs := submitted_newWidget "size" ⟨rfl, by decide, rfl⟩
  refine ⟨_, hs, (keepsId_submitted_iff rfl hs (Or.inl (keyword_insertStatement _ _))).mpr ?_⟩
  decide

theorem not_keepsId_capitalId :
    ¬ ∀ (d : Dispatcher) (request : Request) (w : World) (s : Statement),
      .submitted s ∈ (d.dispatch request w).events →
      s.keyword = "INSERT" ∨ s.keyword = "UPDATE" → s.KeepsId request.resource := by
  intro h
  have hs := submitted_newWidget "ID" ⟨rfl, by decide, rfl⟩
  have hbinds : (insertStatement "widgets" [("ID", .int 7)]).Binds "widgets" "ID" (.int 7) :=
    ⟨_, Or.inl rfl, by decide, List.mem_singleton_self _⟩
  exact h (openDispatcher false) (newWidget "ID") widgetsWorld _ hs
    (Or.inl (keyword_insertStatement _ _)) "ID" _ hbinds (by decide)

end TableGateway
