import TableGateway.Failure

namespace TableGateway

inductive Value.IsUnusableName : Value → String → Prop
  | list (items : List Value) : IsUnusableName (.list items) "list"
  | record (fields : Record) : IsUnusableName (.record fields) "dict"
  | mangled (names : List (List Text.CodePoint)) (values : List Value) :
    IsUnusableName (.mangled names values) "dict"

section PutNamed

variable {ν : Type} [DecidableEq ν] {members : List (ν × Value)} {name : ν}

theorem map_fst_putNamed (h : name ∈ members.map Prod.fst) (value : Value) :
    (putNamed members name value).map Prod.fst = members.map Prod.fst := by
  induction members with
  | nil => cases h
  | cons member members ih =>
      unfold putNamed
      by_cases hfirst : member.1 = name
      · rw [if_pos hfirst, List.map_cons, List.map_cons, hfirst]
      · rw [if_neg hfirst, List.map_cons, List.map_cons,
          ih ((List.mem_cons.mp h).resolve_left (Ne.symm hfirst))]

theorem putNamed_of_notMem (h : name ∉ members.map Prod.fst) (value : Value) :
    putNamed members name value = members ++ [(name, value)] := by
  induction members with
  | nil => rfl
  | cons member members ih =>
      rw [List.map_cons, List.mem_cons, not_or] at h
      unfold putNamed
      rw [if_neg (Ne.symm h.1), ih h.2, List.cons_append]

theorem nodup_putNamed (h : (members.map Prod.fst).Nodup) (name : ν) (value : Value) :
    ((putNamed members name value).map Prod.fst).Nodup := by
  by_cases hname : name ∈ members.map Prod.fst
  · rw [map_fst_putNamed hname]
    exact h
  · rw [putNamed_of_notMem hname, List.map_append]
    refine List.nodup_append.mpr ⟨h, by simp, ?_⟩
    rintro other hother _ hsingle rfl
    rw [List.mem_singleton.mp hsingle] at hother
    exact hname hother

end PutNamed

namespace Record

def NamesOnce (r : Record) : Prop :=
  r.names.Nodup

instance (r : Record) : Decidable r.NamesOnce :=
  inferInstanceAs (Decidable r.names.Nodup)

variable {r : Record} {name : String} {value : Value}

theorem get_cons (field : String × Value) (r : Record) (name : String) :
    Record.get (field :: r) name = if field.1 = name then field.2 else r.get name := by
  unfold get get?
  by_cases h : field.1 = name
  · simp [h]
  · simp [h]

/-- A value other than null stands under a name that is there. -/
theorem mem_names_of_get_ne_null (h : r.get name ≠ .null) : name ∈ r.names := by
  induction r with
  | nil => exact absurd rfl h
  | cons field r ih =>
      rw [get_cons] at h
      by_cases hname : field.1 = name
      · simp [names, hname]
      · rw [if_neg hname] at h
        exact List.mem_cons_of_mem _ (ih h)

/-- Where no name stands twice, a value is found under its name. -/
theorem get_eq_of_mem (hr : r.NamesOnce) (h : (name, value) ∈ r) : r.get name = value := by
  induction r with
  | nil => simp at h
  | cons field r ih =>
      have hr' := List.nodup_cons.mp hr
      rw [get_cons]
      rcases List.mem_cons.mp h with rfl | h
      · simp
      · have hname : name ∈ names r := List.mem_map_of_mem h
        have hne : field.1 ≠ name := by
          rintro rfl
          exact hr'.1 hname
        rw [if_neg hne, ih hr'.2 h]

theorem mem_iff_get_eq (hr : r.NamesOnce) (hname : name ∈ r.names) :
    (name, value) ∈ r ↔ r.get name = value := by
  constructor
  · exact get_eq_of_mem hr
  · obtain ⟨⟨_, held⟩, hmem, rfl⟩ := List.mem_map.mp hname
    rintro rfl
    rwa [get_eq_of_mem hr hmem]

/-- Setting a value keeps the names if the name is there. -/
theorem names_put (h : name ∈ r.names) : (r.put name value).names = r.names :=
  map_fst_putNamed h value

theorem put_cons (field : String × Value) (r : Record) :
    Record.put (field :: r) name value =
      if field.1 = name then (name, value) :: r else field :: r.put name value :=
  rfl

theorem length_eq_of_names_eq {r r' : Record} (h : r.names = r'.names) : r.length = r'.length := by
  simpa [names] using congrArg List.length h

theorem isEmpty_eq_of_names_eq {r r' : Record} {empty : Bool} (hnames : r'.names = r.names)
    (h : r.isEmpty = empty) : r'.isEmpty = empty := by
  rw [← h, Bool.eq_iff_iff, List.isEmpty_iff_length_eq_zero, List.isEmpty_iff_length_eq_zero,
    length_eq_of_names_eq hnames]

/-- Setting a value changes what stands under the name and nothing else. -/
theorem put_eq_map (hr : r.NamesOnce) (h : name ∈ r.names) :
    r.put name value =
      List.map (fun field => if field.1 = name then (name, value) else field) r := by
  induction r with
  | nil => simp [names] at h
  | cons field r ih =>
      have hr' := List.nodup_cons.mp hr
      rw [put_cons]
      by_cases hname : field.1 = name
      · have hother : ∀ other ∈ r, other.1 ≠ name := by
          rintro other hother rfl
          exact hr'.1 (hname ▸ List.mem_map_of_mem hother)
        have hkeep :
            List.map (fun field => if field.1 = name then (name, value) else field) r = r :=
          (List.map_congr_left fun other hmem => if_neg (hother other hmem)).trans (List.map_id r)
        rw [if_pos hname, List.map_cons, if_pos hname, hkeep]
      · have hmem : name ∈ names r := (List.mem_cons.mp h).resolve_left (Ne.symm hname)
        rw [if_neg hname, List.map_cons, if_neg hname, ih hr'.2 hmem]

theorem get?_cons (field : String × Value) (r : Record) (name : String) :
    Record.get? (field :: r) name = if field.1 = name then some field.2 else r.get? name := by
  unfold get?
  by_cases h : field.1 = name
  · simp [h]
  · simp [h]

theorem get?_of_notMem (h : name ∉ r.names) : r.get? name = none := by
  induction r with
  | nil => rfl
  | cons field r ih =>
      have hrest := not_or.mp (mt List.mem_cons.mpr h)
      rw [get?_cons, if_neg (Ne.symm hrest.1), ih hrest.2]

theorem get?_of_mem (h : name ∈ r.names) : r.get? name = some (r.get name) := by
  obtain ⟨v, hv⟩ : ∃ v, r.get? name = some v := by
    induction r with
    | nil => cases h
    | cons field r ih =>
        rw [get?_cons]
        by_cases hname : field.1 = name
        · exact ⟨_, if_pos hname⟩
        · rw [if_neg hname]
          exact ih ((List.mem_cons.mp h).resolve_left (Ne.symm hname))
  rw [get, hv]
  rfl

/-- Setting a value under one name leaves every other name alone. -/
theorem get?_put (r : Record) (name : String) (value : Value) (other : String) :
    (r.put name value).get? other = if name = other then some value else r.get? other := by
  induction r with
  | nil => exact get?_cons _ _ _
  | cons field r ih =>
      rw [put_cons]
      by_cases hname : field.1 = name
      · rw [if_pos hname, get?_cons, get?_cons, hname]
        by_cases hother : name = other
        · rw [if_pos hother, if_pos hother]
        · rw [if_neg hother, if_neg hother, if_neg hother]
      · rw [if_neg hname, get?_cons, get?_cons, ih]
        by_cases hfield : field.1 = other
        · rw [if_pos hfield, if_pos hfield, if_neg fun h => hname (hfield.trans h.symm)]
        · rw [if_neg hfield, if_neg hfield]

/-- Changes come before what they change. -/
theorem get?_putAll {changes : Record} (hchanges : changes.NamesOnce) (r : Record)
    (name : String) : (r.putAll changes).get? name = (changes.get? name).or (r.get? name) := by
  induction changes generalizing r with
  | nil => rfl
  | cons field changes ih =>
      obtain ⟨hfirst, hrest⟩ := List.nodup_cons.mp hchanges
      have hstep : Record.putAll r (field :: changes) =
          Record.putAll (r.put field.1 field.2) changes := rfl
      rw [hstep, ih hrest, get?_put, get?_cons]
      by_cases hname : field.1 = name
      · subst hname
        rw [get?_of_notMem hfirst, if_pos rfl, if_pos rfl]
        rfl
      · rw [if_neg hname, if_neg hname]

/-- Looking up a configured name fails only if it cannot be a name. -/
theorem lookup_eq_error_iff {name : Value} {f : Failure} :
    r.lookup name = .error f ↔ ∃ kind, name.IsUnusableName kind ∧ f = .unusableName kind := by
  constructor
  · intro h
    cases name with
    | list items =>
        cases h
        exact ⟨_, .list items, rfl⟩
    | record fields =>
        cases h
        exact ⟨_, .record fields, rfl⟩
    | mangled names values =>
        cases h
        exact ⟨_, .mangled names values, rfl⟩
    | _ => cases h
  · rintro ⟨kind, hname, rfl⟩
    cases hname <;> rfl

/-- A configured name is a text, cannot be a name at all, or is under no record's names. -/
theorem lookup_cases (name : Value) :
    (∃ field, name = .text field) ∨ (∃ kind, name.IsUnusableName kind) ∨
      (∀ field, name ≠ .text field) ∧ ∀ r : Record, r.lookup name = .ok .null := by
  cases name with
  | text field => exact Or.inl ⟨field, rfl⟩
  | list items => exact Or.inr (Or.inl ⟨_, .list items⟩)
  | record fields => exact Or.inr (Or.inl ⟨_, .record fields⟩)
  | mangled names values => exact Or.inr (Or.inl ⟨_, .mangled names values⟩)
  | _ => exact Or.inr (Or.inr ⟨fun _ => Value.noConfusion, fun _ => rfl⟩)

end Record

end TableGateway
