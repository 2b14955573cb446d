import Mathlib.Data.List.Sort
import TableGateway.Json.Write
import TableGateway.Proofs.Text.CodePoint
import TableGateway.Proofs.Text.Intercalate

namespace TableGateway

open Text

def nameLe {α : Type} (a b : String × α) : Bool :=
  a.1 ≤ b.1

namespace Json

/-! ## Order of members -/

theorem pairwise_mergeSort_nameLe {α : Type} (fields : List (String × α)) :
    (fields.mergeSort nameLe).Pairwise fun a b => nameLe a b := by
  refine List.pairwise_mergeSort ?_ ?_ fields
  · intro a b c hab hbc
    exact decide_eq_true (String.le_trans (of_decide_eq_true hab) (of_decide_eq_true hbc))
  · intro a b
    rw [nameLe, nameLe, Bool.or_eq_true, decide_eq_true_iff, decide_eq_true_iff]
    exact String.le_total _ _

theorem mergeSort_mergeSort_nameLe {α : Type} (fields : List (String × α)) :
    (fields.mergeSort nameLe).mergeSort nameLe = fields.mergeSort nameLe :=
  List.mergeSort_of_pairwise (pairwise_mergeSort_nameLe fields)

theorem writeMembers_mergeSort (members : List Member) :
    writeMembers (members.mergeSort nameLe) = writeMembers members := by
  have hsorted := mergeSort_mergeSort_nameLe members
  unfold nameLe at hsorted
  unfold writeMembers writeObject nameLe
  rw [hsorted]

def memberOf (field : String × Value) : Member :=
  (field.1, (write? field.2).getD "")

/-- An object is written if all its values are. -/
theorem writeFields?_eq (fields : List (String × Value)) :
    writeFields? fields =
      if fields.all fun field => (write? field.2).isSome then some (fields.map memberOf)
      else none := by
  induction fields with
  | nil => rfl
  | cons field rest ih =>
      rw [writeFields?, ih]
      cases hwrite : write? field.2 with
      | none => simp [hwrite]
      | some text =>
          by_cases hrest : rest.all fun field => (write? field.2).isSome
          · simp [hwrite, hrest, memberOf]
          · simp [hwrite, hrest]

def itemOf (v : Value) : String :=
  (write? v).getD ""

theorem writeItems?_eq (items : List Value) :
    writeItems? items =
      if items.all fun v => (write? v).isSome then some (items.map itemOf) else none := by
  induction items with
  | nil => rfl
  | cons v rest ih =>
      rw [writeItems?, ih]
      cases hwrite : write? v with
      | none => simp [hwrite]
      | some text =>
          by_cases hrest : rest.all fun v => (write? v).isSome
          · simp [hwrite, hrest, itemOf]
          · simp [hwrite, hrest]

theorem map_memberOf_sorted (r : Record) :
    r.sorted.map memberOf = (r.map memberOf).mergeSort nameLe := by
  have hmap : (List.mergeSort r nameLe).map memberOf = (r.map memberOf).mergeSort nameLe :=
    List.map_mergeSort fun _ _ _ _ => rfl
  exact hmap

theorem write?_sorted (r : Record) : write? (.record r.sorted) = write? (.record r) := by
  have hsort : r.sorted = List.mergeSort r nameLe := rfl
  have hall := (List.mergeSort_perm r nameLe).all_eq (f := fun field => (write? field.2).isSome)
  rw [write?, write?, writeFields?_eq, writeFields?_eq, map_memberOf_sorted, hsort, hall]
  split
  · exact congrArg some (writeMembers_mergeSort _)
  · rfl

theorem write?_mangled (names : List (List CodePoint)) (values : List Value) :
    write? (.mangled names values) =
      ((writeItems? values).map (withNames names)).map writePointMembers := by
  rw [write?, Option.map_map]
  rfl

/-! ## Two written forms -/

/-- Two written forms: none in both, or two texts of the same length that are the same exactly if
`same` holds. -/
inductive WrittenAlike (same : Prop) : Option String → Option String → Prop
  | none : WrittenAlike same none none
  | some {text other : String} (hlength : text.length = other.length)
    (h : text = other ↔ same) : WrittenAlike same (some text) (some other)

theorem writtenAlike_refl {same : Prop} (h : same) (written : Option String) :
    WrittenAlike same written written := by
  cases written with
  | none => exact .none
  | some text => exact .some rfl (iff_of_true rfl h)

structure Row (ν : Type) where
  name : ν
  text : String
  other : String

/-- Written parts: a part without written form in both, or rows of texts of the same length that are
the same exactly if `same` holds. -/
inductive RowsAlike {α ν : Type} (make : ν → String → α) (same : Prop) :
    Option (List α) → Option (List α) → Prop
  | none : RowsAlike make same none none
  | some (rows : List (Row ν)) (hlength : ∀ row ∈ rows, row.text.length = row.other.length)
    (h : (∀ row ∈ rows, row.text = row.other) ↔ same) :
    RowsAlike make same (some (rows.map fun row => make row.name row.text))
      (some (rows.map fun row => make row.name row.other))

theorem rowsAlike_nil {α ν : Type} {same : Prop} (h : same) (make : ν → String → α) :
    RowsAlike make same (some []) (some []) :=
  .some [] (by simp) (by simpa using h)

def consWritten {α ν : Type} (make : ν → String → α) (name : ν) (written : Option String)
    (others : Option (List α)) : Option (List α) :=
  written.bind fun text => others.map (make name text :: ·)

theorem writeItems?_cons (v : Value) (rest : List Value) :
    writeItems? (v :: rest) =
      consWritten (fun _ text => text) () (write? v) (writeItems? rest) := by
  rw [writeItems?, consWritten]
  cases write? v <;> cases writeItems? rest <;> rfl

theorem writeFields?_cons (name : String) (v : Value) (rest : List (String × Value)) :
    writeFields? ((name, v) :: rest) = consWritten Prod.mk name (write? v) (writeFields? rest) := by
  rw [writeFields?, consWritten]
  cases write? v <;> cases writeFields? rest <;> rfl

theorem consWritten_eq_none_iff {α ν : Type} {make : ν → String → α} {name : ν}
    {written : Option String} {others : Option (List α)} :
    consWritten make name written others = none ↔ written = none ∨ others = none := by
  cases written <;> cases others <;> simp [consWritten]

/-- Two parts of one length in front leave the rest where it was. -/
theorem RowsAlike.cons {α ν : Type} {make : ν → String → α} {same sames : Prop}
    {written written' : Option String} {others others' : Option (List α)}
    (h : WrittenAlike same written written') (hs : RowsAlike make sames others others')
    (name : ν) :
    RowsAlike make (same ∧ sames) (consWritten make name written others)
      (consWritten make name written' others') := by
  cases h with
  | none => exact .none
  | @some text other hlength h =>
      cases hs with
      | none => exact .none
      | some rows hlengths hs =>
          refine .some (⟨name, text, other⟩ :: rows) ?_ ?_
          · exact List.forall_mem_cons.mpr ⟨hlength, hlengths⟩
          · rw [List.forall_mem_cons, h, hs]

/-- Parts of the same lengths, joined, are the same text exactly if they are the same parts. -/
theorem intercalate_eq_iff {ν : Type} (sep : String) {rows : List (Row ν)} {f g : Row ν → String}
    (hlength : ∀ row ∈ rows, (f row).length = (g row).length) :
    (sep.intercalate (rows.map f)).length = (sep.intercalate (rows.map g)).length ∧
      (sep.intercalate (rows.map f) = sep.intercalate (rows.map g) ↔
        ∀ row ∈ rows, f row = g row) := by
  simp only [← String.length_toList, ← String.toList_inj, String.toList_intercalate,
    List.map_map] at hlength ⊢
  induction rows with
  | nil => simp
  | cons row rest ih =>
      obtain ⟨hfirst, hrest⟩ := List.forall_mem_cons.mp hlength
      cases rest with
      | nil => simpa using hfirst
      | cons next rest =>
          obtain ⟨hlengths, hiff⟩ := ih hrest
          simp only [List.map_cons, Function.comp_apply] at hlengths hiff
          simp only [List.map_cons, List.intercalate_cons_cons, Function.comp_apply]
          refine ⟨by simp only [List.length_append, hfirst, hlengths], ?_⟩
          rw [List.forall_mem_cons, ← hiff]
          constructor
          · intro h
            obtain ⟨hfront, htail⟩ := List.append_inj h (by simp [hfirst])
            exact ⟨(List.append_inj hfront hfirst).1, htail⟩
          · rintro ⟨hsame, htail⟩
            rw [hsame, htail]

theorem writtenAlike_joined {ν : Type} (front back : String) {rows : List (Row ν)}
    {f g : Row ν → String}
    (hlength : ∀ row ∈ rows, (f row).length = (g row).length) {same : Prop}
    (h : (∀ row ∈ rows, f row = g row) ↔ same) :
    WrittenAlike same (some (front ++ ",".intercalate (rows.map f) ++ back))
      (some (front ++ ",".intercalate (rows.map g) ++ back)) := by
  obtain ⟨hlengths, hiff⟩ := intercalate_eq_iff "," hlength
  refine .some ?_ ?_
  · rw [String.length_append, String.length_append, String.length_append, String.length_append,
      hlengths]
  · rw [String.append_left_inj, String.append_right_inj, hiff, h]

/-- Two lists with items of the same lengths. -/
theorem RowsAlike.list {same : Prop} {written written' : Option (List String)}
    (h : RowsAlike (fun (_ : Unit) text => text) same written written') :
    WrittenAlike same (written.map fun texts => "[" ++ ",".intercalate texts ++ "]")
      (written'.map fun texts => "[" ++ ",".intercalate texts ++ "]") := by
  cases h with
  | none => exact .none
  | some rows hlength h => exact writtenAlike_joined "[" "]" hlength h

/-- Two objects with members of the same names and lengths. -/
theorem RowsAlike.object {ν : Type} (le : ν → ν → Bool) (writeName : ν → String) {same : Prop}
    {written written' : Option (List (ν × String))} (h : RowsAlike Prod.mk same written written') :
    WrittenAlike same (written.map (writeObject le writeName))
      (written'.map (writeObject le writeName)) := by
  cases h with
  | none => exact .none
  | some rows hlength h =>
      -- Sorting goes by name alone, so it puts both objects into the order of one list of rows.
      let sorted := rows.mergeSort fun row row' => le row.name row'.name
      have hmem : ∀ row, row ∈ sorted ↔ row ∈ rows := fun row => List.mem_mergeSort
      have hwrite : ∀ value : Row ν → String,
          writeObject le writeName (rows.map fun row => (row.name, value row)) =
            "\x7b" ++ ",".intercalate (sorted.map fun row =>
              writeName row.name ++ ":" ++ value row) ++ "\x7d" := by
        intro value
        have hsort := List.map_mergeSort (l := rows) (f := fun row => (row.name, value row))
          (r := fun row row' => le row.name row'.name) (s := fun a b => le a.1 b.1)
          fun _ _ _ _ => rfl
        unfold writeObject
        dsimp only
        rw [← hsort, List.map_map]
        rfl
      rw [Option.map_some, Option.map_some, hwrite Row.text, hwrite Row.other]
      refine writtenAlike_joined _ _ ?_ ?_
      · intro row hrow
        simp only [String.length_append, hlength row ((hmem row).mp hrow)]
      · rw [← h]
        simp only [hmem, String.append_right_inj]

/-- Written parts that get names. -/
theorem RowsAlike.named (names : List (List CodePoint)) {same : Prop}
    {written written' : Option (List String)}
    (h : RowsAlike (fun (_ : Unit) text => text) same written written') :
    RowsAlike Prod.mk same (written.map (withNames names)) (written'.map (withNames names)) := by
  cases h with
  | none => exact .none
  | some rows hlength h =>
      let named := (withNames names rows).map fun (name, row) => Row.mk name row.text row.other
      have hmap : ∀ f : String × String → String,
          withNames names (rows.map fun row => f (row.text, row.other)) =
            named.map fun row => (row.name, f (row.text, row.other)) := by
        intro f
        rw [withNames_map, List.map_map]
        rfl
      have hforall : ∀ P : String → String → Prop,
          (∀ row ∈ named, P row.text row.other) ↔ ∀ row ∈ rows, P row.text row.other := by
        intro P
        rw [List.forall_mem_map]
        exact forall_mem_withNames (P := fun row : Row Unit => P row.text row.other)
      rw [Option.map_some, Option.map_some, hmap Prod.fst, hmap Prod.snd]
      exact .some named ((hforall fun text other => text.length = other.length).mpr hlength)
        ((hforall Eq).trans h)

end Json

end TableGateway
