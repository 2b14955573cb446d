import Mathlib.Data.List.Nodup
import TableGateway.Json.Bytes
import TableGateway.Proofs.Action
import TableGateway.Proofs.Record
import TableGateway.Proofs.Text.CodePoint

namespace TableGateway

open Text

namespace Json

abbrev Members := List (List CodePoint × Value)

def Members.NamesOnce (members : Members) : Prop :=
  (members.map Prod.fst).Nodup

def spelled (fields : Record) : Members :=
  fields.map fun field => (points field.1.toList, field.2)

theorem wholeFields?_spelled (fields : Record) : wholeFields? (spelled fields) = some fields := by
  induction fields with
  | nil => rfl
  | cons field fields ih =>
      rw [spelled, List.map_cons, wholeFields?, chars?_points, ← spelled, ih]
      exact congrArg (fun name => some ((name, field.2) :: fields)) (String.ofList_toList)

theorem ofMembers_spelled (fields : Record) : Value.ofMembers (spelled fields) = .record fields := by
  rw [Value.ofMembers, wholeFields?_spelled]

/-- A text of whole characters is no halved text. -/
theorem ofPoints_points (s : String) : Value.ofPoints (points s.toList) = .text s := by
  unfold Value.ofPoints
  split
  · rename_i chars hchars
    rw [chars?_points] at hchars
    cases hchars
    rw [String.ofList_toList]
  · rename_i hnone
    rw [chars?_points] at hnone
    cases hnone

/-- Members with whole names are those of the record that they make up. -/
theorem eq_spelled_of_wholeFields? {members : Members} {fields : Record}
    (h : wholeFields? members = some fields) : members = spelled fields := by
  induction members generalizing fields with
  | nil =>
      cases h
      rfl
  | cons member members ih =>
      obtain ⟨chars, hchars, h⟩ := Option.bind_eq_some_iff.mp h
      obtain ⟨rest, hrest, h⟩ := Option.bind_eq_some_iff.mp h
      cases h
      rw [spelled, List.map_cons, ← spelled, ← ih hrest, String.toList_ofList,
        ← chars?_eq_some_iff.mp hchars]

theorem points_toList_injective : Function.Injective fun name : String => points name.toList := by
  intro name other h
  have hchars := congrArg chars? h
  rw [chars?_points, chars?_points] at hchars
  exact String.toList_inj.mp (Option.some.inj hchars)

theorem namesOnce_of_wholeFields? {members : Members} {fields : Record}
    (hmembers : Members.NamesOnce members) (h : wholeFields? members = some fields) :
    fields.NamesOnce := by
  have hnames : (spelled fields).map Prod.fst =
      fields.names.map fun name => points name.toList := by
    rw [Record.names, spelled, List.map_map, List.map_map]
    rfl
  rw [Members.NamesOnce, eq_spelled_of_wholeFields? h, hnames] at hmembers
  exact (List.nodup_map_iff points_toList_injective).mp hmembers

/-- Members that are read one after another never stand twice. -/
theorem namesOnce_of_readMembers {fuel room : Nat} {before members : Members}
    {text rest : List CodePoint} (hbefore : before.NamesOnce)
    (h : readMembers fuel room before text = .ok (members, rest)) : members.NamesOnce := by
  induction fuel generalizing before text with
  | zero => cases h
  | succ fuel ih =>
      unfold readMembers at h
      split at h
      · cases h
      · rename_i heq
        cases heq
        obtain ⟨⟨name, behindName⟩, -, h⟩ := bind_eq_ok_iff.mp h
        dsimp only at h
        split at h
        · obtain ⟨⟨value, behindValue⟩, -, h⟩ := bind_eq_ok_iff.mp h
          -- Whether the object ends here or goes on, its members so far are named once.
          have hfields := nodup_putNamed hbefore name value
          dsimp only at h
          split at h
          · cases h
            exact hfields
          · exact ih hfields h
          · cases h
        · cases h
      · cases h

/-- No number is read as a record. -/
theorem readNumber?_ne_record {negative : Bool} {text rest : List Char} {fields : Record} :
    readNumber? negative text ≠ some (.record fields, rest) := by
  intro h
  unfold readNumber? at h
  extract_lets finish at h
  have hfinish : ∀ pair, finish pair ≠ some (.record fields, rest) := by
    rintro ⟨whole, behind⟩ hpair
    dsimp only [finish] at hpair
    split at hpair
    · split at hpair <;> cases hpair
    · cases hpair
  split at h
  · obtain ⟨pair, -, h⟩ := Option.bind_eq_some_iff.mp h
    exact hfinish pair h
  · dsimp only at h
    split at h
    · cases h
    · obtain ⟨pair, -, h⟩ := Option.bind_eq_some_iff.mp h
      exact hfinish pair h

theorem readWord?_ne_record {text rest : List Char} {fields : Record} :
    readWord? text ≠ some (.record fields, rest) := by
  intro h
  obtain ⟨⟨word, value⟩, hmem, h⟩ := List.exists_of_findSome?_eq_some h
  obtain ⟨_, -, h⟩ := Option.map_eq_some_iff.mp h
  cases h
  simp [words] at hmem

theorem readPlain?_ne_record {text rest : List Char} {fields : Record} :
    readPlain? text ≠ some (.record fields, rest) := by
  intro h
  unfold readPlain? at h
  split at h
  · rename_i found hfound
    cases h
    exact readWord?_ne_record hfound
  · exact readNumber?_ne_record h
  · exact readNumber?_ne_record h

theorem ofPoints_ne_record {text : List CodePoint} {fields : Record} :
    Value.ofPoints text ≠ .record fields := by
  unfold Value.ofPoints
  split <;> exact Value.noConfusion

theorem readSimple?_ne_record {text rest : List CodePoint} {fields : Record} :
    readSimple? text ≠ some (.record fields, rest) := by
  intro h
  unfold readSimple? at h
  split at h
  · obtain ⟨⟨s, behind⟩, -, h⟩ := Option.map_eq_some_iff.mp h
    exact ofPoints_ne_record (Prod.mk.inj h).1
  · obtain ⟨⟨value, behind⟩, hread, h⟩ := Option.map_eq_some_iff.mp h
    cases h
    exact readPlain?_ne_record hread

theorem exists_of_map_eq_ok {α β : Type} {x : Except ReadError α} {f : α → β} {b : β}
    (h : x.map f = .ok b) : ∃ a, x = .ok a ∧ f a = b := by
  cases x with
  | error e => cases h
  | ok a => exact ⟨a, rfl, Except.ok.inj h⟩

/-- An object that was read names each member once. -/
theorem namesOnce_of_readValue {fuel room : Nat} {fields : Record} {text rest : List CodePoint}
    (h : readValue fuel room text = .ok (.record fields, rest)) : fields.NamesOnce := by
  unfold readValue at h
  split at h
  · cases h
  · cases h
  · cases h
  · split at h
    · cases h
    · obtain ⟨_, -, h⟩ := exists_of_map_eq_ok h
      cases h
  · split at h
    · cases h
      exact List.nodup_nil
    · obtain ⟨⟨members, behind⟩, hread, h⟩ := exists_of_map_eq_ok h
      have hempty : Members.NamesOnce [] := List.nodup_nil
      have hmembers := namesOnce_of_readMembers hempty hread
      have hmade := (Prod.mk.inj h).1
      unfold Value.ofMembers at hmade
      split at hmade
      · rename_i hwhole
        cases hmade
        exact namesOnce_of_wholeFields? hmembers hwhole
      · cases hmade
  · unfold wellFormed at h
    split at h
    · rename_i found hfound
      cases h
      exact absurd hfound readSimple?_ne_record
    · cases h

theorem namesOnce_of_readBytes {maxNesting : Nat} {bytes : List UInt8} {fields : Record}
    (h : readBytes maxNesting bytes = .ok (.record fields)) : fields.NamesOnce := by
  obtain ⟨text, -, h⟩ := bind_eq_ok_iff.mp h
  obtain ⟨⟨value, rest⟩, hread, h⟩ := bind_eq_ok_iff.mp h
  dsimp only at h
  split at h
  · cases h
    exact namesOnce_of_readValue hread
  · cases h

end Json

end TableGateway
