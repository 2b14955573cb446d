import TableGateway.Text.CodePoint

namespace TableGateway.Text

variable {text other : List CodePoint} {chars : List Char}

@[simp] theorem points_nil : points [] = [] :=
  rfl

@[simp] theorem points_cons (c : Char) (chars : List Char) :
    points (c :: chars) = .char c :: points chars :=
  rfl

@[simp] theorem points_append (chars others : List Char) :
    points (chars ++ others) = points chars ++ points others :=
  List.map_append

@[simp] theorem length_points (chars : List Char) : (points chars).length = chars.length :=
  List.length_map _

@[simp] theorem chars?_points (chars : List Char) : chars? (points chars) = some chars := by
  induction chars with
  | nil => rfl
  | cons c chars ih => rw [points_cons, chars?, ih, Option.map_some]

/-- A text in code points is a text of characters exactly if none of them is half of one. -/
theorem chars?_eq_some_iff : chars? text = some chars ↔ text = points chars := by
  constructor
  · intro h
    induction text generalizing chars with
    | nil =>
        cases h
        rfl
    | cons point text ih =>
        cases point with
        | char c =>
            obtain ⟨rest, hrest, rfl⟩ := Option.map_eq_some_iff.mp h
            rw [ih hrest, points_cons]
        | half _ => cases h
  · rintro rfl
    exact chars?_points chars

section

variable {α β : Type} {names : List (List CodePoint)} {items : List α}

theorem withNames_map (f : α → β) :
    withNames names (items.map f) = (withNames names items).map fun (name, a) => (name, f a) := by
  induction items generalizing names with
  | nil => rfl
  | cons item items ih =>
      rw [List.map_cons, withNames, withNames, ih]
      rfl

theorem map_snd_withNames : (withNames names items).map Prod.snd = items := by
  induction items generalizing names with
  | nil => rfl
  | cons item items ih => rw [withNames, List.map_cons, ih]

theorem forall_mem_withNames {P : α → Prop} :
    (∀ member ∈ withNames names items, P member.2) ↔ ∀ item ∈ items, P item := by
  have hmap : (∀ item ∈ (withNames names items).map Prod.snd, P item) ↔ ∀ item ∈ items, P item := by
    rw [map_snd_withNames]
  rw [← hmap, List.forall_mem_map]

end

/-- No character has a code point in the range of the units that are half a character. -/
theorem toNat_lt_or (c : Char) : c.toNat < 0xd800 ∨ 0xdfff < c.toNat ∧ c.toNat < 0x110000 :=
  c.valid

variable {unit : Nat}

theorem isHighUnit_iff : isHighUnit unit ↔ 0xd800 ≤ unit ∧ unit < 0xdc00 := by
  rw [isHighUnit, Bool.and_eq_true, decide_eq_true_iff, decide_eq_true_iff]

theorem isLowUnit_iff : isLowUnit unit ↔ 0xdc00 ≤ unit ∧ unit < 0xe000 := by
  rw [isLowUnit, Bool.and_eq_true, decide_eq_true_iff, decide_eq_true_iff]

theorem isHighUnit_toNat (c : Char) : isHighUnit c.toNat = false := by
  have hrange := toNat_lt_or c
  rw [← Bool.not_eq_true, isHighUnit_iff]
  omega

theorem isLowUnit_toNat (c : Char) : isLowUnit c.toNat = false := by
  have hrange := toNat_lt_or c
  rw [← Bool.not_eq_true, isLowUnit_iff]
  omega

theorem ofUnit_toNat (c : Char) : CodePoint.ofUnit c.toNat = .char c := by
  rw [CodePoint.ofUnit, dif_neg, Char.ofNat_toNat]
  rw [isHighUnit_toNat, isLowUnit_toNat]
  decide

end TableGateway.Text
