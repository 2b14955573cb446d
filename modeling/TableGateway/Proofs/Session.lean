import TableGateway.Proofs.Json.Write
import TableGateway.Session

namespace TableGateway

open Json

/-! ## Moments -/

def headerYear (year : Nat) : Nat :=
  if year < 69 then year + 2000 else if year < 100 then year + 1900 else year

def escaped (text : String) : List Char :=
  text.toList.flatMap escapeChar

theorem writeString_eq_iff {text other : String} :
    writeString text = writeString other ↔ escaped text = escaped other := by
  simp [writeString, escaped, ← String.toList_inj]

theorem length_writeString (text : String) :
    (writeString text).length = (escaped text).length + 2 := by
  simp [writeString, escaped, ← String.length_toList]

theorem escaped_append (text other : String) :
    escaped (text ++ other) = escaped text ++ escaped other := by
  simp [escaped]

theorem length_escaped_weekday (d : Date) :
    (escaped (weekdayNames.getD d.weekday "")).length = 3 := by
  have hlengths : ∀ day < 7, (escaped (weekdayNames.getD day "")).length = 3 := by decide
  exact hlengths _ (Nat.mod_lt _ (by decide))

theorem escaped_ofList (text : List Char) :
    escaped (String.ofList text) = text.flatMap escapeChar := by
  rw [escaped, String.toList_ofList]

/-- The year of a header before the year one hundred is read back as another of as many digits. -/
theorem escaped_headerYear {year : Nat} (h : year < 100) :
    (escaped (String.ofList (Number.padded 4 year))).length =
        (escaped (String.ofList (Number.padded 4 (headerYear year)))).length ∧
      escaped (String.ofList (Number.padded 4 year)) ≠
        escaped (String.ofList (Number.padded 4 (headerYear year))) := by
  -- Characters are far quicker to compare than texts.
  have hall : ∀ year < 100,
      ((Number.padded 4 year).flatMap escapeChar).length =
          ((Number.padded 4 (headerYear year)).flatMap escapeChar).length ∧
        (Number.padded 4 year).flatMap escapeChar ≠
          (Number.padded 4 (headerYear year)).flatMap escapeChar := by
    decide +kernel
  simp only [escaped_ofList]
  exact hall year h

/-- A moment without a distance from universal time is told in it already. -/
theorem Moment.universal?_eq_self {m : Moment} (hoffset : m.offset = some 0) (hhour : m.hour < 24)
    (hminute : m.minute < 60) (hsecond : m.second < 60) : m.universal? = some m := by
  have hshifted : m.secondOfDay - m.offset.getD 0 = m.secondOfDay := by
    rw [hoffset]
    exact Int.sub_zero _
  have hseconds : m.secondOfDay = (m.hour * 3600 + m.minute * 60 + m.second : Nat) := by
    unfold secondOfDay
    omega
  have hbound : m.hour * 3600 + m.minute * 60 + m.second < 86400 := by
    omega
  have hmod : (m.secondOfDay % 86400).toNat = m.hour * 3600 + m.minute * 60 + m.second := by
    omega
  unfold universal?
  dsimp only
  rw [hshifted, if_neg (by omega), if_neg (by omega), hmod]
  rcases m with ⟨date, hour, minute, second, microsecond, offset⟩
  dsimp only at *
  simp only [Option.map_some, Option.some.injEq, Moment.mk.injEq, true_and]
  refine ⟨by omega, by omega, by omega, hoffset.symm⟩

theorem Moment.universal?_throughHeader {m u : Moment} (h : m.universal? = some u) :
    u.throughHeader.universal? = some u.throughHeader := by
  obtain ⟨date, -, rfl⟩ := Option.map_eq_some_iff.mp h
  refine universal?_eq_self rfl ?_ ?_ ?_
  · have hseconds : ((m.secondOfDay - m.offset.getD 0) % 86400).toNat < 86400 := by omega
    simp only [throughHeader]
    omega
  · exact Nat.mod_lt _ (by decide)
  · exact Nat.mod_lt _ (by decide)

/-- Only the day of the week and the year of a header change when it is read back. -/
theorem Moment.exists_headerText (u : Moment) :
    ∃ front back : String,
      u.headerText = weekdayNames.getD u.date.weekday "" ++ front ++
        String.ofList (Number.padded 4 u.date.year) ++ back ∧
      u.throughHeader.headerText = weekdayNames.getD u.throughHeader.date.weekday "" ++ front ++
        String.ofList (Number.padded 4 (headerYear u.date.year)) ++ back := by
  let two (n : Nat) := String.ofList (Number.padded 2 n)
  refine ⟨", " ++ two u.date.day ++ " " ++ monthNames.getD (u.date.month - 1) "" ++ " ",
    " " ++ two u.hour ++ ":" ++ two u.minute ++ ":" ++ two u.second ++ " GMT", ?_, ?_⟩
  · simp only [headerText, String.append_assoc]
    rfl
  · simp only [headerText, String.append_assoc]
    rfl

/-- A moment that comes back from a session has a header of the same length, and the same header
exactly if it lies in the year one hundred or later. -/
theorem Moment.writtenAlike_headerText (u : Moment) :
    WrittenAlike (100 ≤ u.date.year) (some (writeString u.headerText))
      (some (writeString u.throughHeader.headerText)) := by
  by_cases hyear : 100 ≤ u.date.year
  · have hdate : u.throughHeader.date = u.date := by
      simp only [throughHeader]
      rw [if_neg (by omega), if_neg (by omega)]
    have hsame : u.throughHeader.headerText = u.headerText := by
      unfold headerText
      rw [hdate]
      rfl
    rw [hsame]
    exact .some rfl (iff_of_true rfl hyear)
  · obtain ⟨hlength, hne⟩ := escaped_headerYear (Nat.lt_of_not_le hyear)
    have hday := (length_escaped_weekday u.date).trans
      (length_escaped_weekday u.throughHeader.date).symm
    obtain ⟨front, back, htext, htext'⟩ := u.exists_headerText
    have hescaped := congrArg escaped htext
    have hescaped' := congrArg escaped htext'
    simp only [escaped_append] at hescaped hescaped'
    -- Day and year take as many characters in both headers, so the years stand in the same place.
    refine .some ?_ (iff_of_false ?_ hyear)
    · rw [length_writeString, length_writeString, hescaped, hescaped']
      simp only [List.length_append, hday, hlength]
    · rw [writeString_eq_iff, hescaped, hescaped']
      intro hsame
      obtain ⟨hfront, -⟩ := List.append_inj hsame (by simp only [List.length_append, hday, hlength])
      obtain ⟨-, hyears⟩ := List.append_inj hfront (by simp only [List.length_append, hday])
      exact hne hyears

/-! ## Values -/

mutual

/-- Whether every moment in a value lies in the year one hundred or later, in universal time. -/
def Value.isTimely : Value → Bool
  | .moment m => m.universal?.all fun u => 100 ≤ u.date.year
  | .list items => itemsTimely items
  | .record fields => fieldsTimely fields
  | .mangled _ values => itemsTimely values
  | _ => true

def itemsTimely : List Value → Bool
  | [] => true
  | v :: rest => v.isTimely && itemsTimely rest

def fieldsTimely : List (String × Value) → Bool
  | [] => true
  | (_, v) :: rest => v.isTimely && fieldsTimely rest

end

mutual

def Value.holdsBytes : Value → Bool
  | .bytes _ => true
  | .list items => itemsHoldBytes items
  | .record fields => fieldsHoldBytes fields
  | .mangled _ values => itemsHoldBytes values
  | _ => false

def itemsHoldBytes : List Value → Bool
  | [] => false
  | v :: rest => v.holdsBytes || itemsHoldBytes rest

def fieldsHoldBytes : List (String × Value) → Bool
  | [] => false
  | (_, v) :: rest => v.holdsBytes || fieldsHoldBytes rest

end

mutual

/-- What comes back from a session is written in a text of the same length as before, and in the
same text exactly if all its moments are late enough. -/
theorem writtenAlike_of_kept {v v' : Value} (h : v.kept? = some v') :
    WrittenAlike v.isTimely (write? v) (write? v') := by
  cases v with
  | null | bool | real | text | halved | bytes | decimal | date =>
      cases h
      exact writtenAlike_refl rfl _
  | int n =>
      obtain ⟨-, hsame⟩ := Option.ite_none_right_eq_some.mp h
      cases hsame
      exact writtenAlike_refl rfl _
  | moment m =>
      obtain ⟨u, hu, rfl⟩ := Option.map_eq_some_iff.mp h
      rw [Value.isTimely, write?, write?, Moment.header?, Moment.header?, hu,
        Moment.universal?_throughHeader hu]
      simpa using u.writtenAlike_headerText
  | list items =>
      obtain ⟨items', hitems, rfl⟩ := Option.map_eq_some_iff.mp h
      exact (rowsAlike_of_keptItems hitems).list
  | record fields =>
      obtain ⟨fields', hfields, rfl⟩ := Option.map_eq_some_iff.mp h
      rw [write?_sorted]
      exact (rowsAlike_of_keptFields hfields).object (fun name other => name ≤ other) writeString
  | mangled names values =>
      obtain ⟨values', hvalues, rfl⟩ := Option.map_eq_some_iff.mp h
      rw [write?_mangled, write?_mangled]
      exact ((rowsAlike_of_keptItems hvalues).named names).object pointsLe writePoints

theorem rowsAlike_of_keptItems {items items' : List Value} (h : keptItems? items = some items') :
    RowsAlike (fun (_ : Unit) text => text) (itemsTimely items) (writeItems? items)
      (writeItems? items') := by
  cases items with
  | nil =>
      cases h
      exact rowsAlike_nil rfl _
  | cons v rest =>
      obtain ⟨v', hv, h⟩ := Option.bind_eq_some_iff.mp h
      obtain ⟨rest', hrest, h⟩ := Option.bind_eq_some_iff.mp h
      cases h
      rw [itemsTimely, Bool.and_eq_true, writeItems?_cons, writeItems?_cons]
      exact RowsAlike.cons (writtenAlike_of_kept hv) (rowsAlike_of_keptItems hrest) ()

theorem rowsAlike_of_keptFields {fields fields' : List (String × Value)}
    (h : keptFields? fields = some fields') :
    RowsAlike Prod.mk (fieldsTimely fields) (writeFields? fields) (writeFields? fields') := by
  cases fields with
  | nil =>
      cases h
      exact rowsAlike_nil rfl _
  | cons field rest =>
      obtain ⟨name, v⟩ := field
      obtain ⟨v', hv, h⟩ := Option.bind_eq_some_iff.mp h
      obtain ⟨rest', hrest, h⟩ := Option.bind_eq_some_iff.mp h
      cases h
      rw [fieldsTimely, Bool.and_eq_true, writeFields?_cons, writeFields?_cons]
      exact RowsAlike.cons (writtenAlike_of_kept hv) (rowsAlike_of_keptFields hrest) name

end

mutual

/-- A value that a session can keep has no written form exactly if there are bytes in it. -/
theorem write?_eq_none_iff_of_kept {v v' : Value} (h : v.kept? = some v') :
    write? v = none ↔ v.holdsBytes := by
  cases v with
  | null | real | text | halved | bytes | decimal | date =>
      simp [write?, Value.holdsBytes]
  | int n =>
      obtain ⟨hn, -⟩ := Option.ite_none_right_eq_some.mp h
      simp [write?, hn, Value.holdsBytes]
  | bool b => cases b <;> simp [write?, Value.holdsBytes]
  | moment m =>
      obtain ⟨u, hu, rfl⟩ := Option.map_eq_some_iff.mp h
      simp [write?, Moment.header?, hu, Value.holdsBytes]
  | list items =>
      obtain ⟨items', hitems, rfl⟩ := Option.map_eq_some_iff.mp h
      rw [write?, Option.map_eq_none_iff, writeItems?_eq_none_iff_of_kept hitems, Value.holdsBytes]
  | record fields =>
      obtain ⟨fields', hfields, rfl⟩ := Option.map_eq_some_iff.mp h
      rw [write?, Option.map_eq_none_iff, writeFields?_eq_none_iff_of_kept hfields,
        Value.holdsBytes]
  | mangled names values =>
      obtain ⟨values', hvalues, rfl⟩ := Option.map_eq_some_iff.mp h
      rw [write?, Option.map_eq_none_iff, writeItems?_eq_none_iff_of_kept hvalues, Value.holdsBytes]

theorem writeItems?_eq_none_iff_of_kept {items items' : List Value}
    (h : keptItems? items = some items') : writeItems? items = none ↔ itemsHoldBytes items := by
  cases items with
  | nil => simp [writeItems?, itemsHoldBytes]
  | cons v rest =>
      obtain ⟨v', hv, h⟩ := Option.bind_eq_some_iff.mp h
      obtain ⟨rest', hrest, -⟩ := Option.bind_eq_some_iff.mp h
      rw [itemsHoldBytes, Bool.or_eq_true, ← write?_eq_none_iff_of_kept hv,
        ← writeItems?_eq_none_iff_of_kept hrest, writeItems?_cons, consWritten_eq_none_iff]

theorem writeFields?_eq_none_iff_of_kept {fields fields' : List (String × Value)}
    (h : keptFields? fields = some fields') :
    writeFields? fields = none ↔ fieldsHoldBytes fields := by
  cases fields with
  | nil => simp [writeFields?, fieldsHoldBytes]
  | cons field rest =>
      obtain ⟨name, v⟩ := field
      obtain ⟨v', hv, h⟩ := Option.bind_eq_some_iff.mp h
      obtain ⟨rest', hrest, -⟩ := Option.bind_eq_some_iff.mp h
      rw [fieldsHoldBytes, Bool.or_eq_true, ← write?_eq_none_iff_of_kept hv,
        ← writeFields?_eq_none_iff_of_kept hrest, writeFields?_cons, consWritten_eq_none_iff]

end

/-- Whether a value is shown alike before it is kept in a session and after it came back. -/
def Value.isLasting (v : Value) : Bool :=
  v.isTimely && !v.holdsBytes

/-- What a value that lasts is written as, it is written as again; any other has no written form, or
gets another one. -/
theorem kept_cases {v v' : Value} (h : v.kept? = some v') :
    (v.isLasting = true ∧ ∃ text, write? v = some text ∧ write? v' = some text) ∨
      (v.isLasting = false ∧ (write? v = none ∧ write? v' = none ∨
        ∃ text other, write? v = some text ∧ write? v' = some other ∧ other ≠ text)) := by
  have halike := writtenAlike_of_kept h
  have hbytes := write?_eq_none_iff_of_kept h
  unfold Value.isLasting
  generalize write? v = written at halike hbytes ⊢
  generalize write? v' = written' at halike ⊢
  cases halike with
  | none => exact Or.inr ⟨by simp [hbytes.mp rfl], Or.inl ⟨rfl, rfl⟩⟩
  | @some text other hlength hsame =>
      have hwritable : v.holdsBytes = false := by simpa using hbytes
      cases htimely : v.isTimely with
      | true =>
          have htext : text = other := hsame.mpr htimely
          exact Or.inl ⟨by simp [hwritable], text, rfl, by rw [htext]⟩
      | false =>
          have hne : other ≠ text := fun h => by simp [hsame.mp h.symm] at htimely
          exact Or.inr ⟨by simp, Or.inr ⟨text, other, rfl, rfl, hne⟩⟩

/-! ## Users -/

theorem names_of_keptFields {fields fields' : Record} (h : keptFields? fields = some fields') :
    fields'.names = fields.names := by
  induction fields generalizing fields' with
  | nil =>
      cases h
      rfl
  | cons field rest ih =>
      obtain ⟨v', hv, h⟩ := Option.bind_eq_some_iff.mp h
      obtain ⟨rest', hrest, h⟩ := Option.bind_eq_some_iff.mp h
      cases h
      exact congrArg (field.1 :: ·) (ih hrest)

theorem mem_names_of_kept {user kept : Record} {name : String}
    (h : (Value.record user).kept? = some (.record kept)) :
    name ∈ kept.names ↔ name ∈ user.names := by
  obtain ⟨fields, hfields, hsorted⟩ := Option.map_eq_some_iff.mp h
  rw [← names_of_keptFields hfields, ← Value.record.inj hsorted]
  exact ((List.mergeSort_perm fields _).map Prod.fst).mem_iff

/-- A session that is left by a login has not ended when the client comes back. -/
def SessionKeeping.Lasts (keeping : SessionKeeping) : Prop :=
  ∀ seconds, keeping.seconds? = some seconds → ¬ seconds ≤ -1

/-- A session that lasts holds the user in the form that comes back. -/
theorem SessionKeeping.exists_of_keep? {keeping : SessionKeeping} {user : Record}
    {session : Session} (hlasts : keeping.Lasts) (h : keeping.keep? user = some session) :
    ∃ kept, session = some kept ∧ (Value.record user).kept? = some (.record kept) := by
  obtain ⟨seconds, hseconds, h⟩ := Option.bind_eq_some_iff.mp h
  by_cases hdepth : maxDepth < (Value.record user).depth
  · rw [if_pos hdepth] at h
    cases h
  · rw [if_neg hdepth] at h
    obtain ⟨value, hvalue, h⟩ := Option.bind_eq_some_iff.mp h
    obtain ⟨fields, hfields, rfl⟩ := Option.map_eq_some_iff.mp hvalue
    cases hseal : keeping.canSeal with
    | false =>
        rw [hseal] at h
        cases h
    | true =>
        rw [hseal, if_pos rfl] at h
        dsimp only at h
        rw [if_neg (hlasts seconds hseconds), Option.some.injEq] at h
        exact ⟨_, h.symm, hvalue⟩

end TableGateway
