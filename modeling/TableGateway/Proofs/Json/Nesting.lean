import TableGateway.Proofs.Json.Number
import TableGateway.Proofs.Json.Read
import TableGateway.Proofs.Json.Text

namespace TableGateway.Json

open Text

variable {depth : Nat} {text rest : List CodePoint} {value : Value}

def blanksAndEnds : List Char := [' ', '\t', '\n', '\r', ']', '\x7d']

def StartsValue (text : List CodePoint) : Prop :=
  ∃ c tail, text = .char c :: tail ∧ c ∉ blanksAndEnds

def EndsPlain (rest : List CodePoint) : Prop :=
  EndsNumber (wholeFront rest).1

/-- A text is read as a value, whatever stands behind it. Arrays and objects nest `depth` deep in
it. -/
structure Reads (depth : Nat) (text : List CodePoint) (value : Value) : Prop where
  starts : StartsValue text
  reads : ∀ {fuel room : Nat} {rest : List CodePoint}, text.length ≤ fuel → depth ≤ room →
    EndsPlain rest → readValue fuel room (text ++ rest) = .ok (value, rest)

theorem skipBlanks_cons {c : Char} (h : c ∉ blanksAndEnds) (rest : List CodePoint) :
    skipBlanks (.char c :: rest) = .char c :: rest := by
  rw [skipBlanks, if_neg]
  rintro (heq | heq | heq | heq) <;> exact h (CodePoint.char.inj heq ▸ by decide)

theorem StartsValue.append (h : StartsValue text) (rest : List CodePoint) :
    StartsValue (text ++ rest) := by
  obtain ⟨c, tail, rfl, hc⟩ := h
  exact ⟨c, tail ++ rest, rfl, hc⟩

theorem skipBlanks_of_startsValue (h : StartsValue text) : skipBlanks text = text := by
  obtain ⟨c, tail, rfl, hc⟩ := h
  exact skipBlanks_cons hc tail

/-- A text that is read may end in a line break. -/
theorem Reads.readPoints_eq {maxNesting : Nat} (h : Reads depth text value)
    (hroom : depth ≤ maxNesting) (hrest : rest = [] ∨ rest = [.char '\n']) :
    readPoints maxNesting (text ++ rest) = .ok value := by
  have hends : EndsPlain rest := by
    rcases hrest with rfl | rfl
    · exact fun c hc => nomatch hc
    · rintro _ ⟨⟩
      decide
  have hfuel : text.length ≤ 2 * (text ++ rest).length + 2 := by
    rw [List.length_append]
    omega
  rw [readPoints, skipBlanks_of_startsValue (h.starts.append rest), h.reads hfuel hroom hends]
  rcases hrest with rfl | rfl <;> rfl

/-- Only brackets and braces begin what is put together. -/
theorem readValue_simple {c : Char} {fuel room : Nat} (hlist : c ≠ '[') (hrecord : c ≠ '\x7b')
    (tail : List CodePoint) :
    readValue (fuel + 1) room (.char c :: tail) = wellFormed (readSimple? (.char c :: tail)) := by
  rw [readValue]
  · rintro _ - h
    exact hlist (CodePoint.char.inj (List.cons.inj h).1)
  · rintro _ - h
    exact hrecord (CodePoint.char.inj (List.cons.inj h).1)
  · rintro _ _ - h
    exact hlist (CodePoint.char.inj (List.cons.inj h).1)
  · rintro _ _ - h
    exact hrecord (CodePoint.char.inj (List.cons.inj h).1)

/-- What is read in one piece is read as a value. -/
theorem reads_of_readSimple?
    (hfront : ∃ c tail, text = .char c :: tail ∧ c ∉ '[' :: '\x7b' :: blanksAndEnds)
    (h : ∀ rest, EndsPlain rest → readSimple? (text ++ rest) = some (value, rest)) :
    Reads 0 text value := by
  obtain ⟨c, tail, rfl, hc⟩ := hfront
  simp only [List.mem_cons, not_or] at hc
  obtain ⟨hlist, hrecord, hc⟩ := hc
  refine ⟨⟨c, tail, rfl, by simpa [blanksAndEnds] using hc⟩, ?_⟩
  intro fuel room rest hfuel _ hrest
  obtain ⟨fuel, rfl⟩ := Nat.exists_eq_add_one_of_ne_zero (Nat.ne_zero_of_lt hfuel)
  rw [List.cons_append, readValue_simple hlist hrecord, ← List.cons_append, h rest hrest]
  rfl

theorem endsPlain_cons {c : Char} (h : c ∈ [',', ']', '\x7d', '\n']) (rest : List CodePoint) :
    EndsPlain (.char c :: rest) := by
  simp only [List.mem_cons, List.not_mem_nil, or_false] at h
  rintro _ ⟨⟩
  rcases h with rfl | rfl | rfl | rfl <;> decide

theorem Reads.readValue_mark {fuel room : Nat} (h : Reads depth text value) (mark : Char)
    (hmark : mark ∈ [',', ']', '\x7d', '\n']) (hfuel : text.length ≤ fuel) (hroom : depth ≤ room)
    (rest : List CodePoint) :
    readValue fuel room (text ++ .char mark :: rest) = .ok (value, .char mark :: rest) :=
  h.reads hfuel hroom (endsPlain_cons hmark rest)

/-- What stands between two brackets is read one level deeper. -/
theorem reads_enclosed {opening closing : Char} {body : List CodePoint}
    (hopening : opening ∉ blanksAndEnds)
    (h : ∀ {fuel room : Nat} (rest : List CodePoint), body.length < fuel → depth ≤ room →
      readValue (fuel + 1) (room + 1) (.char opening :: (body ++ .char closing :: rest)) =
        .ok (value, rest)) :
    Reads (depth + 1) (.char opening :: (body ++ [.char closing])) value := by
  refine ⟨⟨opening, _, rfl, hopening⟩, ?_⟩
  intro fuel room rest hfuel hroom _
  obtain ⟨room, rfl⟩ := Nat.exists_eq_add_one_of_ne_zero (Nat.ne_zero_of_lt hroom)
  obtain ⟨fuel, rfl⟩ := Nat.exists_eq_add_one_of_ne_zero (Nat.ne_zero_of_lt hfuel)
  rw [List.length_cons, List.length_append, List.length_singleton] at hfuel
  rw [List.cons_append, List.append_assoc, List.singleton_append]
  exact h rest (Nat.le_of_succ_le_succ hfuel) (Nat.le_of_succ_le_succ hroom)

/-! ## Arrays -/

variable {α : Type} {text : α → List CodePoint} {found : α → Value} {fuel room : Nat}

def joined (texts : List (List CodePoint)) : List CodePoint :=
  [.char ','].intercalate texts

theorem joined_singleton (first : List CodePoint) : joined [first] = first :=
  List.intercalate_singleton

theorem joined_cons_cons (first next : List CodePoint) (others : List (List CodePoint)) :
    joined (first :: next :: others) = first ++ .char ',' :: joined (next :: others) := by
  rw [joined, List.intercalate_cons_cons, List.append_assoc]
  rfl

theorem points_intercalate (texts : List (List Char)) :
    points ([','].intercalate texts) = joined (texts.map points) := by
  induction texts with
  | nil => rfl
  | cons text texts ih =>
      cases texts with
      | nil => rw [List.intercalate_singleton, List.map_singleton, joined_singleton]
      | cons next texts =>
          rw [List.intercalate_cons_cons, points_append, points_append, ih, List.map_cons,
            List.map_cons, List.map_cons, joined_cons_cons, List.append_assoc]
          rfl

theorem startsValue_joined {first : List CodePoint} (h : StartsValue first)
    (others : List (List CodePoint)) : StartsValue (joined (first :: others)) := by
  cases others with
  | nil => exact (joined_singleton first).symm ▸ h
  | cons next others => exact (joined_cons_cons first next others).symm ▸ h.append _

theorem readItems_last {text rest : List CodePoint} {item : Value}
    (h : readValue fuel room text = .ok (item, .char ']' :: rest)) :
    readItems (fuel + 1) room text = .ok ([item], rest) := by
  rw [readItems, h]
  rfl

theorem readItems_cons {text behind rest : List CodePoint} {item : Value} {items : List Value}
    (hitem : readValue fuel room text = .ok (item, .char ',' :: behind))
    (hblanks : skipBlanks behind = behind)
    (hitems : readItems fuel room behind = .ok (items, rest)) :
    readItems (fuel + 1) room text = .ok (item :: items, rest) := by
  have hcomma : skipBlanks (.char ',' :: behind) = .char ',' :: behind :=
    skipBlanks_cons (by decide) _
  rw [readItems, hitem]
  dsimp only [bind, Except.bind]
  rw [hcomma]
  simp only [hblanks, hitems]

/-- Items are read back one by one, since each ends at its comma or at the bracket. -/
theorem readItems_joined {items : List α} (hne : items ≠ [])
    (hreads : ∀ item ∈ items, Reads depth (text item) (found item))
    (hfuel : (joined (items.map text)).length < fuel) (hroom : depth ≤ room)
    (rest : List CodePoint) :
    readItems fuel room (joined (items.map text) ++ .char ']' :: rest) =
      .ok (items.map found, rest) := by
  induction items generalizing fuel with
  | nil => exact absurd rfl hne
  | cons item items ih =>
      obtain ⟨fuel, rfl⟩ := Nat.exists_eq_add_one_of_ne_zero (Nat.ne_zero_of_lt hfuel)
      obtain ⟨hitem, hitems⟩ := List.forall_mem_cons.mp hreads
      cases items with
      | nil =>
          rw [List.map_cons, List.map_nil, joined_singleton] at hfuel ⊢
          exact readItems_last
            (hitem.readValue_mark ']' (by decide) (Nat.le_of_lt_succ hfuel) hroom rest)
      | cons next items =>
          rw [List.map_cons, List.map_cons, joined_cons_cons] at hfuel ⊢
          rw [List.length_append, List.length_cons] at hfuel
          have hstarts := startsValue_joined (hitems next List.mem_cons_self).starts
            (items.map text)
          have hshort : (text item).length ≤ fuel := by omega
          have hread := hitem.readValue_mark ',' (by decide) hshort hroom
          have hlater := @ih fuel (List.cons_ne_nil _ _) hitems (by rw [List.map_cons]; omega)
          rw [List.append_assoc, List.cons_append]
          exact readItems_cons (hread _) (skipBlanks_of_startsValue (hstarts.append _)) hlater

theorem readValue_array {behind : List CodePoint} (h : StartsValue behind) :
    readValue (fuel + 1) (room + 1) (.char '[' :: behind) =
      (readItems fuel room behind).map fun (items, rest) => (.list items, rest) := by
  rw [readValue, skipBlanks_of_startsValue h]
  obtain ⟨c, tail, rfl, hc⟩ := h
  split
  · rename_i hend
    exact absurd (CodePoint.char.inj (List.cons.inj hend).1 ▸ by decide) hc
  · rfl

/-- An array of texts that are read. -/
theorem Reads.array {items : List α}
    (hreads : ∀ item ∈ items, Reads depth (text item) (found item)) :
    Reads (depth + 1) (.char '[' :: (joined (items.map text) ++ [.char ']']))
      (.list (items.map found)) := by
  refine reads_enclosed (by decide) fun {fuel room} rest hfuel hroom => ?_
  cases items with
  | nil => rfl
  | cons item items =>
      have hread := readItems_joined (List.cons_ne_nil _ _) hreads hfuel hroom rest
      have hstarts := (startsValue_joined (hreads item List.mem_cons_self).starts
        (items.map text)).append (.char ']' :: rest)
      rw [List.map_cons] at hread ⊢
      rw [readValue_array hstarts, hread]
      rfl

/-! ## Objects -/

variable {name : α → String}

def memberChars (name : String) (text : List CodePoint) : List CodePoint :=
  points (writeString name).toList ++ .char ':' :: text

def readBehindMember (fuel room : Nat) (before : Members) (name : String) :
    Value × List CodePoint → Except ReadError (Members × List CodePoint)
  | (value, rest) =>
    match skipBlanks rest with
    | .char '\x7d' :: rest => .ok (putNamed before (points name.toList) value, rest)
    | .char ',' :: rest =>
      readMembers fuel room (putNamed before (points name.toList) value) (skipBlanks rest)
    | _ => .error .malformed

theorem readMembers_memberChars {before : Members} {name : String} {text : List CodePoint}
    (hstarts : StartsValue text) :
    readMembers (fuel + 1) room before (memberChars name text) =
      (readValue fuel room text).bind (readBehindMember fuel room before name) := by
  have hcolon : skipBlanks (.char ':' :: text) = .char ':' :: text := skipBlanks_cons (by decide) text
  rw [memberChars, writeString, String.toList_ofList, points_cons, List.cons_append, points_append,
    points_cons, points_nil, List.append_assoc, List.singleton_append, readMembers,
    readString?_writeString]
  simp only [wellFormed, bind, Except.bind]
  rw [hcolon]
  simp only [skipBlanks_of_startsValue hstarts]
  rfl

theorem readMembers_last {before : Members} {name : String} {text rest : List CodePoint}
    {item : Value} (hstarts : StartsValue text)
    (hitem : readValue fuel room text = .ok (item, .char '\x7d' :: rest)) :
    readMembers (fuel + 1) room before (memberChars name text) =
      .ok (putNamed before (points name.toList) item, rest) := by
  have hbrace : skipBlanks (.char '\x7d' :: rest) = .char '\x7d' :: rest := rfl
  rw [readMembers_memberChars hstarts, hitem]
  simp only [Except.bind, readBehindMember, hbrace]

theorem readMembers_cons {before : Members} {name : String} {text behind : List CodePoint}
    {item : Value} (hstarts : StartsValue text)
    (hitem : readValue fuel room text = .ok (item, .char ',' :: behind))
    (hblanks : skipBlanks behind = behind) :
    readMembers (fuel + 1) room before (memberChars name text) =
      readMembers fuel room (putNamed before (points name.toList) item) behind := by
  have hcomma : skipBlanks (.char ',' :: behind) = .char ',' :: behind :=
    skipBlanks_cons (by decide) behind
  rw [readMembers_memberChars hstarts, hitem]
  simp only [Except.bind, readBehindMember, hcomma, hblanks]

theorem memberChars_append (name : String) (text rest : List CodePoint) :
    memberChars name text ++ rest = memberChars name (text ++ rest) :=
  List.append_assoc _ _ _

theorem startsValue_memberChars (name : String) (text : List CodePoint) :
    StartsValue (memberChars name text) := by
  rw [memberChars, writeString, String.toList_ofList]
  exact ⟨'"', _, rfl, by decide⟩

theorem length_lt_memberChars (name : String) (text : List CodePoint) :
    text.length < (memberChars name text).length := by
  rw [memberChars, List.length_append, List.length_cons]
  omega

/-- The members of an object are read behind those that were read before. -/
theorem readMembers_joined (before : Members) {members : List α} (hne : members ≠ [])
    (hnames : (before.map Prod.fst ++ members.map fun member => points (name member).toList).Nodup)
    (hreads : ∀ member ∈ members, Reads depth (text member) (found member))
    (hfuel : (joined (members.map fun member => memberChars (name member) (text member))).length <
      fuel)
    (hroom : depth ≤ room) (rest : List CodePoint) :
    readMembers fuel room before
        (joined (members.map fun member => memberChars (name member) (text member)) ++
          .char '\x7d' :: rest) =
      .ok (before ++ spelled (members.map fun member => (name member, found member)), rest) := by
  induction members generalizing fuel before with
  | nil => exact absurd rfl hne
  | cons member members ih =>
      obtain ⟨fuel, rfl⟩ := Nat.exists_eq_add_one_of_ne_zero (Nat.ne_zero_of_lt hfuel)
      obtain ⟨hmember, hmembers⟩ := List.forall_mem_cons.mp hreads
      have hlength := length_lt_memberChars (name member) (text member)
      have hput : putNamed before (points (name member).toList) (found member) =
          before ++ [(points (name member).toList, found member)] := by
        refine putNamed_of_notMem (fun hmem => ?_) _
        exact (List.nodup_append.mp hnames).2.2 _ hmem _ List.mem_cons_self rfl
      cases members with
      | nil =>
          rw [List.map_cons, List.map_nil, joined_singleton] at hfuel ⊢
          have hshort : (text member).length ≤ fuel := by omega
          have hread := hmember.readValue_mark '\x7d' (by decide) hshort hroom
          rw [memberChars_append, readMembers_last (hmember.starts.append _) (hread rest), hput]
          rfl
      | cons next members =>
          rw [List.map_cons, List.map_cons, joined_cons_cons] at hfuel ⊢
          rw [List.length_append, List.length_cons] at hfuel
          have hshort : (text member).length ≤ fuel := by omega
          have hread := hmember.readValue_mark ',' (by decide) hshort hroom
          have hstarts := startsValue_joined (startsValue_memberChars (name next) (text next))
            (members.map fun member => memberChars (name member) (text member))
          have hlater := @ih fuel (putNamed before (points (name member).toList) (found member))
            (List.cons_ne_nil _ _) (by simpa [hput] using hnames) hmembers
            (by rw [List.map_cons]; omega)
          rw [List.map_cons] at hlater
          rw [List.append_assoc, List.cons_append, memberChars_append,
            readMembers_cons (hmember.starts.append _) (hread _)
              (skipBlanks_of_startsValue (hstarts.append _)), hlater, hput, List.append_assoc]
          rfl

theorem readValue_object {behind : List CodePoint} (h : StartsValue behind) :
    readValue (fuel + 1) (room + 1) (.char '\x7b' :: behind) =
      (readMembers fuel room [] behind).map fun (members, rest) => (.ofMembers members, rest) := by
  rw [readValue, skipBlanks_of_startsValue h]
  obtain ⟨c, tail, rfl, hc⟩ := h
  split
  · rename_i hend
    exact absurd (CodePoint.char.inj (List.cons.inj hend).1 ▸ by decide) hc
  · rfl

/-- An object of texts that are read, each under another name. -/
theorem Reads.object {members : List α} (hnames : (members.map name).Nodup)
    (hreads : ∀ member ∈ members, Reads depth (text member) (found member)) :
    Reads (depth + 1)
      (.char '\x7b' :: (joined (members.map fun member =>
        memberChars (name member) (text member)) ++ [.char '\x7d']))
      (.record (members.map fun member => (name member, found member))) := by
  refine reads_enclosed (by decide) fun {fuel room} rest hfuel hroom => ?_
  cases members with
  | nil => rfl
  | cons member members =>
      have hnodup : (List.map Prod.fst ([] : Members) ++
          (member :: members).map fun member => points (name member).toList).Nodup := by
        have hspelled := hnames.map points_toList_injective
        rwa [List.map_map] at hspelled
      have hread := readMembers_joined [] (List.cons_ne_nil _ _) hnodup hreads hfuel hroom rest
      have hstarts := (startsValue_joined (startsValue_memberChars (name member) (text member))
        (members.map fun member => memberChars (name member) (text member))).append
          (.char '\x7d' :: rest)
      rw [List.map_cons] at hread ⊢
      rw [readValue_object hstarts, hread]
      exact congrArg (fun value => Except.ok (value, rest)) (ofMembers_spelled _)

end TableGateway.Json
