import TableGateway.Proofs.Json.Nesting
import TableGateway.Proofs.Json.Write

namespace TableGateway

open Text Number

/-- What a value of a column is after it was written and read. -/
inductive Value.Shows : Value → Value → Prop
  | null : Shows .null .null
  | bool (b : Bool) : Shows (.bool b) (.bool b)
  | int (n : Int) : Shows (.int n) (.int n)
  | real {x y : Float} (h : Json.read 0 (Json.writeReal x).toList = .ok (.real y)) :
      Shows (.real x) (.real y)
  | text (s : String) : Shows (.text s) (.text s)
  | decimal (d : Decimal) : Shows (.decimal d) (.text d.text)
  | date (d : Date) : Shows (.date d) (.text d.header)
  | moment {m : Moment} {header : String} (h : m.header? = some header) :
      Shows (.moment m) (.text header)

def Record.Shows (row served : Record) : Prop :=
  List.Forall₂ (fun field shown => shown.1 = field.1 ∧ field.2.Shows shown.2) row.sorted served

/-- A value that a column can hold. Half of a character comes from JSON only. -/
def Value.IsScalar : Value → Prop
  | .halved _ => False
  | .list _ => False
  | .record _ => False
  | .mangled _ _ => False
  | _ => True

/-- A value of a column that can be written and read: no bytes, no moment that leaves the calendar
in universal time, no integer with too many digits. -/
def Value.IsServable : Value → Prop
  | .int n => (Nat.toDigits 10 n.natAbs).length ≤ maxDigits
  | .bytes _ => False
  | .moment m => m.header?.isSome
  | _ => True

structure Record.IsRow (row : Record) : Prop where
  namesOnce : row.NamesOnce
  scalar : ∀ field ∈ row, field.2.IsScalar

def Record.IsServable (row : Record) : Prop :=
  ∀ field ∈ row, field.2.IsServable

namespace Json

/-! ## Values of columns -/

theorem points_wholeFront (text : List CodePoint) :
    points (wholeFront text).1 ++ (wholeFront text).2 = text := by
  induction text with
  | nil => rfl
  | cons point text ih =>
      cases point with
      | char c => exact congrArg (CodePoint.char c :: ·) ih
      | half h => rfl

theorem wholeFront_points_append (text : List Char) (rest : List CodePoint) :
    wholeFront (points text ++ rest) = (text ++ (wholeFront rest).1, (wholeFront rest).2) := by
  induction text with
  | nil => rfl
  | cons c text ih => rw [points_cons, List.cons_append, wholeFront, ih, List.cons_append]

/-- A text that is read as a word or a number is read as a value. -/
theorem reads_of_readPlain? {text : List Char} {value : Value}
    (hfront : ∃ c tail, text = c :: tail ∧ c ∉ '"' :: '[' :: '\x7b' :: blanksAndEnds)
    (h : ∀ rest, EndsNumber rest → readPlain? (text ++ rest) = some (value, rest)) :
    Reads 0 (points text) value := by
  obtain ⟨c, tail, rfl, hc⟩ := hfront
  obtain ⟨hquote, hc⟩ := not_or.mp (mt List.mem_cons.mpr hc)
  refine reads_of_readSimple? ⟨c, points tail, rfl, hc⟩ fun rest hrest => ?_
  rw [points_cons, List.cons_append, readSimple?]
  · rw [← List.cons_append, ← points_cons, wholeFront_points_append]
    dsimp only
    rw [h _ hrest, Option.map_some, points_wholeFront]
  · rintro _ hcons
    exact hquote (CodePoint.char.inj (List.cons.inj hcons).1)

theorem reads_word {word : List Char} {value : Value} (h : (word, value) ∈ words) :
    Reads 0 (points word) value := by
  refine reads_of_readPlain? ?_ fun rest _ => readPlain?_word h rest
  simp only [words, List.mem_cons, List.not_mem_nil, or_false, Prod.mk.injEq] at h
  rcases h with ⟨rfl, -⟩ | ⟨rfl, -⟩ | ⟨rfl, -⟩ | ⟨rfl, -⟩ | ⟨rfl, -⟩ | ⟨rfl, -⟩
  all_goals exact ⟨_, _, rfl, by decide⟩

/-- A spelled number is read as its value, and its sign belongs to it. -/
theorem reads_chars {n : Spelling} {value : Value} (hn : n.IsValid) {negative : Bool}
    (hvalue : n.value? negative = some value) :
    Reads 0 (points (if negative then '-' :: n.chars else n.chars)) value := by
  refine reads_of_readPlain? ?_ fun rest hrest => ?_
  · obtain ⟨c, tail, hchars, hc⟩ := exists_cons_chars hn
    have hmarks : ('"' :: '[' :: '\x7b' :: blanksAndEnds).all fun mark => !mark.isDigit := rfl
    cases negative with
    | true => exact ⟨'-', _, rfl, by decide⟩
    | false =>
        refine ⟨c, tail, hchars, fun hmem => ?_⟩
        have hmark := List.all_eq_true.mp hmarks c hmem
        rw [hc] at hmark
        cases hmark
  · rw [readPlain?_chars hn hrest negative, hvalue, Option.map_some]

theorem readSimple?_quote (tail : List CodePoint) :
    readSimple? (.char '"' :: tail) =
      (readString? (tail.length + 1) tail).map fun (s, rest) => (.ofPoints s, rest) :=
  rfl

theorem reads_writeString (s : String) : Reads 0 (points (writeString s).toList) (.text s) := by
  rw [writeString, String.toList_ofList, points_cons, points_append]
  refine reads_of_readSimple? ⟨_, _, rfl, by decide⟩ ?_
  intro rest _
  rw [List.cons_append, List.append_assoc, points_cons, points_nil, List.singleton_append,
    readSimple?_quote, readString?_writeString, Option.map_some]
  dsimp only
  rw [ofPoints_points]

theorem reads_writeInt {n : Int} (h : isWritable n) :
    Reads 0 (points (writeInt n).toList) (.int n) := by
  have hvalue : (wholeSpelling n.natAbs).value? (decide (n < 0)) = some (.int n) := by
    rw [value?_wholeSpelling, signed_natAbs, if_pos (of_decide_eq_true h)]
  have hreads := reads_chars (isValid_wholeSpelling n.natAbs) hvalue
  have hchars : (wholeSpelling n.natAbs).chars = Nat.toDigits 10 n.natAbs := List.append_nil _
  rw [writeInt, String.toList_ofList]
  simpa only [hchars, decide_eq_true_eq] using hreads

/-- A floating-point number is read as one. -/
theorem exists_reads_writeReal (x : Float) :
    ∃ y, Reads 0 (points (writeReal x).toList) (.real y) := by
  have hnan : ("NaN".toList, Value.real (0.0 / 0.0)) ∈ words := by simp [words]
  have hinf : ("Infinity".toList, Value.real (1.0 / 0.0)) ∈ words := by simp [words]
  have hminus : ("-Infinity".toList, Value.real (-(1.0 / 0.0))) ∈ words := by simp [words]
  unfold writeReal
  split_ifs with hx hsize hsign
  · exact ⟨_, reads_word hnan⟩
  · exact ⟨_, reads_word hminus⟩
  · exact ⟨_, reads_word hinf⟩
  · obtain ⟨n, hchars, hn, hwhole⟩ :=
      exists_spelling_writeFloat (Bool.not_eq_true _ ▸ hx) (Bool.not_eq_true _ ▸ hsize)
    obtain ⟨y, hvalue⟩ := Spelling.exists_value?_eq hwhole (hasMinus x)
    exact ⟨y, hchars ▸ reads_chars hn hvalue⟩

/-- The written form of a value of a column is read. -/
theorem exists_reads_of_isScalar {v : Value} (hv : v.IsScalar) {written : String}
    (h : write? v = some written) : ∃ shown, Reads 0 (points written.toList) shown ∧
      v.Shows shown := by
  cases v with
  | null =>
      obtain rfl := Option.some.inj h
      exact ⟨_, reads_word (by simp [words]), .null⟩
  | bool b =>
      cases b <;> obtain rfl := Option.some.inj h <;>
        exact ⟨_, reads_word (by simp [words]), .bool _⟩
  | int n =>
      obtain ⟨hwritable, hwritten⟩ := Option.ite_none_right_eq_some.mp h
      cases hwritten
      exact ⟨_, reads_writeInt hwritable, .int n⟩
  | real x =>
      obtain rfl := Option.some.inj h
      obtain ⟨y, hreads⟩ := exists_reads_writeReal x
      have hread := hreads.readPoints_eq (Nat.le_refl 0) (.inl rfl)
      rw [List.append_nil] at hread
      exact ⟨_, hreads, .real hread⟩
  | text s =>
      obtain rfl := Option.some.inj h
      exact ⟨_, reads_writeString s, .text s⟩
  | halved s => exact hv.elim
  | list items => exact hv.elim
  | record fields => exact hv.elim
  | mangled names values => exact hv.elim
  | decimal d =>
      obtain rfl := Option.some.inj h
      exact ⟨_, reads_writeString d.text, .decimal d⟩
  | bytes data => cases h
  | date d =>
      obtain rfl := Option.some.inj h
      exact ⟨_, reads_writeString d.header, .date d⟩
  | moment m =>
      obtain ⟨header, hheader, rfl⟩ := Option.map_eq_some_iff.mp h
      exact ⟨_, reads_writeString header, .moment hheader⟩

/-- Among the values of a column those that can be read back are those that can be written. -/
theorem isSome_write?_iff {v : Value} (hv : v.IsScalar) :
    (write? v).isSome ↔ v.IsServable := by
  cases v with
  | bool b => cases b <;> exact iff_of_true rfl trivial
  | int n =>
      have hwritable : isWritable n ↔ (Value.int n).IsServable := decide_eq_true_iff
      rw [write?, Option.isSome_ite, hwritable]
  | halved s => exact hv.elim
  | list items => exact hv.elim
  | record fields => exact hv.elim
  | mangled names values => exact hv.elim
  | bytes data => exact iff_of_false Bool.false_ne_true id
  | moment m => rw [write?, Option.isSome_map, Value.IsServable]
  | _ => exact iff_of_true rfl trivial

/-! ## Rows -/

variable {row : Record} {rows : List Record} {written : String}

theorem points_intercalate_comma (texts : List String) :
    points (",".intercalate texts).toList =
      joined (texts.map fun text => points text.toList) := by
  have hcomma : ",".toList = [','] := rfl
  rw [String.toList_intercalate, hcomma, points_intercalate, List.map_map]
  rfl

theorem points_writtenList (texts : List String) :
    points ("[" ++ ",".intercalate texts ++ "]").toList =
      .char '[' :: (joined (texts.map fun text => points text.toList) ++ [.char ']']) := by
  rw [String.toList_append, String.toList_append, points_append, points_append,
    points_intercalate_comma]
  rfl

theorem points_writeMembers (row : Record) :
    points (writeMembers (row.map memberOf)).toList =
      .char '\x7b' :: (joined (row.sorted.map fun field =>
        memberChars field.1 (points (memberOf field).2.toList)) ++ [.char '\x7d']) := by
  have hsorted := mergeSort_mergeSort_nameLe (row.map memberOf)
  rw [← writeMembers_mergeSort, ← map_memberOf_sorted, writeMembers, writeObject]
  rw [← map_memberOf_sorted] at hsorted
  unfold nameLe at hsorted
  rw [hsorted, String.toList_append, String.toList_append, points_append, points_append,
    points_intercalate_comma, List.map_map, List.map_map]
  simp [memberChars, memberOf, Function.comp_def]

theorem mem_sorted {field : String × Value} : field ∈ row.sorted ↔ field ∈ row :=
  List.mem_mergeSort

/-- A row is read back under the names that it was written with. -/
theorem exists_reads_record (hrow : row.IsRow) (h : write? (.record row) = some written) :
    ∃ served : Record, Reads 1 (points written.toList) (.record served) ∧ row.Shows served := by
  obtain ⟨members, hmembers, rfl⟩ := Option.map_eq_some_iff.mp h
  rw [writeFields?_eq] at hmembers
  obtain ⟨hall, hmembers⟩ := Option.ite_none_right_eq_some.mp hmembers
  cases hmembers
  have hfield : ∀ field ∈ row.sorted, ∃ shown,
      Reads 0 (points (memberOf field).2.toList) shown ∧ field.2.Shows shown := by
    intro field hfield
    have hmem := mem_sorted.mp hfield
    obtain ⟨text, htext⟩ := Option.isSome_iff_exists.mp (List.all_eq_true.mp hall field hmem)
    rw [memberOf, htext]
    exact exists_reads_of_isScalar (hrow.scalar field hmem) htext
  choose! shown hshown using hfield
  have hnodup : (row.sorted.map Prod.fst).Nodup :=
    ((List.mergeSort_perm row _).map Prod.fst).nodup_iff.mpr hrow.namesOnce
  have hreads := Reads.object hnodup fun field hfield => (hshown field hfield).1
  rw [points_writeMembers]
  refine ⟨_, hreads, List.forall₂_map_right_iff.mpr (List.forall₂_same.mpr ?_)⟩
  exact fun field hfield => ⟨rfl, (hshown field hfield).2⟩

theorem isSome_write?_record_iff (hrow : row.IsRow) :
    (write? (.record row)).isSome ↔ row.IsServable := by
  rw [write?, Option.isSome_map, writeFields?_eq, Option.isSome_ite, List.all_eq_true]
  exact forall₂_congr fun field hfield => isSome_write?_iff (hrow.scalar field hfield)

/-- Rows are read back in their order. -/
theorem exists_reads_rows (hrows : ∀ row ∈ rows, row.IsRow)
    (h : write? (.list (rows.map .record)) = some written) :
    ∃ served : List Record, Reads 2 (points written.toList) (.list (served.map .record)) ∧
      List.Forall₂ Record.Shows rows served := by
  obtain ⟨texts, htexts, rfl⟩ := Option.map_eq_some_iff.mp h
  rw [writeItems?_eq] at htexts
  obtain ⟨hall, htexts⟩ := Option.ite_none_right_eq_some.mp htexts
  cases htexts
  have hrow : ∀ row ∈ rows, ∃ served : Record,
      Reads 1 (points (itemOf (.record row)).toList) (.record served) ∧ row.Shows served := by
    intro row hrow
    have hwritten := List.all_eq_true.mp hall (.record row) (List.mem_map_of_mem hrow)
    obtain ⟨text, htext⟩ := Option.isSome_iff_exists.mp hwritten
    rw [itemOf, htext]
    exact exists_reads_record (hrows row hrow) htext
  choose! served hserved using hrow
  have hreads := Reads.array fun row hrow => (hserved row hrow).1
  rw [points_writtenList, List.map_map, List.map_map]
  refine ⟨rows.map served, ?_, List.forall₂_map_right_iff.mpr (List.forall₂_same.mpr ?_)⟩
  · rw [List.map_map]
    exact hreads
  · exact fun row hrow => (hserved row hrow).2

theorem isSome_write?_rows_iff (hrows : ∀ row ∈ rows, row.IsRow) :
    (write? (.list (rows.map .record))).isSome ↔ ∀ row ∈ rows, row.IsServable := by
  rw [write?, Option.isSome_map, writeItems?_eq, Option.isSome_ite, List.all_eq_true,
    List.forall_mem_map]
  exact forall₂_congr fun row hrow => isSome_write?_record_iff (hrows row hrow)

end Json

end TableGateway
