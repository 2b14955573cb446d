import TableGateway.Proofs.Number.Write
import TableGateway.Proofs.Query.Reading
import TableGateway.Proofs.Sql.Spelling
import TableGateway.Proofs.Text.Find
import TableGateway.Proofs.Text.Intercalate
import TableGateway.Value.Display

namespace TableGateway

open Text Number

/-! ## Texts -/

def Join.mark : Join → String
  | .and => ""
  | .or => "|"

def Clause.text (c : Clause) : String :=
  c.join.mark ++ c.field ++ c.op.symbol ++ c.value.display

def Direction.mark : Direction → String
  | .asc => ""
  | .desc => "-"

def SortEntry.text (entry : SortEntry) : String :=
  entry.direction.mark ++ entry.field

def Control.text (word : Control) (raw : String) : String :=
  word.name ++ "=" ++ raw

/-! ## Operators -/

/-- No operator that is looked for before `op` occurs in `op` with a value behind it. -/
def Operator.Leads (op : Operator) (value : List Char) : Prop :=
  ∀ earlier ∈ Operator.searchOrder.takeWhile (· ≠ op),
    ¬ earlier.symbol.toList <:+: op.symbol.toList ++ value

def IsKeyChar (c : Char) : Prop :=
  isNameChar c ∨ c = '\n' ∨ c = '|'

/-- No operator begins like a key, so the first one ends the key. -/
theorem Operator.exists_symbol_eq (op : Operator) :
    ∃ m rest, op.symbol.toList = m :: rest ∧ ¬ IsKeyChar m := by
  unfold IsKeyChar
  cases op with
  | ne => exact ⟨'!', ['='], rfl, by decide⟩
  | ge => exact ⟨'>', ['='], rfl, by decide⟩
  | le => exact ⟨'<', ['='], rfl, by decide⟩
  | eq => exact ⟨'=', [], rfl, by decide⟩
  | gt => exact ⟨'>', [], rfl, by decide⟩
  | lt => exact ⟨'<', [], rfl, by decide⟩
  | regex => exact ⟨'≈', [], rfl, by decide⟩

/-- An equals sign leads any value without the marks of the operators before it. -/
theorem Operator.leads_eq {value : List Char} (h : ∀ m ∈ ['!', '>', '<'], m ∉ value) :
    Operator.eq.Leads value := by
  intro earlier hmem hoccurs
  have hearlier : earlier ∈ [Operator.ne, .ge, .le] := hmem
  obtain ⟨m, hm, hsymbol⟩ : ∃ m ∈ ['!', '>', '<'], m ∈ earlier.symbol.toList := by
    simp only [List.mem_cons, List.not_mem_nil, or_false] at hearlier
    rcases hearlier with rfl | rfl | rfl
    · exact ⟨'!', by decide, by decide⟩
    · exact ⟨'>', by decide, by decide⟩
    · exact ⟨'<', by decide, by decide⟩
  rcases List.mem_append.mp (hoccurs.subset hsymbol) with heq | hvalue
  · rw [List.mem_singleton.mp heq] at hm
    exact absurd hm (by decide)
  · exact h m hm hvalue

theorem Operator.exists_searchOrder_eq (op : Operator) :
    ∃ later, searchOrder = searchOrder.takeWhile (· ≠ op) ++ op :: later := by
  cases op <;> exact ⟨_, rfl⟩

theorem Operator.cut?_symbol_append (op : Operator) {key : List Char}
    (hkey : ∀ c ∈ key, IsKeyChar c) (rest : List Char) :
    cut? op.symbol.toList (key ++ rest) =
      (cut? op.symbol.toList rest).map fun found => (key ++ found.1, found.2) := by
  obtain ⟨m, symbol, hsymbol, hm⟩ := op.exists_symbol_eq
  rw [hsymbol]
  exact cut?_append (fun hmem => hm (hkey m hmem)) symbol rest

/-- The operator behind a key is found, unless an earlier one occurs. -/
theorem findOperator?_append {op : Operator} {key value : List Char}
    (hkey : ∀ c ∈ key, IsKeyChar c) (hleads : op.Leads value) :
    findOperator? (key ++ (op.symbol.toList ++ value)) = some (op, key, value) := by
  obtain ⟨later, horder⟩ := op.exists_searchOrder_eq
  rw [findOperator?, List.findSome?_eq_some_iff]
  refine ⟨_, op, later, horder, ?_, ?_⟩
  · rw [op.cut?_symbol_append hkey, cut?_self_append]
    simp
  · intro earlier hmem
    rw [earlier.cut?_symbol_append hkey, cut?_eq_none_iff.mpr (hleads earlier hmem)]
    rfl

/-! ## Clauses -/

/-- What a value of a clause may be for its text to be read as that value. -/
def Clause.HasReadableValue (c : Clause) : Prop :=
  (∃ n, c.op ≠ .regex ∧ c.value = .int n ∧ (Nat.toDigits 10 n.natAbs).length ≤ maxDigits) ∨
    ∃ s, c.value = .text s ∧ (c.op = .regex ∨ Number.read? s.toList = .ok none)

structure Clause.IsReadable (c : Clause) : Prop where
  identifier : isIdentifier c.field
  unreserved : Control.ofName? c.field = none
  value : c.HasReadableValue
  leads : c.op.Leads c.value.display.toList

/-- A shown value is read as that value again. -/
theorem Clause.readValue_display {c : Clause} (h : c.HasReadableValue) :
    c.op.readValue c.value.display = .ok c.value := by
  obtain ⟨n, hop, hvalue, hlength⟩ | ⟨s, hvalue, hop | hread⟩ := h
  · have hdisplay : c.value.display = writeInt n := by
      rw [hvalue]
      rfl
    have hnumber : Value.ofText (writeInt n) = .ok (.int n) := by
      rw [Value.ofText, read?_writeInt hlength]
      rfl
    rw [hdisplay, hvalue, ← hnumber]
    unfold Operator.readValue
    split
    · exact absurd ‹_› hop
    · rfl
  · rw [hvalue, hop]
    rfl
  · have htext : Value.ofText s = .ok (.text s) := by
      rw [Value.ofText, hread]
      rfl
    rw [hvalue]
    unfold Operator.readValue
    split
    · rfl
    · exact htext

theorem isKeyChar_of_mem_identifier {s : String} (h : isIdentifier s) {c : Char}
    (hc : c ∈ s.toList) : IsKeyChar c :=
  (isNameChar_or_of_mem_identifier h hc).imp_right Or.inl

theorem takeJoin_of_ne {c : Char} (h : c ≠ '|') (rest : List Char) :
    takeJoin (c :: rest) = (.and, c :: rest) := by
  unfold takeJoin
  split
  · rename_i heq
    exact absurd (List.cons.inj heq).1 h
  · rfl

theorem takeJoin_mark_append {field : String} (h : isIdentifier field) (join : Join) :
    takeJoin (join.mark.toList ++ field.toList) = (join, field.toList) := by
  cases join with
  | or => rfl
  | and =>
      obtain ⟨c, rest, hfield, hstart⟩ := exists_toList_of_isIdentifier h
      rw [hfield]
      exact takeJoin_of_ne (ne_of_isNameStart hstart (by decide)) rest

/-- A clause is read from its text. -/
theorem Token.read_clause {c : Clause} (h : c.IsReadable) :
    Token.read c.text = .ok (.clause c) := by
  have htext : c.text.toList =
      (c.join.mark.toList ++ c.field.toList) ++ (c.op.symbol.toList ++ c.value.display.toList) := by
    simp only [Clause.text, String.toList_append, List.append_assoc]
  have hkey : ∀ d ∈ c.join.mark.toList ++ c.field.toList, IsKeyChar d := by
    intro d hd
    rcases List.mem_append.mp hd with hd | hd
    · cases hjoin : c.join with
      | and => simp [hjoin, Join.mark] at hd
      | or =>
          rw [hjoin] at hd
          exact Or.inr (Or.inr (List.mem_singleton.mp hd))
    · exact isKeyChar_of_mem_identifier h.identifier hd
  rw [Token.read, htext, findOperator?_append hkey h.leads]
  simp only [takeJoin_mark_append h.identifier, String.ofList_toList, h.unreserved, h.identifier,
    if_true, Clause.readValue_display h.value]
  rfl

/-- A control word is read from its text, if what it sets has no marks of other operators. -/
theorem Token.read_control (word : Control) {raw : String}
    (h : ∀ m ∈ ['!', '>', '<'], m ∉ raw.toList) :
    Token.read (word.text raw) = .ok (.control word raw) := by
  have htext : (word.text raw).toList =
      word.name.toList ++ (Operator.eq.symbol.toList ++ raw.toList) := by
    simp only [Control.text, String.toList_append, List.append_assoc]
    rfl
  have hkey : ∀ d ∈ word.name.toList, IsKeyChar d := by
    intro d hd
    exact isKeyChar_of_mem_identifier (by cases word <;> decide) hd
  have hcontrol : Control.ofName? word.name = some word := Control.ofName?_eq_some_iff.mpr rfl
  have hjoin : takeJoin word.name.toList = (.and, word.name.toList) := by cases word <;> rfl
  rw [Token.read, htext, findOperator?_append hkey (Operator.leads_eq h)]
  simp only [hjoin, String.ofList_toList, hcontrol, if_true]

/-! ## Control words -/

theorem readCount?_writeInt {least n : Nat} (hleast : least ≤ n)
    (hlength : (Nat.toDigits 10 n).length ≤ maxDigits) :
    readCount? least (writeInt n) = .ok (some n) := by
  have hread : Number.read? (writeInt n).toList = .ok (some (.int n)) := read?_writeInt hlength
  have hle : (least : Int) ≤ n := by omega
  rw [readCount?, hread]
  simp [hle, bind, Except.bind, pure, Except.pure]

/-! ## Sort entries -/

theorem isIdentifier_of_isPlainName {s : String} (h : Sql.IsPlainName s) : isIdentifier s := by
  obtain ⟨c, rest, hs, hstart, hrest⟩ := h
  simp [isIdentifier, hs, hstart, isNameTail_of_forall hrest]

theorem SortEntry.mem_text {entry : SortEntry} (h : Sql.IsPlainName entry.field) {c : Char}
    (hc : c ∈ entry.text.toList) : isNameChar c ∨ c = '-' := by
  rw [SortEntry.text, String.toList_append] at hc
  rcases List.mem_append.mp hc with hc | hc
  · cases hdirection : entry.direction with
    | asc => simp [hdirection, Direction.mark] at hc
    | desc =>
        rw [hdirection] at hc
        exact Or.inr (List.mem_singleton.mp hc)
  · exact Or.inl (h.isNameChar c hc)

/-- A minus sign in front of a name is no part of it. -/
theorem SortEntry.read?_text {entry : SortEntry} (h : Sql.IsPlainName entry.field) :
    SortEntry.read? entry.text.toList = some entry := by
  have htrim : trim entry.text.toList = entry.text.toList := by
    refine trim_eq_self fun c hc => ?_
    rcases SortEntry.mem_text h hc with hname | rfl
    · exact isBlank_eq_false_of_isNameChar hname
    · decide
  have hidentifier := isIdentifier_of_isPlainName h
  obtain ⟨c, rest, hs, hstart, -⟩ := h
  obtain ⟨field, direction⟩ := entry
  rw [SortEntry.read?, htrim, SortEntry.text, String.toList_append]
  cases direction with
  | desc => simp [Direction.mark, String.ofList_toList, hidentifier]
  | asc =>
      have hfield : String.ofList (c :: rest) = field := by rw [← hs, String.ofList_toList]
      simp only [Direction.mark, String.toList_empty, List.nil_append, hs]
      split
      · rename_i heq
        exact absurd (List.cons.inj heq).1 (ne_of_isNameStart hstart (by decide))
      · rw [hfield, if_pos hidentifier]

theorem SortEntry.notMem_text {entry : SortEntry} (h : Sql.IsPlainName entry.field) {m : Char}
    (hname : isNameChar m = false) (hminus : m ≠ '-') : m ∉ entry.text.toList := by
  intro hmem
  rcases SortEntry.mem_text h hmem with hnameChar | heq
  · rw [hname] at hnameChar
    cases hnameChar
  · exact hminus heq

/-- No plain name holds a comma, so entries are split where they were joined. -/
theorem readSort_text {entries : List SortEntry} (hne : entries ≠ [])
    (h : ∀ entry ∈ entries, Sql.IsPlainName entry.field) :
    readSort (",".intercalate (entries.map SortEntry.text)) = (entries, []) := by
  have hsplit : (",".intercalate (entries.map SortEntry.text)).toList.splitOn ',' =
      entries.map fun entry => entry.text.toList := by
    rw [String.toList_intercalate, List.map_map]
    refine List.splitOn_intercalate ',' ?_ (by simpa using hne)
    intro item hitem
    obtain ⟨entry, hentry, rfl⟩ := List.mem_map.mp hitem
    exact SortEntry.notMem_text (h entry hentry) (by decide) (by decide)
  have hread : ∀ entry ∈ entries, SortEntry.read? entry.text.toList = some entry :=
    fun entry hentry => SortEntry.read?_text (h entry hentry)
  have hkept :
      (entries.map fun entry => entry.text.toList).filterMap SortEntry.read? = entries := by
    rw [List.filterMap_map]
    calc
      entries.filterMap (SortEntry.read? ∘ fun entry => entry.text.toList) =
          entries.filterMap some := List.filterMap_congr hread
      _ = entries := List.filterMap_some
  have hdropped : (entries.map fun entry => entry.text.toList).filter
      (fun item => (SortEntry.read? item).isNone) = [] := by
    rw [List.filter_eq_nil_iff]
    intro item hitem
    obtain ⟨entry, hentry, rfl⟩ := List.mem_map.mp hitem
    simp [hread entry hentry]
  rw [readSort, hsplit, hkept, hdropped, List.map_nil]

theorem notMem_sortText {entries : List SortEntry}
    (h : ∀ entry ∈ entries, Sql.IsPlainName entry.field) {m : Char} (hname : isNameChar m = false)
    (hminus : m ≠ '-') (hcomma : m ≠ ',') :
    m ∉ (",".intercalate (entries.map SortEntry.text)).toList := by
  refine notMem_intercalate (by simpa using hcomma) ?_
  intro text htext
  obtain ⟨entry, hentry, rfl⟩ := List.mem_map.mp htext
  exact SortEntry.notMem_text (h entry hentry) hname hminus

end TableGateway
