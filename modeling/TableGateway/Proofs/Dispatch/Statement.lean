import Mathlib.Data.List.Basic
import TableGateway.Dispatch.Draft
import TableGateway.Proofs.Query.Identifier
import TableGateway.Proofs.Text.Intercalate

namespace TableGateway

open Text

def Statement.keyword (s : Statement) : String :=
  String.ofList (s.sql.toList.takeWhile (· ≠ ' '))

/-- The first word of a statement ends at its first blank. -/
theorem Statement.keyword_eq {s : Statement} {word : String} (hword : ' ' ∉ word.toList)
    (h : ∃ rest, s.sql.toList = word.toList ++ ' ' :: rest) : s.keyword = word := by
  obtain ⟨rest, h⟩ := h
  have htake : s.sql.toList.takeWhile (· ≠ ' ') = word.toList := by
    rw [h, List.takeWhile_append_of_pos]
    · simp
    · intro c hc
      have hne : c ≠ ' ' := by
        rintro rfl
        exact hword hc
      simpa using hne
  rw [keyword, htake, String.ofList_toList]

theorem keyword_selectStatement (regexOperator resource : String) (q : Query) (id : Option Value) :
    (selectStatement regexOperator resource q id).keyword = "SELECT" := by
  obtain ⟨pieces, hsql⟩ : ∃ pieces, (selectStatement regexOperator resource q id).sql =
      " ".intercalate (("SELECT * FROM " ++ resource) :: pieces) := ⟨_, rfl⟩
  obtain ⟨tail, htail⟩ := toList_intercalate_cons " " ("SELECT * FROM " ++ resource) pieces
  rw [← hsql, String.toList_append, List.append_assoc] at htail
  exact Statement.keyword_eq (by decide) ⟨_, htail⟩

theorem keyword_insertStatement (resource : String) (body : Record) :
    (insertStatement resource body).keyword = "INSERT" := by
  refine Statement.keyword_eq (by decide) ?_
  unfold insertStatement
  simp only [String.toList_append, List.append_assoc]
  exact ⟨_, rfl⟩

theorem keyword_updateStatement (resource : String) (body : Record) (id : Value) :
    (updateStatement resource body id).keyword = "UPDATE" := by
  refine Statement.keyword_eq (by decide) ?_
  unfold updateStatement
  simp only [String.toList_append, List.append_assoc]
  exact ⟨_, rfl⟩

theorem keyword_deleteStatement (resource : String) (id : Value) :
    (deleteStatement resource id).keyword = "DELETE" := by
  refine Statement.keyword_eq (by decide) ?_
  unfold deleteStatement
  simp only [String.toList_append, List.append_assoc]
  exact ⟨_, rfl⟩

/-- A statement inserts a record of some fields, or changes one record to have them. -/
def Statement.Writes (s : Statement) (resource : String) (fields : Record) : Prop :=
  s = insertStatement resource fields ∨ ∃ id, s = updateStatement resource fields id

theorem Statement.Writes.keyword {s : Statement} {resource : String} {fields : Record}
    (h : s.Writes resource fields) : s.keyword = "INSERT" ∨ s.keyword = "UPDATE" := by
  rcases h with rfl | ⟨id, rfl⟩
  · exact Or.inl (keyword_insertStatement _ _)
  · exact Or.inr (keyword_updateStatement _ _ _)

theorem eq_of_names_of_values {fields others : Record} (hnames : fields.names = others.names)
    (hvalues : fields.map Prod.snd = others.map Prod.snd) : fields = others :=
  (List.zip_of_prod hnames hvalues).trans (List.zip_of_prod rfl rfl).symm

/-- Texts made from the names of fields tell the names if no comma stands in them. -/
theorem names_eq_of_texts_eq (text : String → String) (htext : Function.Injective text)
    {fields others : Record} (hlength : fields.length = others.length)
    (hfields : ∀ name ∈ fields.names, ',' ∉ (text name).toList)
    (hothers : ∀ name ∈ others.names, ',' ∉ (text name).toList)
    (h : ", ".intercalate (fields.names.map text) = ", ".intercalate (others.names.map text)) :
    fields.names = others.names := by
  have hchars := congrArg String.toList h
  rw [String.toList_intercalate, String.toList_intercalate, List.map_map, List.map_map] at hchars
  have hsep : ", ".toList = [',', ' '] := by simp
  rw [hsep] at hchars
  have hparts := eq_of_intercalate_eq (List.forall_mem_map.mpr hfields)
    (List.forall_mem_map.mpr hothers) (by simpa [Record.names] using hlength) hchars
  exact List.map_injective_iff.mpr (Function.Injective.comp (fun _ _ => String.toList_inj.mp) htext)
    hparts

/-- Columns and values can be read off an insert. -/
theorem insertStatement_injective {resource : String} {fields others : Record}
    (hfields : ∀ name ∈ fields.names, ',' ∉ name.toList)
    (hothers : ∀ name ∈ others.names, ',' ∉ name.toList)
    (h : insertStatement resource fields = insertStatement resource others) : fields = others := by
  have hvalues : fields.map Prod.snd = others.map Prod.snd := congrArg Statement.params h
  have hlength : fields.length = others.length := by
    simpa using congrArg List.length hvalues
  have hsql := congrArg Statement.sql h
  unfold insertStatement at hsql
  have hmarks : fields.map (fun _ => "?") = others.map fun _ => "?" := by
    rw [List.map_const', List.map_const', hlength]
  dsimp only at hsql
  rw [hmarks, String.append_left_inj, String.append_left_inj, String.append_left_inj,
    String.append_right_inj] at hsql
  have hnames := names_eq_of_texts_eq id Function.injective_id hlength hfields hothers
    (by simpa using hsql)
  exact eq_of_names_of_values hnames hvalues

/-- Columns and values can be read off an update. -/
theorem updateStatement_injective {resource : String} {fields others : Record} {id id' : Value}
    (hfields : ∀ name ∈ fields.names, ',' ∉ name.toList)
    (hothers : ∀ name ∈ others.names, ',' ∉ name.toList)
    (h : updateStatement resource fields id = updateStatement resource others id') :
    fields = others := by
  have hparams : fields.map Prod.snd ++ [id] = others.map Prod.snd ++ [id'] :=
    congrArg Statement.params h
  obtain ⟨hvalues, -⟩ := List.append_inj' hparams rfl
  have hlength : fields.length = others.length := by
    simpa using congrArg List.length hvalues
  have hsql := congrArg Statement.sql h
  unfold updateStatement at hsql
  dsimp only at hsql
  rw [String.append_left_inj, String.append_left_inj, String.append_left_inj,
    String.append_right_inj] at hsql
  have htext : Function.Injective fun name : String => name ++ " = ?" :=
    fun _ _ => (String.append_left_inj _).mp
  have hnames := names_eq_of_texts_eq _ htext hlength
    (fun name hname => by simpa using hfields name hname)
    (fun name hname => by simpa using hothers name hname)
    (by simpa [Record.names, Function.comp_def] using hsql)
  exact eq_of_names_of_values hnames hvalues

/-- A statement tells the fields it writes. -/
theorem Statement.Writes.fields_eq {s : Statement} {resource : String} {fields others : Record}
    (h : s.Writes resource fields) (h' : s.Writes resource others)
    (hfields : ∀ name ∈ fields.names, isIdentifier name)
    (hothers : ∀ name ∈ others.names, isIdentifier name) : fields = others := by
  have hcomma : ∀ {name : String}, isIdentifier name → ',' ∉ name.toList :=
    fun h => notMem_identifier h (by decide) (by decide)
  have hplain := fun name hname => hcomma (hfields name hname)
  have hplain' := fun name hname => hcomma (hothers name hname)
  rcases h with rfl | ⟨id, rfl⟩
  · rcases h' with h' | ⟨id, h'⟩
    · exact insertStatement_injective hplain hplain' h'
    · have hkeyword := congrArg Statement.keyword h'
      rw [keyword_insertStatement, keyword_updateStatement] at hkeyword
      exact absurd hkeyword (by decide)
  · rcases h' with h' | ⟨id', h'⟩
    · have hkeyword := congrArg Statement.keyword h'
      rw [keyword_insertStatement, keyword_updateStatement] at hkeyword
      exact absurd hkeyword (by decide)
    · exact updateStatement_injective hplain hplain' h'

end TableGateway
