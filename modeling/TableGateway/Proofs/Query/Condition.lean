import Mathlib.Data.List.SplitBy
import TableGateway.Dispatch.Draft
import TableGateway.Proofs.Query.Identifier
import TableGateway.Proofs.Text.Intercalate

/-!
# The meaning of conditions

A database reads the text of a condition by position: a column, an operator and a question mark,
and between two comparisons the word that joins them. AND binds tighter than OR, so what is read
holds where one of the groups of clauses holds that begin at the first clause or at an OR. Fields
may be called like any word of a condition.
-/

namespace TableGateway

open Text

/-! ## Truth -/

/-- What a comparison comes to for a row. It is unknown where a column is null. -/
inductive Truth
  | no
  | unknown
  | yes
  deriving Repr, DecidableEq

def Truth.and : Truth → Truth → Truth
  | .no, _ => .no
  | _, .no => .no
  | .yes, .yes => .yes
  | _, _ => .unknown

def Truth.or : Truth → Truth → Truth
  | .yes, _ => .yes
  | _, .yes => .yes
  | .no, .no => .no
  | _, _ => .unknown

theorem Truth.and_eq_yes_iff {s t : Truth} : s.and t = .yes ↔ s = .yes ∧ t = .yes := by
  cases s <;> cases t <;> decide

theorem Truth.or_eq_yes_iff {s t : Truth} : s.or t = .yes ↔ s = .yes ∨ t = .yes := by
  cases s <;> cases t <;> decide

/-! ## Expressions -/

/-- A comparison of a column with the value for the question mark at a place. -/
structure Expression.Comparison where
  place : Nat
  field : String
  op : Operator
  value : Value

inductive Expression
  | comparison (c : Expression.Comparison)
  | and (left right : Expression)
  | or (left right : Expression)

namespace Expression

def comparisons : Expression → List Comparison
  | .comparison c => [c]
  | .and left right => left.comparisons ++ right.comparisons
  | .or left right => left.comparisons ++ right.comparisons

def truth (assignment : Nat → Truth) : Expression → Truth
  | .comparison c => assignment c.place
  | .and left right => (left.truth assignment).and (right.truth assignment)
  | .or left right => (left.truth assignment).or (right.truth assignment)

def operator? (regexOperator word : String) : Option Operator :=
  Operator.searchOrder.find? fun op => op.sql regexOperator = word

def readComparison? (regexOperator : String) (place : Nat) (field word mark : String)
    (value : Value) : Option Expression :=
  if isIdentifier field ∧ mark = "?" then
    (operator? regexOperator word).map fun op => .comparison ⟨place, field, op, value⟩
  else none

def readOn? (regexOperator : String) (left : Expression) (place : Nat) :
    List String → List Value → Option Expression
  | [], [] => some left
  | join :: field :: word :: mark :: words, value :: values => do
    let next ← readComparison? regexOperator place field word mark value
    match ← Join.ofWord? join with
    | .and => readOn? regexOperator (left.and next) (place + 1) words values
    | .or => (readOn? regexOperator next (place + 1) words values).map left.or
  | _, _ => none

/-- Reads a condition, its words separated by single blanks, with the values for its question
marks. -/
def read? (regexOperator sql : String) (params : List Value) : Option Expression :=
  match (sql.toList.splitOn ' ').map String.ofList, params with
  | field :: word :: mark :: words, value :: values => do
    let first ← readComparison? regexOperator 0 field word mark value
    readOn? regexOperator first 1 words values
  | _, _ => none

end Expression

/-! ## Groups of clauses -/

abbrev PlacedClause := Clause × Nat

def PlacedClause.comparison (c : PlacedClause) : Expression.Comparison :=
  ⟨c.2, c.1.field, c.1.op, c.1.value⟩

/-- The longest runs of clauses in which each but the first is joined by AND. -/
def clauseGroups (clauses : List PlacedClause) : List (List PlacedClause) :=
  clauses.splitBy fun _ next => next.1.join = .and

/-- An expression has the comparisons of some clauses, and it is true where all of a group are. -/
structure Expression.Means (e : Expression) (clauses : List PlacedClause) : Prop where
  comparisons_eq : e.comparisons = clauses.map PlacedClause.comparison
  truth_iff : ∀ assignment, e.truth assignment = .yes ↔
    ∃ group ∈ clauseGroups clauses, ∀ c ∈ group, assignment c.2 = .yes

structure Expression.Conjoins (e : Expression) (run : List PlacedClause) : Prop where
  ne_nil : run ≠ []
  joined : run.IsChain fun _ next => next.1.join = .and
  comparisons_eq : e.comparisons = run.map PlacedClause.comparison
  truth_iff : ∀ assignment, e.truth assignment = .yes ↔ ∀ c ∈ run, assignment c.2 = .yes

namespace Expression

variable {e left right : Expression} {run : List PlacedClause} {c : PlacedClause}
  {rest : List PlacedClause}

theorem conjoins_comparison (c : PlacedClause) : (comparison c.comparison).Conjoins [c] where
  ne_nil := List.cons_ne_nil c []
  joined := List.isChain_singleton c
  comparisons_eq := rfl
  truth_iff := by simp [truth, PlacedClause.comparison]

/-- A clause joined by AND goes on with the run before it. -/
theorem Conjoins.and (h : left.Conjoins run) (hc : c.1.join = .and) :
    (left.and (.comparison c.comparison)).Conjoins (run ++ [c]) where
  ne_nil := List.append_ne_nil_of_left_ne_nil h.ne_nil _
  joined := by
    rw [List.isChain_append]
    refine ⟨h.joined, List.isChain_singleton c, fun _ _ next hnext => ?_⟩
    cases hnext
    exact hc
  comparisons_eq := by simp [comparisons, h.comparisons_eq]
  truth_iff := by
    intro assignment
    rw [truth, Truth.and_eq_yes_iff, h.truth_iff]
    simp [truth, PlacedClause.comparison, or_imp, forall_and]

theorem Conjoins.clauseGroups_eq (h : left.Conjoins run) : clauseGroups run = [run] := by
  refine List.splitBy_of_isChain h.ne_nil ?_
  simpa using h.joined

theorem Conjoins.means (h : left.Conjoins run) : left.Means run where
  comparisons_eq := h.comparisons_eq
  truth_iff := by simpa [h.clauseGroups_eq] using h.truth_iff

/-- An OR ends a group. -/
theorem Conjoins.clauseGroups_append (h : left.Conjoins run) (hc : c.1.join = .or) :
    clauseGroups (run ++ c :: rest) = run :: clauseGroups (c :: rest) := by
  have hends : ∀ last ∈ run.getLast?, decide (c.1.join = Join.and) = false := by
    intro last _
    rw [hc]
    rfl
  have hsplit :=
    List.splitBy_append_cons (r := fun _ next => decide (next.1.join = .and)) rest hends
  rw [clauseGroups, hsplit]
  exact congrArg (· ++ _) h.clauseGroups_eq

theorem Means.or (h : left.Conjoins run) (hc : c.1.join = .or)
    (hright : right.Means (c :: rest)) : (left.or right).Means (run ++ c :: rest) where
  comparisons_eq := by
    rw [comparisons, h.comparisons_eq, hright.comparisons_eq, List.map_append]
  truth_iff := by
    intro assignment
    rw [truth, Truth.or_eq_yes_iff, h.truth_iff, hright.truth_iff, h.clauseGroups_append hc]
    simp

end Expression

/-! ## Reading conditions -/

def Clause.words (regexOperator : String) (c : Clause) : List String :=
  [c.field, c.op.sql regexOperator, "?"]

def Clause.joinedWords (regexOperator : String) (c : Clause) : List String :=
  c.join.word :: c.words regexOperator

section Words

variable {regexOperator : String} (hregex : regexOperator = "REGEXP" ∨ regexOperator = "~")

theorem Join.ofWord?_word (join : Join) : Join.ofWord? join.word = some join := by
  cases join <;> decide

include hregex

theorem Expression.operator?_sql (op : Operator) :
    operator? regexOperator (op.sql regexOperator) = some op := by
  rcases hregex with rfl | rfl <;> cases op <;> decide

theorem notMem_operator (op : Operator) : ' ' ∉ (op.sql regexOperator).toList := by
  rcases hregex with rfl | rfl <;> cases op <;> decide

theorem Expression.readComparison?_words {c : Clause} (hc : isIdentifier c.field) (place : Nat) :
    readComparison? regexOperator place c.field (c.op.sql regexOperator) "?" c.value =
      some (.comparison (PlacedClause.comparison (c, place))) := by
  rw [readComparison?, if_pos ⟨hc, rfl⟩, operator?_sql hregex]
  rfl

/-- Behind a run of clauses that are joined by AND, the words of more clauses are read as what all
of them mean. -/
theorem Expression.exists_readOn? {clauses : List Clause} (h : ∀ c ∈ clauses, isIdentifier c.field)
    {left : Expression} {run : List PlacedClause} (hleft : left.Conjoins run) (place : Nat) :
    ∃ e, readOn? regexOperator left place (clauses.flatMap (Clause.joinedWords regexOperator))
        (clauses.map Clause.value) = some e ∧ e.Means (run ++ clauses.zipIdx place) := by
  -- An AND lengthens the run, and an OR begins a new one: the run is what the induction is over.
  induction clauses generalizing left run place with
  | nil => exact ⟨left, by rw [readOn?.eq_def]; rfl, by simpa using hleft.means⟩
  | cons c clauses ih =>
      have hrest : ∀ other ∈ clauses, isIdentifier other.field :=
        fun other hother => h other (List.mem_cons_of_mem c hother)
      have hnext := readComparison?_words hregex (h c List.mem_cons_self) place
      rw [List.flatMap_cons, List.map_cons, List.zipIdx_cons, Clause.joinedWords, Clause.words,
        List.cons_append, List.cons_append, List.cons_append, List.cons_append, List.nil_append]
      cases hjoin : c.join with
      | and =>
          obtain ⟨e, hread, hmeans⟩ := ih hrest (hleft.and (c := (c, place)) hjoin) (place + 1)
          refine ⟨e, ?_, by simpa using hmeans⟩
          rw [readOn?, hnext, Join.ofWord?_word]
          exact hread
      | or =>
          obtain ⟨e, hread, hmeans⟩ := ih hrest (conjoins_comparison (c, place)) (place + 1)
          refine ⟨left.or e, ?_, Means.or hleft hjoin hmeans⟩
          rw [readOn?, hnext, Join.ofWord?_word]
          exact congrArg (Option.map left.or) hread

/-- The text of a condition is its words with single blanks between them. -/
theorem splitOn_predicate {first : Clause} {rest : List Clause}
    (h : ∀ c ∈ first :: rest, isIdentifier c.field) :
    ((Predicate.ofClauses regexOperator (first :: rest)).sql.toList.splitOn ' ').map
        String.ofList =
      first.words regexOperator ++ rest.flatMap (Clause.joinedWords regexOperator) := by
  let rows := first.words regexOperator :: rest.map (Clause.joinedWords regexOperator)
  have hpieces : (Predicate.pieces regexOperator (first :: rest)).map String.toList =
      (rows.map (List.map String.toList)).map [' '].intercalate := by
    simp [rows, Predicate.pieces, Clause.comparison, Clause.joined, Clause.words,
      Clause.joinedWords, Function.comp_def]
  have hrows : ∀ row ∈ rows.map (List.map String.toList), row ≠ [] := by
    simp [rows, Clause.words, Clause.joinedWords]
  have hsql : (Predicate.ofClauses regexOperator (first :: rest)).sql.toList =
      [' '].intercalate (rows.flatten.map String.toList) := by
    rw [Predicate.ofClauses, String.toList_intercalate, hpieces, List.map_flatten]
    exact intercalate_map_intercalate [' '] hrows
  have hwords : ∀ c ∈ first :: rest, ∀ word ∈ c.joinedWords regexOperator, ' ' ∉ word.toList := by
    intro c hc word hword
    simp only [Clause.joinedWords, Clause.words, List.mem_cons, List.not_mem_nil, or_false] at hword
    rcases hword with rfl | rfl | rfl | rfl
    · cases c.join <;> decide
    · exact notMem_identifier (h c hc) (by decide) (by decide)
    · exact notMem_operator hregex c.op
    · decide
  have hblank : ∀ word ∈ rows.flatten.map String.toList, ' ' ∉ word := by
    intro word hword
    obtain ⟨text, htext, rfl⟩ := List.mem_map.mp hword
    rw [List.flatten_cons, List.mem_append] at htext
    rcases htext with htext | htext
    · exact hwords first List.mem_cons_self text (List.mem_cons_of_mem _ htext)
    · obtain ⟨c, hc, htext⟩ := List.mem_flatMap.mp htext
      exact hwords c (List.mem_cons_of_mem first hc) text htext
  rw [hsql, List.splitOn_intercalate ' ' hblank (by simp [rows, Clause.words]), List.map_map]
  simp [rows, Function.comp_def, List.flatMap_def]

/-- The written condition is read with each value at its own comparison. -/
theorem exists_read?_of_ne_nil {clauses : List Clause} (hne : clauses ≠ [])
    (h : ∀ c ∈ clauses, isIdentifier c.field) :
    ∃ e, Expression.read? regexOperator (Predicate.ofClauses regexOperator clauses).sql
        (Predicate.ofClauses regexOperator clauses).params = some e ∧ e.Means clauses.zipIdx := by
  obtain ⟨first, rest, rfl⟩ := List.exists_cons_of_ne_nil hne
  have hrest : ∀ c ∈ rest, isIdentifier c.field := fun c hc => h c (List.mem_cons_of_mem first hc)
  obtain ⟨e, hread, hmeans⟩ :=
    Expression.exists_readOn? hregex hrest (Expression.conjoins_comparison (first, 0)) 1
  refine ⟨e, ?_, hmeans⟩
  unfold Expression.read?
  rw [splitOn_predicate hregex h]
  simp only [Clause.words, List.cons_append, List.nil_append, Predicate.ofClauses, List.map_cons]
  rw [Expression.readComparison?_words hregex (h first List.mem_cons_self)]
  exact hread

end Words

/-! ## Selects without a condition -/

theorem toList_intercalate_blank (first : String) (rest : List String) :
    (" ".intercalate (first :: rest)).toList =
      first.toList ++ rest.flatMap fun text => ' ' :: text.toList := by
  induction rest generalizing first with
  | nil => simp
  | cons next rest ih =>
      have hnext := ih next
      rw [String.toList_intercalate, List.map_cons] at hnext ⊢
      rw [List.map_cons, List.intercalate_cons_cons, hnext, List.flatMap_cons]
      simp

theorem Query.exists_toList_of_mem_tailPieces (q : Query) {predicate : Predicate}
    (hpredicate : predicate.isGiven = false) {piece : String}
    (hpiece : piece ∈ q.tailPieces predicate) : ∃ c rest, piece.toList = c :: rest ∧ c ≠ 'W' := by
  simp only [tailPieces, hpredicate, List.mem_append, Bool.false_eq_true, if_false,
    List.not_mem_nil, false_or] at hpiece
  rcases hpiece with (hpiece | hpiece) | hpiece
  · split at hpiece
    · cases hpiece
    · rw [List.mem_singleton.mp hpiece, String.toList_append]
      exact ⟨'O', _, rfl, by decide⟩
  · obtain ⟨n, -, rfl⟩ := Option.map_eq_some_iff.mp (Option.mem_toList.mp hpiece)
    rw [String.toList_append]
    exact ⟨'L', _, rfl, by decide⟩
  · obtain ⟨n, -, rfl⟩ := Option.map_eq_some_iff.mp (Option.mem_toList.mp hpiece)
    rw [String.toList_append]
    exact ⟨'O', _, rfl, by decide⟩

/-- What stands behind the name of the resource in a select without filters does not begin with the
word for a condition. -/
theorem exists_tail_of_filters_eq_nil (regexOperator resource : String) {q : Query}
    (hq : q.filters = []) :
    ∃ tail, (selectStatement regexOperator resource q none).sql.toList =
        ("SELECT * FROM " ++ resource).toList ++ tail ∧ ¬ " WHERE".toList <+: tail := by
  let pieces := q.tailPieces (Predicate.ofClauses regexOperator [])
  refine ⟨pieces.flatMap fun text => ' ' :: text.toList, ?_, ?_⟩
  · rw [← toList_intercalate_blank]
    simp [selectStatement, hq, pieces]
  · intro hprefix
    have hgiven : (Predicate.ofClauses regexOperator []).isGiven = false := rfl
    have hpieces : ∀ piece ∈ pieces, ∃ c rest, piece.toList = c :: rest ∧ c ≠ 'W' :=
      fun piece hpiece => q.exists_toList_of_mem_tailPieces hgiven hpiece
    cases hcases : pieces with
    | nil => simp [hcases] at hprefix
    | cons piece rest =>
        obtain ⟨c, text, htext, hc⟩ := hpieces piece (by simp [hcases])
        rw [hcases, List.flatMap_cons, htext] at hprefix
        simp only [String.reduceToList, List.cons_append, List.cons_prefix_cons] at hprefix
        exact hc hprefix.2.1.symm

/-- **The meaning of filters.** The text of a condition is read back as the clauses it was made of,
each with the value at its place, and it is true exactly where some group of them is. Without
clauses there is no condition, and a select has none. -/
theorem read?_predicate {regexOperator : String}
    (hregex : regexOperator = "REGEXP" ∨ regexOperator = "~") {clauses : List Clause}
    (h : ∀ c ∈ clauses, isIdentifier c.field) :
    let predicate := Predicate.ofClauses regexOperator clauses
    (clauses ≠ [] → ∃ e, Expression.read? regexOperator predicate.sql predicate.params = some e ∧
      e.Means clauses.zipIdx) ∧
    (clauses = [] → predicate.sql = "" ∧ predicate.params = [] ∧ predicate.isGiven = false ∧
      ∀ (resource : String) (q : Query), q.filters = clauses →
        ∃ tail, (selectStatement regexOperator resource q none).sql.toList =
          ("SELECT * FROM " ++ resource).toList ++ tail ∧ ¬ " WHERE".toList <+: tail) := by
  refine ⟨fun hne => exists_read?_of_ne_nil hregex hne h, ?_⟩
  rintro rfl
  exact ⟨rfl, rfl, rfl, fun resource q hq => exists_tail_of_filters_eq_nil _ resource hq⟩

def wordyClauses : List Clause :=
  [⟨"AND", .eq, .int 1, .or⟩, ⟨"OR", .regex, .text "? OR", .and⟩, ⟨"REGEXP", .ge, .int 2, .or⟩,
    ⟨"id\n", .ne, .text "", .and⟩]

theorem read?_predicate_wordyClauses :
    ∃ e, Expression.read? "REGEXP" "AND = ? AND OR REGEXP ? OR REGEXP >= ? AND id\n != ?"
        [.int 1, .text "? OR", .int 2, .text ""] = some e ∧ e.Means wordyClauses.zipIdx := by
  have hsql : (Predicate.ofClauses "REGEXP" wordyClauses).sql =
      "AND = ? AND OR REGEXP ? OR REGEXP >= ? AND id\n != ?" := by
    decide +kernel
  have hfields : ∀ c ∈ wordyClauses, isIdentifier c.field := by decide
  obtain ⟨e, hread, hmeans⟩ := (read?_predicate (Or.inl rfl) hfields).1 (by decide)
  rw [hsql] at hread
  exact ⟨e, hread, hmeans⟩

end TableGateway
