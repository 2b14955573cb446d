import Mathlib.Algebra.GroupWithZero.Nat
import TableGateway.Dispatch.Draft
import TableGateway.Proofs.Number.Write
import TableGateway.Proofs.Query.Identifier
import TableGateway.Proofs.Text.Intercalate

namespace TableGateway

def marksIn (s : String) : Nat :=
  s.toList.count '?'

@[simp]
theorem marksIn_append (s t : String) : marksIn (s ++ t) = marksIn s + marksIn t := by
  simp [marksIn]

theorem marksIn_eq_zero {s : String} (h : '?' ∉ s.toList) : marksIn s = 0 :=
  List.count_eq_zero.mpr h

theorem marksIn_intercalate {sep : String} (hsep : marksIn sep = 0) (texts : List String) :
    marksIn (sep.intercalate texts) = (texts.map marksIn).sum :=
  Text.count_intercalate (List.count_eq_zero.mp hsep) texts

theorem marksIn_identifier {s : String} (h : isIdentifier s) : marksIn s = 0 :=
  marksIn_eq_zero (notMem_identifier h (by decide) (by decide))

theorem marksIn_writeInt (n : Nat) : marksIn (Number.writeInt n) = 0 :=
  marksIn_eq_zero (Number.notMem_writeInt (by decide) n)

def clauseMarks (regexOperator : String) (c : Clause) : Nat :=
  1 + if c.op = .regex then marksIn regexOperator else 0

/-- A comparison brings its own placeholder and the marks of its operator. -/
theorem marksIn_comparison (regexOperator : String) {c : Clause} (hc : isIdentifier c.field) :
    marksIn (c.comparison regexOperator) = clauseMarks regexOperator c := by
  have hop : marksIn (c.op.sql regexOperator) =
      if c.op = .regex then marksIn regexOperator else 0 := by
    cases c.op with
    | regex => rfl
    | _ => simp [Operator.sql, Operator.symbol, marksIn]
  have hblank : marksIn " " = 0 := rfl
  have hmark : marksIn " ?" = 1 := rfl
  simp only [Clause.comparison, clauseMarks, marksIn_append, marksIn_identifier hc, hop, hblank,
    hmark]
  omega

theorem marksIn_joined (regexOperator : String) {c : Clause} (hc : isIdentifier c.field) :
    marksIn (c.joined regexOperator) = clauseMarks regexOperator c := by
  have hjoin : marksIn c.join.word = 0 := by cases c.join <;> rfl
  have hblank : marksIn " " = 0 := rfl
  simp only [Clause.joined, marksIn_append, marksIn_comparison regexOperator hc, hjoin, hblank]
  omega

theorem map_marksIn_pieces (regexOperator : String) {clauses : List Clause}
    (h : ∀ c ∈ clauses, isIdentifier c.field) :
    (Predicate.pieces regexOperator clauses).map marksIn =
      clauses.map (clauseMarks regexOperator) := by
  cases clauses with
  | nil => rfl
  | cons first rest =>
      have hrest : rest.map (fun c => marksIn (c.joined regexOperator)) =
          rest.map (clauseMarks regexOperator) :=
        List.map_congr_left fun c hc => marksIn_joined regexOperator (h c (by simp [hc]))
      simp only [Predicate.pieces, List.map_cons, List.map_map, Function.comp_def, hrest,
        marksIn_comparison regexOperator (h first (by simp))]

def patternCount (clauses : List Clause) : Nat :=
  clauses.countP fun c => c.op = .regex

/-- Only matches with a pattern bring marks of the operator along. -/
theorem sum_clauseMarks (regexOperator : String) (clauses : List Clause) :
    (clauses.map (clauseMarks regexOperator)).sum =
      clauses.length + patternCount clauses * marksIn regexOperator := by
  induction clauses with
  | nil => simp [patternCount]
  | cons c rest ih =>
      have hcount : patternCount (c :: rest) =
          patternCount rest + if c.op = .regex then 1 else 0 := by
        simp [patternCount, List.countP_cons]
      rw [List.map_cons, List.sum_cons, ih, hcount, List.length_cons, clauseMarks]
      by_cases hop : c.op = .regex
      · rw [if_pos hop, if_pos hop, Nat.add_mul]
        omega
      · simp only [hop, if_false, Nat.add_zero]
        omega

theorem marksIn_predicate (regexOperator : String) {clauses : List Clause}
    (h : ∀ c ∈ clauses, isIdentifier c.field) :
    marksIn (Predicate.ofClauses regexOperator clauses).sql =
      clauses.length + patternCount clauses * marksIn regexOperator := by
  unfold Predicate.ofClauses
  rw [marksIn_intercalate rfl, map_marksIn_pieces regexOperator h, sum_clauseMarks]

theorem marksIn_sortEntry {entry : SortEntry} (h : isIdentifier entry.field) :
    marksIn entry.sql = 0 := by
  have hdirection : marksIn entry.direction.word = 0 := by cases entry.direction <;> rfl
  have hblank : marksIn " " = 0 := rfl
  simp only [SortEntry.sql, marksIn_append, marksIn_identifier h, hdirection, hblank]

/-- Only the condition brings placeholders into what stands behind the name of a resource. -/
theorem sum_marksIn_tailPieces {q : Query} (hsort : ∀ entry ∈ q.sort, isIdentifier entry.field)
    (predicate : Predicate) :
    ((q.tailPieces predicate).map marksIn).sum = marksIn predicate.sql := by
  have hwhere : ((if predicate.isGiven then ["WHERE " ++ predicate.sql] else []).map marksIn).sum =
      marksIn predicate.sql := by
    by_cases hgiven : predicate.isGiven
    · have hword : marksIn "WHERE " = 0 := rfl
      simp [hgiven, hword]
    · have hempty : predicate.sql = "" := by simpa [Predicate.isGiven] using hgiven
      simp [hgiven, hempty, marksIn]
  have horder : ((if q.sort.isEmpty then []
      else ["ORDER BY " ++ ", ".intercalate (q.sort.map SortEntry.sql)]).map marksIn).sum = 0 := by
    have hentries : ((q.sort.map SortEntry.sql).map marksIn).sum = 0 := by
      rw [List.sum_eq_zero_iff_forall_eq_nat]
      simpa using fun entry hentry => marksIn_sortEntry (hsort entry hentry)
    have hword : marksIn "ORDER BY " = 0 := rfl
    have hcomma : marksIn ", " = 0 := rfl
    by_cases hempty : q.sort.isEmpty
    · simp [hempty]
    · rw [if_neg hempty, List.map_singleton, List.sum_singleton, marksIn_append, hword,
        marksIn_intercalate hcomma, hentries]
  have hcount : ∀ (word : String) (count : Option Nat), marksIn word = 0 →
      ((count.map fun n => word ++ Number.writeInt n).toList.map marksIn).sum = 0 := by
    intro word count hword
    cases count with
    | none => rfl
    | some n => simp [hword, marksIn_writeInt]
  simp only [Query.tailPieces, List.map_append, List.sum_append, hwhere, horder,
    hcount "LIMIT " _ rfl, hcount "OFFSET " _ rfl]
  omega

/-- A select has a placeholder for each value, and stray ones where the name of the resource or the
operator of a pattern holds a question mark. -/
theorem placeholderCount_selectStatement (regexOperator resource : String) {q : Query}
    (hfilters : ∀ c ∈ q.filters, isIdentifier c.field)
    (hsort : ∀ entry ∈ q.sort, isIdentifier entry.field) (id : Option Value) :
    (selectStatement regexOperator resource q id).placeholderCount =
      (selectStatement regexOperator resource q id).params.length + marksIn resource +
        (if id.isSome then 0 else patternCount q.filters) * marksIn regexOperator := by
  have hall : ∀ clauses : List Clause, (∀ c ∈ clauses, isIdentifier c.field) →
      marksIn (" ".intercalate (("SELECT * FROM " ++ resource) ::
        q.tailPieces (Predicate.ofClauses regexOperator clauses))) =
      clauses.length + marksIn resource + patternCount clauses * marksIn regexOperator := by
    intro clauses hclauses
    have hfront : marksIn "SELECT * FROM " = 0 := by simp [marksIn]
    rw [marksIn_intercalate rfl, List.map_cons, List.sum_cons, sum_marksIn_tailPieces hsort,
      marksIn_predicate regexOperator hclauses, marksIn_append, hfront]
    omega
  cases id with
  | none =>
      refine (hall q.filters hfilters).trans ?_
      simp [selectStatement, Predicate.ofClauses]
  | some id =>
      refine (hall [{ field := idColumn, op := .eq, value := id }] ?_).trans ?_
      · intro c hc
        cases List.mem_singleton.mp hc
        exact (by decide : isIdentifier idColumn)
      · simp [selectStatement, Predicate.ofClauses, patternCount]

/-- An insert is in balance unless the name of the resource holds a question mark. -/
theorem placeholderCount_insertStatement (resource : String) {body : Record}
    (hnames : ∀ name ∈ body.names, isIdentifier name) :
    (insertStatement resource body).placeholderCount =
      (insertStatement resource body).params.length + marksIn resource := by
  have hcomma : marksIn ", " = 0 := rfl
  have hcolumns : (body.names.map marksIn).sum = 0 := by
    rw [List.sum_eq_zero_iff_forall_eq_nat]
    simpa using fun name hname => marksIn_identifier (hnames name hname)
  have hvalues : ((body.map fun _ => "?").map marksIn).sum = body.length := by
    have hmark : marksIn "?" = 1 := rfl
    simp [List.map_const', hmark]
  have hsql : (insertStatement resource body).placeholderCount =
      marksIn ("INSERT INTO " ++ resource ++ " (" ++ ", ".intercalate body.names ++ ") VALUES (" ++
        ", ".intercalate (body.map fun _ => "?") ++ ")") := rfl
  have hparams : (insertStatement resource body).params.length = body.length := List.length_map _
  have hinsert : marksIn "INSERT INTO " = 0 := by simp [marksIn]
  have hopen : marksIn " (" = 0 := rfl
  have hbetween : marksIn ") VALUES (" = 0 := by simp [marksIn]
  have hclose : marksIn ")" = 0 := rfl
  rw [hsql, hparams]
  simp only [marksIn_append, marksIn_intercalate hcomma, hcolumns, hvalues, hinsert, hopen,
    hbetween, hclose]
  omega

/-- The id of an update has a placeholder of its own, behind those of the columns. -/
theorem placeholderCount_updateStatement (resource : String) {body : Record}
    (hnames : ∀ name ∈ body.names, isIdentifier name) (id : Value) :
    (updateStatement resource body id).placeholderCount =
      (updateStatement resource body id).params.length + marksIn resource := by
  have hcomma : marksIn ", " = 0 := rfl
  have hassignments :
      ((body.map fun field => field.1 ++ " = ?").map marksIn).sum = body.length := by
    have hone : ∀ field ∈ body, marksIn (field.1 ++ " = ?") = 1 := by
      intro field hfield
      have hmark : marksIn " = ?" = 1 := rfl
      rw [marksIn_append, marksIn_identifier (hnames field.1 (List.mem_map_of_mem hfield)), hmark]
    have hmap : body.map (fun field => marksIn (field.1 ++ " = ?")) = body.map fun _ => 1 :=
      List.map_congr_left hone
    rw [List.map_map, Function.comp_def, hmap, List.map_const', List.sum_replicate_nat, Nat.mul_one]
  have hsql : (updateStatement resource body id).placeholderCount =
      marksIn ("UPDATE " ++ resource ++ " SET " ++
        ", ".intercalate (body.map fun field => field.1 ++ " = ?") ++ " WHERE " ++ idColumn ++
        " = ?") := rfl
  have hparams : (updateStatement resource body id).params.length = body.length + 1 := by
    simp [updateStatement]
  have hupdate : marksIn "UPDATE " = 0 := rfl
  have hset : marksIn " SET " = 0 := rfl
  have hwhere : marksIn " WHERE " = 0 := rfl
  have hid : marksIn idColumn = 0 := rfl
  have hmark : marksIn " = ?" = 1 := rfl
  rw [hsql, hparams]
  simp only [marksIn_append, marksIn_intercalate hcomma, hassignments, hupdate, hset, hwhere, hid,
    hmark]
  omega

theorem placeholderCount_deleteStatement (resource : String) (id : Value) :
    (deleteStatement resource id).placeholderCount =
      (deleteStatement resource id).params.length + marksIn resource := by
  have hsql : (deleteStatement resource id).placeholderCount =
      marksIn ("DELETE FROM " ++ resource ++ " WHERE " ++ idColumn ++ " = ?") := rfl
  have hparams : (deleteStatement resource id).params.length = 1 := rfl
  have hdelete : marksIn "DELETE FROM " = 0 := by simp [marksIn]
  have hwhere : marksIn " WHERE " = 0 := rfl
  have hid : marksIn idColumn = 0 := rfl
  have hmark : marksIn " = ?" = 1 := rfl
  rw [hsql, hparams]
  simp only [marksIn_append, hdelete, hwhere, hid, hmark]
  omega

end TableGateway
