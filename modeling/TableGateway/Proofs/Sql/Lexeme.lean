import Mathlib.Data.List.Forall2
import Mathlib.Data.List.TakeWhile
import TableGateway.Query.Identifier

namespace TableGateway.Sql

/-- A run of letters, digits and underscores, or an operator or punctuation mark. -/
inductive Lexeme
  | word (text : String)
  | mark (text : String)
  deriving Repr, DecidableEq

def isSpace (c : Char) : Bool :=
  c == ' ' || c == '\n'

def singleMarks : List Char :=
  ['=', '>', '<', '~', '*', ',', '(', ')', '?']

/-- The lexemes of a text. A character that belongs to none makes the text unreadable. -/
def lexemes? : List Char → Option (List Lexeme)
  | [] => some []
  | '!' :: '=' :: rest => (lexemes? rest).map (.mark "!=" :: ·)
  | '>' :: '=' :: rest => (lexemes? rest).map (.mark ">=" :: ·)
  | '<' :: '=' :: rest => (lexemes? rest).map (.mark "<=" :: ·)
  | c :: rest =>
    if isSpace c then lexemes? rest
    else if isNameChar c then
      (lexemes? (rest.dropWhile isNameChar)).map
        (.word (String.ofList (c :: rest.takeWhile isNameChar)) :: ·)
    else if singleMarks.contains c then (lexemes? rest).map (.mark (String.singleton c) :: ·)
    else none
  termination_by text => text.length
  decreasing_by
    all_goals first
      | exact Nat.lt_succ_of_le (List.dropWhile_suffix _).length_le
      | (simp only [List.length_cons]; omega)

/-! ## Reading one lexeme -/

@[simp]
theorem lexemes?_nil : lexemes? [] = some [] := by
  rw [lexemes?]

/-- A mark of two characters is read as one. -/
theorem lexemes?_pair {c : Char} (hc : c ∈ ['!', '>', '<']) (rest : List Char) :
    lexemes? (c :: '=' :: rest) = (lexemes? rest).map (.mark (String.ofList [c, '=']) :: ·) := by
  simp only [List.mem_cons, List.not_mem_nil, or_false] at hc
  rcases hc with rfl | rfl | rfl <;> rw [lexemes?]

/-- Any other character is read by itself, or as the first one of a word. -/
theorem lexemes?_single {c : Char} {rest : List Char}
    (h : c ∉ ['!', '>', '<'] ∨ ∀ tail, rest ≠ '=' :: tail) :
    lexemes? (c :: rest) =
      if isSpace c then lexemes? rest
      else if isNameChar c then
        (lexemes? (rest.dropWhile isNameChar)).map
          (.word (String.ofList (c :: rest.takeWhile isNameChar)) :: ·)
      else if singleMarks.contains c then (lexemes? rest).map (.mark (String.singleton c) :: ·)
      else none := by
  rw [lexemes?]
  all_goals
    rintro tail rfl rfl
    exact h.elim (fun hc => hc (by decide)) fun hrest => hrest tail rfl

theorem lexemes?_space (rest : List Char) : lexemes? (' ' :: rest) = lexemes? rest :=
  lexemes?_single (.inl (by decide))

theorem lexemes?_newline (rest : List Char) : lexemes? ('\n' :: rest) = lexemes? rest :=
  lexemes?_single (.inl (by decide))

theorem lexemes?_singleMark {c : Char} {rest : List Char} (hc : c ∈ singleMarks)
    (h : c ∉ ['!', '>', '<'] ∨ ∀ tail, rest ≠ '=' :: tail) :
    lexemes? (c :: rest) = (lexemes? rest).map (.mark (String.singleton c) :: ·) := by
  have hplain : singleMarks.all fun c => !isSpace c && !isNameChar c := by decide
  have hother := List.all_eq_true.mp hplain c hc
  simp only [Bool.and_eq_true, Bool.not_eq_true'] at hother
  simp [lexemes?_single h, hother, hc]

theorem lexemes?_mark {c : Char} (hc : c ∈ ['=', '~', '*', ',', '(', ')', '?'])
    (rest : List Char) :
    lexemes? (c :: rest) = (lexemes? rest).map (.mark (String.singleton c) :: ·) := by
  have hmarks : ['=', '~', '*', ',', '(', ')', '?'] ⊆ singleMarks := by simp [singleMarks]
  have hpair : c ∉ ['!', '>', '<'] := by
    intro hmem
    simp only [List.mem_cons, List.not_mem_nil, or_false] at hc hmem
    rcases hmem with rfl | rfl | rfl <;> simp at hc
  exact lexemes?_singleMark (hmarks hc) (.inl hpair)

/-- Behind `rest` no lexeme before it goes on. -/
def Ends (rest : List Char) : Prop :=
  ∀ c ∈ rest.head?, isNameChar c = false ∧ c ≠ '='

theorem ends_nil : Ends [] := by
  simp [Ends]

theorem ends_space (rest : List Char) : Ends (' ' :: rest) := by
  simp [Ends, isNameChar]

/-- A word is read to its end before what follows. -/
theorem lexemes?_word {c : Char} {name rest : List Char} (hname : ∀ d ∈ c :: name, isNameChar d)
    (hrest : Ends rest) :
    lexemes? (c :: name ++ rest) =
      (lexemes? rest).map (.word (String.ofList (c :: name)) :: ·) := by
  have hc : isNameChar c = true := hname c (by simp)
  have hstop : ∀ d, rest.head? = some d → isNameChar d = false := fun d hd => (hrest d hd).1
  have htake : (name ++ rest).takeWhile isNameChar = name := by
    rw [List.takeWhile_append_of_pos fun d hd => hname d (by simp [hd])]
    cases rest with
    | nil => simp
    | cons d rest => simp [hstop d rfl]
  have hdrop : (name ++ rest).dropWhile isNameChar = rest := by
    rw [List.dropWhile_append_of_pos fun d hd => hname d (by simp [hd])]
    cases rest with
    | nil => simp
    | cons d rest => simp [hstop d rfl]
  have hspace : isSpace c = false := by
    by_contra h
    simp only [isSpace, Bool.not_eq_false, Bool.or_eq_true, beq_iff_eq] at h
    rcases h with rfl | rfl <;> simp [isNameChar] at hc
  have hpair : c ∉ ['!', '>', '<'] := by
    intro hmem
    simp only [List.mem_cons, List.not_mem_nil, or_false] at hmem
    rcases hmem with rfl | rfl | rfl <;> simp [isNameChar] at hc
  rw [List.cons_append, lexemes?_single (.inl hpair)]
  simp [hspace, hc, htake, hdrop]

/-! ## Spelling -/

/-- A database reads `lexemes` from `text`, whatever ends it. -/
def Spells (text : List Char) (lexemes : List Lexeme) : Prop :=
  ∀ rest, Ends rest → lexemes? (text ++ rest) = (lexemes? rest).map (lexemes ++ ·)

theorem Spells.lexemes?_eq {text : List Char} {lexemes : List Lexeme} (h : Spells text lexemes) :
    lexemes? text = some lexemes := by
  simpa using h [] ends_nil

theorem spells_nil : Spells [] [] := by
  intro rest _
  simp

theorem spells_word {c : Char} {name : List Char} (hname : ∀ d ∈ c :: name, isNameChar d) :
    Spells (c :: name) [.word (String.ofList (c :: name))] := by
  intro rest hrest
  exact lexemes?_word hname hrest

theorem spells_pair {c : Char} (hc : c ∈ ['!', '>', '<']) :
    Spells [c, '='] [.mark (String.ofList [c, '='])] := by
  intro rest _
  exact lexemes?_pair hc rest

theorem spells_bang_eq : Spells ['!', '='] [.mark "!="] :=
  spells_pair (by decide)

theorem spells_gt_eq : Spells ['>', '='] [.mark ">="] :=
  spells_pair (by decide)

theorem spells_lt_eq : Spells ['<', '='] [.mark "<="] :=
  spells_pair (by decide)

/-- A mark of a single character stands for itself where no equals sign follows. -/
theorem spells_mark {c : Char} (hc : c ∈ singleMarks) :
    Spells [c] [.mark (String.singleton c)] := by
  intro rest hrest
  have hne : ∀ tail, rest ≠ '=' :: tail := by
    rintro tail rfl
    exact (hrest '=' rfl).2 rfl
  exact lexemes?_singleMark hc (.inr hne)

variable {text more : List Char} {lexemes following : List Lexeme}

theorem Spells.space_append (h : Spells text lexemes) (hmore : Spells more following) :
    Spells (text ++ ' ' :: more) (lexemes ++ following) := by
  intro rest hrest
  rw [List.append_assoc, List.cons_append, h _ (ends_space _), lexemes?_space, hmore rest hrest]
  simp [Function.comp_def]

theorem Spells.space (h : Spells text lexemes) : Spells (' ' :: text) lexemes := by
  simpa using spells_nil.space_append h

theorem Spells.newline (h : Spells text lexemes) : Spells (text ++ ['\n']) lexemes := by
  intro rest hrest
  have hends : Ends ('\n' :: rest) := by simp [Ends, isNameChar]
  rw [List.append_assoc, List.singleton_append, h _ hends, lexemes?_newline]

theorem Spells.mark_append {c : Char} (hc : c ∈ ['~', '*', ',', '(', ')', '?'])
    (h : Spells text lexemes) (hmore : Spells more following) :
    Spells (text ++ c :: more) (lexemes ++ .mark (String.singleton c) :: following) := by
  intro rest hrest
  have hends : Ends (c :: (more ++ rest)) := by
    simp only [List.mem_cons, List.not_mem_nil, or_false] at hc
    rcases hc with rfl | rfl | rfl | rfl | rfl | rfl <;> simp [Ends, isNameChar]
  rw [List.append_assoc, List.cons_append, h _ hends, lexemes?_mark (List.mem_cons_of_mem _ hc),
    hmore rest hrest]
  simp [Function.comp_def]

theorem spells_intercalate_space {texts : List (List Char)} {spelled : List (List Lexeme)}
    (h : List.Forall₂ Spells texts spelled) :
    Spells ([' '].intercalate texts) spelled.flatten := by
  induction h with
  | nil => exact spells_nil
  | @cons text lexemes texts spelled hhead htail ih =>
      cases htail with
      | nil => simpa using hhead
      | @cons next following texts spelled hnext htail =>
          rw [List.intercalate_cons_cons, List.append_assoc, List.flatten_cons]
          exact hhead.space_append ih

theorem spells_intercalate_comma {texts : List (List Char)} {spelled : List (List Lexeme)}
    (h : List.Forall₂ Spells texts spelled) :
    Spells ([',', ' '].intercalate texts) ([.mark ","].intercalate spelled) := by
  induction h with
  | nil => exact spells_nil
  | @cons text lexemes texts spelled hhead htail ih =>
      cases htail with
      | nil => simpa using hhead
      | @cons next following texts spelled hnext htail =>
          rw [List.intercalate_cons_cons, List.intercalate_cons_cons, List.append_assoc,
            List.append_assoc]
          exact hhead.mark_append (by simp) ih.space

/-- A text that can be read holds no other characters than those of words and marks and those
between them. -/
theorem mem_of_lexemes? {text : List Char} {lexemes : List Lexeme}
    (h : lexemes? text = some lexemes) :
    ∀ c ∈ text, isSpace c ∨ isNameChar c ∨ c ∈ '!' :: singleMarks := by
  fun_induction lexemes? text generalizing lexemes with
  | case1 => simp
  | case2 rest ih | case3 rest ih | case4 rest ih =>
      obtain ⟨read, hread, -⟩ := Option.map_eq_some_iff.mp h
      intro c hc
      simp only [List.mem_cons] at hc
      rcases hc with rfl | rfl | hc
      · simp [singleMarks]
      · simp [singleMarks]
      · exact ih hread c hc
  | case5 c rest _ _ _ hspace ih =>
      intro d hd
      rcases List.mem_cons.mp hd with rfl | hd
      · exact Or.inl hspace
      · exact ih h d hd
  | case6 c rest _ _ _ _ hname ih =>
      obtain ⟨read, hread, -⟩ := Option.map_eq_some_iff.mp h
      intro d hd
      rw [← List.takeWhile_append_dropWhile (p := isNameChar) (l := rest), ← List.cons_append,
        List.mem_append, List.mem_cons] at hd
      rcases hd with (rfl | hd) | hd
      · exact Or.inr (Or.inl hname)
      · exact Or.inr (Or.inl (List.mem_takeWhile_imp hd))
      · exact ih hread d hd
  | case7 c rest _ _ _ _ _ hmark ih =>
      obtain ⟨read, hread, -⟩ := Option.map_eq_some_iff.mp h
      intro d hd
      rcases List.mem_cons.mp hd with rfl | hd
      · exact Or.inr (Or.inr (List.mem_cons_of_mem _ (by simpa using hmark)))
      · exact ih hread d hd
  | case8 => simp at h

end TableGateway.Sql
