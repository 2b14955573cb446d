import Mathlib.Data.List.Chain
import TableGateway.Database.Statement
import TableGateway.Proofs.Number.Write
import TableGateway.Text.WordChar

/-!
# Names in a statement

A statement whose placeholders have names is scanned for them once more on its way to the database.
Where no question mark stands beside a word, a colon or another question mark, the scan finds the
names that were put in, each once and in order: none runs into the text behind it, and nothing else
is taken for one.
-/

namespace TableGateway.Sql

open Text

/-- A character behind which no name begins. -/
def isGlue (c : Char) : Bool :=
  c = ':' || c = '\\' || isWordChar c

/-- The names in a text: a colon with the word behind it, unless glue stands in front of the colon
or another colon behind the word. -/
def boundNames : (glued : Bool) → List Char → List String
  | _, [] => []
  | glued, c :: rest =>
    if glued = false ∧ c = ':' ∧ rest.takeWhile isWordChar ≠ [] ∧
        (rest.dropWhile isWordChar).head? ≠ some ':' then
      String.ofList (rest.takeWhile isWordChar) :: boundNames true (rest.dropWhile isWordChar)
    else boundNames (isGlue c) rest
  termination_by _ text => text.length
  decreasing_by
    · exact Nat.lt_succ_of_le (List.dropWhile_suffix _).length_le
    · simp

theorem isWordChar_of_isDigit {c : Char} (h : c.isDigit) : isWordChar c := by
  have hrange : (0x30, 0x39) ∈ wordRanges := List.mem_cons_self
  refine List.any_eq_true.mpr ⟨_, hrange, ?_⟩
  simpa [Char.isDigit, UInt32.le_iff_toNat_le] using h

theorem toList_placeholderName (place : Nat) :
    (placeholderName place).toList = 'p' :: Nat.toDigits 10 place := by
  rw [placeholderName, String.toList_append, Number.toList_writeInt]
  rfl

theorem isWordChar_of_mem_placeholderName {place : Nat} {c : Char}
    (hc : c ∈ (placeholderName place).toList) : isWordChar c := by
  rw [toList_placeholderName] at hc
  rcases List.mem_cons.mp hc with rfl | hc
  · decide
  · exact isWordChar_of_isDigit (Nat.isDigit_of_mem_toDigits (by decide) (by decide) hc)

theorem placeholderName_injective : Function.Injective placeholderName := by
  intro m n h
  exact Number.writeInt_natCast_injective ((String.append_right_inj _).mp h)

def isOpen (c : Char) : Bool :=
  c ≠ '?' && !isGlue c

/-- A question mark has open characters for neighbours. -/
def Apart (c d : Char) : Prop :=
  (c = '?' → isOpen d) ∧ (d = '?' → isOpen c)

structure Nameable (text : List Char) : Prop where
  noColon : ':' ∉ text
  apart : text.IsChain Apart

variable {c : Char} {text more rest : List Char} {glued : Bool}

theorem isOpen_iff : isOpen c ↔ c ≠ '?' ∧ isGlue c = false := by
  simp [isOpen]

theorem isGlue_eq_false_iff :
    isGlue c = false ↔ c ≠ ':' ∧ c ≠ '\\' ∧ isWordChar c = false := by
  simp [isGlue, and_assoc]

theorem Nameable.tail (h : Nameable (c :: rest)) : Nameable rest :=
  ⟨fun hmem => h.noColon (List.mem_cons_of_mem _ hmem), h.apart.tail⟩

theorem namePlaceholders_of_ne (hc : c ≠ '?') (place : Nat) (rest : List Char) :
    namePlaceholders place (c :: rest) = c :: namePlaceholders place rest := by
  rw [namePlaceholders]
  exact hc

/-- What stands behind a name in a text is no part of it. -/
theorem head?_namePlaceholders (h : ∀ d ∈ rest.head?, isOpen d) (place : Nat) :
    (namePlaceholders place rest).head? = rest.head? := by
  cases rest with
  | nil => rfl
  | cons d rest => rw [namePlaceholders_of_ne (isOpen_iff.mp (h d rfl)).1, List.head?_cons,
      List.head?_cons]

theorem takeWhile_dropWhile_append {word after : List Char} (hword : ∀ c ∈ word, isWordChar c)
    (hafter : ∀ d ∈ after.head?, isWordChar d = false) :
    (word ++ after).takeWhile isWordChar = word ∧ (word ++ after).dropWhile isWordChar = after := by
  rw [List.takeWhile_append_of_pos hword, List.dropWhile_append_of_pos hword]
  cases after with
  | nil => simp
  | cons d after => simp [hafter d rfl]

theorem boundNames_name {name : String} {after : List Char} (hne : name ≠ "")
    (hname : ∀ c ∈ name.toList, isWordChar c)
    (hafter : ∀ d ∈ after.head?, isGlue d = false) :
    boundNames false (':' :: (name.toList ++ after)) = name :: boundNames true after := by
  have hword : ∀ d ∈ after.head?, isWordChar d = false :=
    fun d hd => (isGlue_eq_false_iff.mp (hafter d hd)).2.2
  have hcolon : after.head? ≠ some ':' := by
    intro hd
    exact absurd (hafter ':' hd) (by decide)
  obtain ⟨htake, hdrop⟩ := takeWhile_dropWhile_append hname hword
  rw [boundNames, htake, hdrop, if_pos ⟨rfl, rfl, by simpa using hne, hcolon⟩,
    String.ofList_toList]

/-- **Named placeholders.** The scan finds the names that were put in for the question marks. -/
theorem boundNames_namePlaceholders (h : Nameable text)
    (hglued : text.head? = some '?' → glued = false) (place : Nat) :
    boundNames glued (namePlaceholders place text) =
      (List.range' place (text.count '?')).map placeholderName := by
  -- What is known of the character in front is that no question mark follows it if it is glue.
  induction text generalizing glued place with
  | nil => simp [namePlaceholders, boundNames]
  | cons c rest ih =>
      have hnext : ∀ d ∈ rest.head?, Apart c d := fun d hd => h.apart.rel_head? hd
      by_cases hc : c = '?'
      · subst hc
        have hopen : ∀ d ∈ rest.head?, isOpen d := fun d hd => (hnext d hd).1 rfl
        have hafter : ∀ d ∈ (namePlaceholders (place + 1) rest).head?, isGlue d = false := by
          rw [head?_namePlaceholders hopen]
          exact fun d hd => (isOpen_iff.mp (hopen d hd)).2
        have hrest : boundNames true (namePlaceholders (place + 1) rest) = _ :=
          ih h.tail (fun hd => absurd rfl (isOpen_iff.mp (hopen '?' hd)).1) (place + 1)
        rw [hglued rfl, namePlaceholders, List.cons_append,
          boundNames_name (by simp [← String.toList_inj, toList_placeholderName])
            (fun c hc => isWordChar_of_mem_placeholderName hc) hafter,
          hrest, List.count_cons_self, List.range'_succ, List.map_cons]
      · have hcolon : c ≠ ':' := by
          rintro rfl
          exact h.noColon List.mem_cons_self
        have hglue : rest.head? = some '?' → isGlue c = false :=
          fun hd => (isOpen_iff.mp ((hnext '?' hd).2 rfl)).2
        rw [namePlaceholders_of_ne hc, boundNames, if_neg (fun hname => hcolon hname.2.1),
          ih h.tail hglue, List.count_cons_of_ne hc]

theorem apart_of_isOpen_left {d : Char} (h : isOpen c) : Apart c d :=
  ⟨fun hc => absurd hc (isOpen_iff.mp h).1, fun _ => h⟩

theorem apart_of_isOpen_right {d : Char} (h : isOpen d) : Apart c d :=
  ⟨fun _ => h, fun hd => absurd hd (isOpen_iff.mp h).1⟩

theorem nameable_of_notMem (hmark : '?' ∉ text) (hcolon : ':' ∉ text) : Nameable text := by
  refine ⟨hcolon, List.Pairwise.isChain (List.pairwise_of_forall_mem_list ?_)⟩
  intro c hc d hd
  constructor
  · rintro rfl
    exact absurd hc hmark
  · rintro rfl
    exact absurd hd hmark

theorem nameable_mark : Nameable ['?'] :=
  ⟨by decide, .singleton _⟩

def isSeparator (sep : List Char) : Bool :=
  sep.all (fun c => c ≠ '?' && c ≠ ':') && sep.head?.any isOpen && sep.getLast?.any isOpen

theorem isSeparator_iff {sep : List Char} :
    isSeparator sep ↔ ('?' ∉ sep ∧ ':' ∉ sep) ∧
      (∃ c, sep.head? = some c ∧ isOpen c) ∧ ∃ c, sep.getLast? = some c ∧ isOpen c := by
  have hmarks : (sep.all fun c => c ≠ '?' && c ≠ ':') ↔ '?' ∉ sep ∧ ':' ∉ sep := by
    simp [List.all_eq_true, forall_and, ← List.forall_mem_ne']
  rw [isSeparator, Bool.and_eq_true, Bool.and_eq_true, hmarks, Option.any_eq_true,
    Option.any_eq_true, and_assoc]

theorem Nameable.append (h : Nameable text) (hmore : Nameable more)
    (hlast : ∀ c ∈ text.getLast?, isOpen c) : Nameable (text ++ more) := by
  constructor
  · exact List.not_mem_append h.noColon hmore.noColon
  · refine h.apart.append hmore.apart ?_
    intro c hc d _
    exact apart_of_isOpen_left (hlast c hc)

/-- A separator keeps the names on both sides apart. -/
theorem Nameable.join {sep : List Char} (h : Nameable text) (hsep : isSeparator sep)
    (hmore : Nameable more) : Nameable (text ++ (sep ++ more)) := by
  obtain ⟨⟨hmark, hcolon⟩, ⟨first, hfirst, hopen⟩, last, hlast, hclose⟩ := isSeparator_iff.mp hsep
  have hback : Nameable (sep ++ more) := by
    refine (nameable_of_notMem hmark hcolon).append hmore ?_
    intro c hc
    cases Option.mem_unique hc hlast
    exact hclose
  constructor
  · exact List.not_mem_append h.noColon hback.noColon
  · refine h.apart.append hback.apart ?_
    intro c _ d hd
    rw [List.head?_append, hfirst] at hd
    cases hd
    exact apart_of_isOpen_right hopen

theorem Nameable.close {sep : List Char} (h : Nameable text) (hsep : isSeparator sep) :
    Nameable (text ++ sep) := by
  rw [← List.append_nil sep]
  exact h.join hsep (nameable_of_notMem List.not_mem_nil List.not_mem_nil)

theorem nameable_intercalate {sep : String} {texts : List String} (hsep : isSeparator sep.toList)
    (h : ∀ text ∈ texts, Nameable text.toList) : Nameable (sep.intercalate texts).toList := by
  induction texts with
  | nil => exact nameable_of_notMem (by simp) (by simp)
  | cons text texts ih =>
      have hrest := ih fun other hother => h other (List.mem_cons_of_mem _ hother)
      cases texts with
      | nil => simpa using h text List.mem_cons_self
      | cons next texts =>
          rw [String.intercalate_cons_cons, String.toList_append, String.toList_append,
            List.append_assoc]
          exact (h text List.mem_cons_self).join hsep hrest

end TableGateway.Sql
