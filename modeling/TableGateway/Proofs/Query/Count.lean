import TableGateway.Proofs.Number.Integer
import TableGateway.Proofs.Query.Contribution

namespace TableGateway

open Text Number

inductive Control.Counts : Control → Nat → (Nat → QueryPart) → SkipReason → Prop
  | limit : Counts .limit 1 .limit .badLimit
  | offset : Counts .offset 0 .offset .badOffset

/-- What a reading makes of a text behind a control word that takes a count: a text that spells a
number that is large enough sets this number and nothing else, and any other text is skipped. -/
structure Reading.TakesCount (r : Reading) (word : Control) (least : Nat)
    (part : Nat → QueryPart) (reason : SkipReason) (raw : String) : Prop where
  sets_iff : ∀ n : Nat, r.addControl word raw = .ok { r with query := r.query.add (part n) } ↔
    least ≤ n ∧ SpellsInteger raw.toList n
  skips : (∀ n : Nat, least ≤ n → ¬ SpellsInteger raw.toList n) →
    r.addControl word raw =
      .ok { r with query := r.query.skip ⟨word.name ++ "=" ++ raw, reason⟩ }

variable {word : Control} {least m n : Nat} {part : Nat → QueryPart} {reason : SkipReason}
  {raw : String}

theorem spellsCount_iff : SpellsCount least raw n ↔ least ≤ n ∧ SpellsInteger raw.toList n := by
  rw [SpellsCount, read?_eq_int_iff, spellsInteger_iff]

theorem Reading.addControl_of_counts (h : word.Counts least part reason) (r : Reading)
    (raw : String) :
    r.addControl word raw = (readCount? least raw).map fun
      | some n => { r with query := r.query.add (part n) }
      | none => { r with query := r.query.skip ⟨word.name ++ "=" ++ raw, reason⟩ } := by
  cases h with
  | limit =>
      rw [addControl]
      cases readCount? 1 raw with
      | error e => rfl
      | ok count => cases count <;> rfl
  | offset =>
      rw [addControl]
      cases readCount? 0 raw with
      | error e => rfl
      | ok count => cases count <;> rfl

theorem Control.Counts.add_injective (h : word.Counts least part reason) {q : Query}
    (heq : q.add (part m) = q.add (part n)) : m = n := by
  cases h with
  | limit => exact Option.some.inj (congrArg Query.limit heq)
  | offset => exact Option.some.inj (congrArg Query.offset heq)

/-- A count that is set is no fragment that is skipped. -/
theorem Control.Counts.skip_ne_add (h : word.Counts least part reason) (q : Query) (s : Skipped)
    (n : Nat) : q.skip s ≠ q.add (part n) := by
  intro heq
  have hskipped : q.skipped ++ [s] = q.skipped := by
    cases h with
    | limit | offset => exact congrArg Query.skipped heq
  simp at hskipped

/-- A text that can be read sets the count that it spells, or is skipped for the one reason of its
control word. -/
theorem Reading.takesCount (h : word.Counts least part reason)
    (hread : ∃ number, Number.read? raw.toList = .ok number) (r : Reading) :
    r.TakesCount word least part reason raw := by
  obtain ⟨number, hnumber⟩ := hread
  have hcontrol := addControl_of_counts h r raw
  cases hcount : readCount? least raw with
  | error e =>
      rw [readCount?_eq_error_iff, hnumber] at hcount
      cases hcount
  | ok count =>
      rw [hcount] at hcontrol
      cases count with
      | some m =>
          have hspells := readCount?_eq_some_iff.mp hcount
          refine ⟨fun n => ?_, fun hnone => ?_⟩
          · rw [hcontrol, ← spellsCount_iff]
            constructor
            · intro heq
              have hquery := congrArg Reading.query (Except.ok.inj heq)
              rwa [← h.add_injective hquery]
            · intro hn
              rw [hn.unique hspells]
              rfl
          · obtain ⟨hle, hinteger⟩ := spellsCount_iff.mp hspells
            exact absurd hinteger (hnone m hle)
      | none =>
          have hmisses := readCount?_eq_none_iff.mp hcount
          refine ⟨fun n => ?_, fun _ => hcontrol⟩
          rw [hcontrol, ← spellsCount_iff]
          constructor
          · intro heq
            exact absurd (congrArg Reading.query (Except.ok.inj heq)) (h.skip_ne_add _ _ n)
          · exact fun hn => absurd hn (hmisses.2 n)

/-- How a text is read: as an integer exactly if it spells one, and unchanged if it spells no
number. -/
structure ReadsIntegers (text : String) : Prop where
  read : ∀ n, SpellsInteger text.toList n → Number.read? text.toList = .ok (some (.int n))
  numeral : ∀ n, Number.read? text.toList = .ok (some (.int n)) → IsNumeral (trim text.toList) n
  kept : Number.read? text.toList = .ok none → Value.ofText text = .ok (.text text)
  /-- Unless the text is an integer that is too long, it sets a count that it spells or is
  skipped. -/
  counted : ∀ word least part reason, Control.Counts word least part reason →
    (∃ number, Number.read? text.toList = .ok number) →
    ∀ r : Reading, r.TakesCount word least part reason text

/-- **Exact integers.** Every text is read as an integer exactly if it spells one, and a limit or an
offset is set exactly if its text spells a number that is large enough. -/
theorem readsIntegers (text : String) : ReadsIntegers text := by
  refine ⟨fun n hspells => ?_, fun n hread => read?_eq_int_iff.mp hread, fun hread => ?_,
    fun word least part reason hcounts hread r => Reading.takesCount hcounts hread r⟩
  · exact read?_eq_int_iff.mpr (spellsInteger_iff.mp hspells)
  · rw [Value.ofText, hread]
    rfl

/-- A five in Devanagari behind a zero in Arabic script, with a sign and blanks. -/
theorem readsIntegers_mixedScripts :
    SpellsInteger " +٠५\n".toList 5 ∧ Number.read? " +٠५\n".toList = .ok (some (.int 5)) ∧
      ({} : Reading).addControl .limit " +٠५\n" = .ok { query := { limit := some 5 } } := by
  have hspells : SpellsInteger " +٠५\n".toList 5 := by
    refine ⟨[' '], ['+', '٠', '५'], ['\n'], rfl, List.forall_mem_singleton.mpr rfl,
      List.forall_mem_singleton.mpr rfl, ['+'], by decide, ['٠', '५'], [0, 5], rfl, ?_, by decide,
      by decide, rfl⟩
    exact .cons ⟨0x660, by decide, by decide, rfl⟩ (.cons ⟨0x966, by decide, by decide, rfl⟩ .nil)
  have hread := (readsIntegers " +٠५\n").read 5 hspells
  have htakes := (readsIntegers " +٠५\n").counted _ _ _ _ .limit ⟨_, hread⟩ {}
  exact ⟨hspells, hread, (htakes.sets_iff 5).mpr ⟨by decide, hspells⟩⟩

end TableGateway
