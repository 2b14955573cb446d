import TableGateway.Database.Catalog
import TableGateway.Proofs.Action
import TableGateway.Proofs.Number.Compare

namespace TableGateway

/-! ## Schemas -/

/-- The listing of a schema says of each name what the schema says of it. -/
theorem Schema.kind?_listing (s : Schema) (name : String) :
    s.listing.kind? name = s.kind? name := by
  unfold listing Listing.kind? kind?
  rw [List.find?_map, Option.map_map]
  cases hfound : (s.tables ++ s.views).eraseDups.find? _ with
  | none =>
      have hall := List.find?_eq_none.mp hfound
      simp only [List.mem_eraseDups, List.mem_append] at hall
      have hview : name ∉ s.views := fun h => hall name (Or.inr h) (by simp)
      have htable : name ∉ s.tables := fun h => hall name (Or.inl h) (by simp)
      rw [if_neg hview, if_neg htable]
      rfl
  | some found =>
      have hname : found = name := by simpa using List.find?_some hfound
      subst hname
      have hmem := List.mem_of_find?_eq_some hfound
      simp only [List.mem_eraseDups, List.mem_append] at hmem
      by_cases hview : found ∈ s.views
      · simp [hview]
      · simp [hview, hmem.resolve_right hview]

theorem Schema.kind?_eq_none_iff {s : Schema} {name : String} :
    s.kind? name = none ↔ name ∉ s.tables ∧ name ∉ s.views := by
  unfold kind?
  split <;> simp_all

/-! ## Catalogs -/

namespace Catalog

variable {c : Catalog} {live : Listing} {now : Number} {name : String} {f : Failure}

/-- Without a lifetime a name is what it is in the live listing. -/
theorem resolve_of_lifetime_le (h : c.lifetime ≤ 0) (live : Listing) (now : Number)
    (name : String) : c.resolve live now name = .ok ⟨live.kind? name, c, 1⟩ := by
  have hlook : c.look live now = .ok ⟨live, c, 1⟩ := by rw [look, if_pos h]
  have hnever : ¬ 0 < c.lifetime := fun hpos => Number.not_le_zero_of_pos hpos h
  cases hkind : live.kind? name <;>
    simp [resolve, hlook, hkind, hnever, bind, Except.bind, pure, Except.pure]

/-- A look at the kept listing while it is fresh, at the live one without a lifetime, or at the live
one that is kept from now on. -/
inductive Sees (c : Catalog) (live : Listing) (now : Number) : Look → Prop
  | unkept (h : c.lifetime ≤ 0) : Sees c live now ⟨live, c, 1⟩
  | kept {listing : Listing} (hkept : c.kept = some listing) (hfresh : c.isFresh now = .ok true) :
    Sees c live now ⟨listing, c, 0⟩
  | reloaded : Sees c live now (c.reload live now)

/-- A look at the listing sees the live one or a kept one that is fresh. -/
theorem sees_of_look_eq_ok {seen : Look} (h : c.look live now = .ok seen) :
    c.Sees live now seen := by
  unfold look at h
  split at h
  · rename_i hlifetime
    cases h
    exact .unkept hlifetime
  · split at h
    · rename_i listing hkept
      obtain ⟨fresh, hfresh, h⟩ := bind_eq_ok_iff.mp h
      cases fresh with
      | true =>
          cases h
          exact .kept hkept hfresh
      | false =>
          cases h
          exact .reloaded
    · cases h
      exact .reloaded

theorem Sees.reads_le {seen : Look} (h : c.Sees live now seen) : seen.reads ≤ 1 := by
  cases h with
  | unkept hlifetime | reloaded => exact Nat.le_refl 1
  | kept hkept hfresh => exact Nat.zero_le 1

theorem Sees.lifetime_eq {seen : Look} (h : c.Sees live now seen) :
    seen.catalog.lifetime = c.lifetime := by
  cases h <;> rfl

/-- With a lifetime, whatever listing was looked at is kept. -/
theorem Sees.kept_eq {seen : Look} (hlifetime : 0 < c.lifetime) (h : c.Sees live now seen) :
    seen.catalog.kept = some seen.listing := by
  cases h with
  | unkept hnone => exact absurd hnone (Number.not_le_zero_of_pos hlifetime)
  | kept hkept hfresh => exact hkept
  | reloaded => rfl

theorem look_of_kept {listing : Listing} (hlifetime : 0 < c.lifetime)
    (hkept : c.kept = some listing) (hfresh : c.isFresh now = .ok true) (live : Listing) :
    c.look live now = .ok ⟨listing, c, 0⟩ := by
  rw [look, if_neg (Number.not_le_zero_of_pos hlifetime), hkept]
  simp [hfresh, bind, Except.bind, pure, Except.pure]

/-- A name that the kept listing holds while it is fresh is not looked up. -/
theorem resolve_of_kept {listing : Listing} {kind : Kind} (hlifetime : 0 < c.lifetime)
    (hkept : c.kept = some listing) (hfresh : c.isFresh now = .ok true)
    (hkind : listing.kind? name = some kind) (live : Listing) :
    c.resolve live now name = .ok ⟨some kind, c, 0⟩ := by
  rw [resolve, look_of_kept hlifetime hkept hfresh]
  simp [hkind, bind, Except.bind, pure, Except.pure]

/-- What a name is found to be: what a look gives for it, or, with a lifetime, what a new listing
gives if the look gives nothing. -/
inductive Finds (c : Catalog) (live : Listing) (now : Number) (name : String) : Resolution → Prop
  | first {seen : Look} {kind : Kind} (hsees : c.Sees live now seen)
    (hkind : seen.listing.kind? name = some kind) :
    Finds c live now name ⟨some kind, seen.catalog, seen.reads⟩
  | second {seen : Look} (hsees : c.Sees live now seen) (hlifetime : 0 < c.lifetime) :
    Finds c live now name ⟨live.kind? name, (c.reload live now).catalog, seen.reads + 1⟩
  | unknown {seen : Look} (hsees : c.Sees live now seen) (hlifetime : ¬ 0 < c.lifetime)
    (hkind : seen.listing.kind? name = none) :
    Finds c live now name ⟨none, seen.catalog, seen.reads⟩

/-- A name that a fresh kept listing lacks is looked for once more in the live one. -/
theorem finds_of_resolve_eq_ok {found : Resolution} (h : c.resolve live now name = .ok found) :
    c.Finds live now name found := by
  obtain ⟨seen, hlook, h⟩ := bind_eq_ok_iff.mp h
  have hsees := sees_of_look_eq_ok hlook
  split at h
  · rename_i kind hkind
    cases h
    exact .first hsees hkind
  · rename_i hkind
    split at h
    · rename_i hlifetime
      cases h
      -- Reading the listing again keeps the same as reading it once.
      have hagain : (seen.catalog.reload live now).catalog = (c.reload live now).catalog := by
        cases hsees <;> rfl
      rw [hagain]
      exact .second hsees hlifetime
    · rename_i hlifetime
      cases h
      exact .unknown hsees hlifetime hkind

/-- No question reads the listing more than twice. -/
theorem Finds.reads_le {found : Resolution} (h : c.Finds live now name found) :
    found.reads ≤ 2 := by
  cases h with
  | first hsees hkind | unknown hsees hlifetime hkind =>
      have hreads := hsees.reads_le
      dsimp only
      omega
  | second hsees hlifetime =>
      have hreads := hsees.reads_le
      dsimp only
      omega

/-- With a lifetime a kind comes from the live listing or from a kept one that is fresh, and a name
that is found to be nothing is looked up in the live one. -/
theorem Finds.kind_eq {found : Resolution} (hlifetime : 0 < c.lifetime)
    (h : c.Finds live now name found) :
    found.kind = live.kind? name ∨ ∃ listing kind, c.kept = some listing ∧
      c.isFresh now = .ok true ∧ listing.kind? name = some kind ∧ found.kind = some kind := by
  cases h with
  | first hsees hkind =>
      cases hsees with
      | unkept hnone | reloaded => exact Or.inl hkind.symm
      | kept hkept hfresh => exact Or.inr ⟨_, _, hkept, hfresh, hkind, rfl⟩
  | second hsees hpos => exact Or.inl rfl
  | unknown hsees hnever hkind => exact absurd hlifetime hnever

theorem Finds.lifetime_eq {found : Resolution} (h : c.Finds live now name found) :
    found.catalog.lifetime = c.lifetime := by
  cases h with
  | first hsees hkind | unknown hsees hlifetime hkind => exact hsees.lifetime_eq
  | second hsees hlifetime => rfl

/-- With a lifetime, a name that was found to be of some kind is in the listing that is kept. -/
theorem Finds.exists_kept {found : Resolution} {kind : Kind} (hlifetime : 0 < c.lifetime)
    (h : c.Finds live now name found) (hkind : found.kind = some kind) :
    ∃ listing, found.catalog.kept = some listing ∧ listing.kind? name = some kind := by
  cases h with
  | first hsees hfirst => exact ⟨_, hsees.kept_eq hlifetime, hfirst.trans hkind⟩
  | second hsees hpos => exact ⟨live, rfl, hkind⟩
  | unknown hsees hnever hnone => cases hkind

/-- Where no listing is kept, a name is looked up in the live one. -/
theorem exists_resolve_of_kept_eq_none (h : c.kept = none) (live : Listing) (now : Number)
    (name : String) :
    ∃ found, c.resolve live now name = .ok found ∧ found.kind = live.kind? name ∧
      0 < found.reads := by
  by_cases hlifetime : c.lifetime ≤ 0
  · exact ⟨_, resolve_of_lifetime_le hlifetime live now name, rfl, Nat.one_pos⟩
  · have hlook : c.look live now = .ok (c.reload live now) := by rw [look, if_neg hlifetime, h]
    rw [resolve, hlook]
    cases hkind : live.kind? name with
    | some kind =>
        refine ⟨⟨some kind, (c.reload live now).catalog, 1⟩, ?_, rfl, Nat.one_pos⟩
        simp [reload, hkind, bind, Except.bind, pure, Except.pure]
    | none =>
        by_cases hpos : 0 < c.lifetime <;>
          simp [reload, hkind, hpos, bind, Except.bind, pure, Except.pure]

/-- A look fails only where a listing is kept whose age cannot be told. -/
theorem look_eq_error_iff (live : Listing) :
    c.look live now = .error f ↔
      ¬ c.lifetime ≤ 0 ∧ c.kept.isSome ∧ ∃ e, now.minus c.readAt = .error e ∧ f = .number e := by
  unfold look
  by_cases hlifetime : c.lifetime ≤ 0
  · simp [hlifetime]
  · rw [if_neg hlifetime]
    cases c.kept with
    | none => simp
    | some listing =>
        unfold isFresh
        cases hage : now.minus c.readAt with
        | error e =>
            simp [hlifetime, bind, Except.bind, eq_comm]
        | ok age =>
            cases hbelow : age.isBelow c.lifetime <;>
              simp [hlifetime, hbelow, bind, Except.bind, pure, Except.pure]

/-- A name is not resolved only if the age of the kept listing cannot be told. -/
theorem resolve_eq_error_iff :
    c.resolve live now name = .error f ↔
      ¬ c.lifetime ≤ 0 ∧ c.kept.isSome ∧ ∃ e, now.minus c.readAt = .error e ∧ f = .number e := by
  rw [← look_eq_error_iff live]
  unfold resolve
  cases hlook : c.look live now with
  | error e => simp [bind, Except.bind]
  | ok first =>
      cases hkind : first.listing.kind? name with
      | some kind => simp [hkind, bind, Except.bind, pure, Except.pure]
      | none =>
          by_cases hlifetime : 0 < c.lifetime <;>
            simp [hkind, hlifetime, bind, Except.bind, pure, Except.pure]

end Catalog

end TableGateway
