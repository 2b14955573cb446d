import Mathlib.Data.List.Induction
import TableGateway.Database.Inquiry
import TableGateway.Proofs.Database.Catalog

/-!
# Bounded staleness

A catalog is asked for names while the schema changes, time goes by and listings are forgotten.
Whatever the order, a kind that it answers is one that the name had less than the lifetime ago and
since the catalog last forgot its listing, and it calls a name unknown only if the schema lacks it.
-/

namespace TableGateway

namespace Inquiry

variable {before after run : List Inquiry} {q : Inquiry} {w : World} {name : String} {kind : Kind}

def worldAfter (inquiries : List Inquiry) (w : World) : World :=
  inquiries.foldl (fun w q => (q.answer w).world) w

@[simp]
theorem worldAfter_nil (w : World) : worldAfter [] w = w := rfl

@[simp]
theorem worldAfter_concat (inquiries : List Inquiry) (q : Inquiry) (w : World) :
    worldAfter (inquiries ++ [q]) w = (q.answer (worldAfter inquiries w)).world := by
  simp [worldAfter]

/-- Each inquiry is answered in the world that those before it lead to. -/
theorem getElem?_answerAll (before : List Inquiry) (q : Inquiry) (after : List Inquiry)
    (w : World) :
    (answerAll (before ++ q :: after) w)[before.length]? =
      some (q.answer (worldAfter before w)) := by
  unfold answerAll worldAfter
  induction before generalizing w with
  | nil => rfl
  | cons first rest ih => exact ih (first.answer w).world

/-! ## Single inquiries -/

theorem answer_resolve (name : String) (w : World) :
    (resolve name).answer w =
      match w.catalog.resolve w.schema.listing w.clock name with
      | .error e => ⟨.error e, w, []⟩
      | .ok found =>
        ⟨.ok (.kind found.kind), { w with catalog := found.catalog },
          Action.readEvents w.schema.listing found.reads⟩ := by
  change (Action.resolve name >>= fun kind => pure (Finding.kind kind)) w = _
  rw [Action.bind_pure_apply, Action.resolve_apply]
  cases w.catalog.resolve w.schema.listing w.clock name <;> rfl

/-- What one inquiry does to the catalog: only a request to forget the kept listing drops it, and
what is kept anew is the live listing of this very moment. -/
inductive Leaves (w : World) : Inquiry → Catalog → Prop
  | same {q : Inquiry} (h : q ≠ .invalidate) : Leaves w q w.catalog
  | reloaded {q : Inquiry} (h : q ≠ .invalidate) :
    Leaves w q (w.catalog.reload w.schema.listing w.clock).catalog
  | forgotten : Leaves w .invalidate w.catalog.invalidate

theorem Leaves.lifetime_eq {c : Catalog} (h : Leaves w q c) : c.lifetime = w.catalog.lifetime := by
  cases h <;> rfl

theorem leaves_of_sees {seen : Catalog.Look} (h : q ≠ .invalidate)
    (hsees : w.catalog.Sees w.schema.listing w.clock seen) : Leaves w q seen.catalog := by
  cases hsees with
  | unkept hlifetime => exact .same h
  | kept hkept hfresh => exact .same h
  | reloaded => exact .reloaded h

/-- One inquiry at a time: what it may do to the catalog is what `Leaves` allows. -/
theorem leaves_answer (q : Inquiry) (w : World) : Leaves w q (q.answer w).world.catalog := by
  cases q with
  | resolve name =>
      rw [answer_resolve]
      cases hfound : w.catalog.resolve w.schema.listing w.clock name with
      | error e => exact .same (by simp)
      | ok found =>
          cases Catalog.finds_of_resolve_eq_ok hfound with
          | first hsees hkind => exact leaves_of_sees (by simp) hsees
          | second hsees hlifetime => exact .reloaded (by simp)
          | unknown hsees hlifetime hkind => exact leaves_of_sees (by simp) hsees
  | list =>
      change Leaves w list
        ((Action.listResources >>= fun l => pure (Finding.listing l)) w).world.catalog
      rw [Action.bind_pure_apply, Action.listResources_apply]
      cases hseen : w.catalog.look w.schema.listing w.clock with
      | error e => exact .same (by simp)
      | ok seen => exact leaves_of_sees (by simp) (Catalog.sees_of_look_eq_ok hseen)
  | columns name =>
      change Leaves w (columns name)
        ((Action.columns name >>= fun l => pure (Finding.columns l)) w).world.catalog
      rw [Action.bind_pure_apply, Action.columns_apply]
      cases w.schema.columns? name <;> exact .same (by simp)
  | invalidate => exact .forgotten
  | clock now => exact .same (by simp)
  | schema live => exact .same (by simp)

/-! ## Runs -/

@[simp]
theorem lifetime_worldAfter (run : List Inquiry) (w : World) :
    (worldAfter run w).catalog.lifetime = w.catalog.lifetime := by
  induction run using List.reverseRecOn with
  | nil => rfl
  | append_singleton run q ih =>
      rw [worldAfter_concat, ← ih]
      exact (leaves_answer q (worldAfter run w)).lifetime_eq

/-- A kept listing is that of the moment in the run at which it was read, and it was not to be
forgotten since. -/
theorem exists_of_kept_worldAfter (hnone : w.catalog.kept = none) {listing : Listing}
    (h : (worldAfter run w).catalog.kept = some listing) :
    ∃ early late, run = early ++ late ∧ .invalidate ∉ late ∧
      listing = (worldAfter early w).schema.listing ∧
      (worldAfter run w).catalog.readAt = (worldAfter early w).clock := by
  -- By induction from the end: the last inquiry keeps the catalog, so the moment stays the one
  -- before, or reads the listing now, or forgets it.
  induction run using List.reverseRecOn with
  | nil => simp [hnone] at h
  | append_singleton run q ih =>
      rw [worldAfter_concat] at h ⊢
      have hleaves := leaves_answer q (worldAfter run w)
      generalize (q.answer (worldAfter run w)).world.catalog = c at h hleaves ⊢
      cases hleaves with
      | same hq =>
          obtain ⟨early, late, rfl, hlate, hlisting, hclock⟩ := ih h
          refine ⟨early, late ++ [q], by simp, ?_, hlisting, hclock⟩
          simp [hlate, Ne.symm hq]
      | reloaded hq =>
          refine ⟨run, [q], rfl, by simpa using Ne.symm hq, ?_, rfl⟩
          exact (Option.some.inj h).symm
      | forgotten => cases h

/-- A name was of a kind at a moment of a run after which no listing was forgotten, and which is
this very moment or less than the lifetime ago. -/
def WasRecently (run : List Inquiry) (w : World) (name : String) (kind : Kind) : Prop :=
  ∃ early late, run = early ++ late ∧ .invalidate ∉ late ∧
    (worldAfter early w).schema.kind? name = some kind ∧
    (late = [] ∨ ∃ age, (worldAfter run w).clock.minus (worldAfter early w).clock = .ok age ∧
      age.isBelow w.catalog.lifetime = true)

theorem WasRecently.of_live (h : (worldAfter run w).schema.kind? name = some kind) :
    WasRecently run w name kind :=
  ⟨run, [], by simp, by simp, h, Or.inl rfl⟩

/-- What a fresh listing says of a name was true when the listing was kept, and it was kept during
the run. -/
theorem wasRecently_of_kept (hnone : w.catalog.kept = none) {listing : Listing}
    (hkept : (worldAfter run w).catalog.kept = some listing)
    (hfresh : (worldAfter run w).catalog.isFresh (worldAfter run w).clock = .ok true)
    (hkind : listing.kind? name = some kind) : WasRecently run w name kind := by
  obtain ⟨early, late, hrun, hlate, rfl, hreadAt⟩ := exists_of_kept_worldAfter hnone hkept
  rw [Schema.kind?_listing] at hkind
  refine ⟨early, late, hrun, hlate, hkind, Or.inr ?_⟩
  unfold Catalog.isFresh at hfresh
  rw [hreadAt, lifetime_worldAfter] at hfresh
  split at hfresh
  · rename_i age hage
    exact ⟨age, hage, Except.ok.inj hfresh⟩
  · cases hfresh

theorem listingReads_readEvents (listing : Listing) (reads : Nat) :
    listingReads (Action.readEvents listing reads) = reads := by
  unfold listingReads Action.readEvents
  induction reads with
  | zero => rfl
  | succ reads ih => simp [List.replicate_succ, ih]

theorem finds_of_answer {kind : Option Kind}
    (h : ((resolve name).answer w).result = .ok (.kind kind)) :
    ∃ found, w.catalog.Finds w.schema.listing w.clock name found ∧ found.kind = kind := by
  rw [answer_resolve] at h
  cases hfound : w.catalog.resolve w.schema.listing w.clock name with
  | error f => simp [hfound] at h
  | ok found =>
      rw [hfound] at h
      exact ⟨found, Catalog.finds_of_resolve_eq_ok hfound, by simpa using h⟩

theorem wasRecently_of_answer (hnone : w.catalog.kept = none) (hlifetime : 0 < w.catalog.lifetime)
    (h : ((resolve name).answer (worldAfter run w)).result = .ok (.kind (some kind))) :
    WasRecently run w name kind := by
  obtain ⟨found, hfinds, hkind⟩ := finds_of_answer h
  rw [← lifetime_worldAfter run w] at hlifetime
  rcases hfinds.kind_eq hlifetime with hlive | ⟨listing, kept, hkept, hfresh, hholds, hanswer⟩
  · rw [hlive, Schema.kind?_listing] at hkind
    exact .of_live hkind
  · obtain rfl : kept = kind := Option.some.inj (hanswer.symm.trans hkind)
    exact wasRecently_of_kept hnone hkept hfresh hholds

theorem kind?_of_answer_none (hlifetime : 0 < w.catalog.lifetime)
    (h : ((resolve name).answer w).result = .ok (.kind none)) : w.schema.kind? name = none := by
  obtain ⟨found, hfinds, hkind⟩ := finds_of_answer h
  rcases hfinds.kind_eq hlifetime with hlive | ⟨listing, kept, -, -, -, hanswer⟩
  · rw [hlive, Schema.kind?_listing] at hkind
    exact hkind
  · exact absurd (hkind.symm.trans hanswer) (by simp)

theorem answer_resolve_of_lifetime_le (h : w.catalog.lifetime ≤ 0) (name : String) :
    ((resolve name).answer w).result = .ok (.kind (w.schema.kind? name)) := by
  rw [answer_resolve, Catalog.resolve_of_lifetime_le h]
  exact congrArg (Except.ok ∘ Finding.kind) (w.schema.kind?_listing name)

theorem listingReads_answer_le (name : String) (w : World) :
    listingReads ((resolve name).answer w).events ≤ 2 := by
  rw [answer_resolve]
  cases hfound : w.catalog.resolve w.schema.listing w.clock name with
  | error f => exact Nat.zero_le 2
  | ok found =>
      dsimp only
      rw [listingReads_readEvents]
      exact (Catalog.finds_of_resolve_eq_ok hfound).reads_le

theorem answer_resolve_of_kept (hlifetime : 0 < w.catalog.lifetime) {listing : Listing}
    (hkept : w.catalog.kept = some listing) (hfresh : w.catalog.isFresh w.clock = .ok true)
    (hkind : listing.kind? name = some kind) :
    (resolve name).answer w = ⟨.ok (.kind (some kind)), w, []⟩ := by
  rw [answer_resolve, Catalog.resolve_of_kept hlifetime hkept hfresh hkind]
  rfl

theorem exists_answer_or_ageless (name : String) (w : World) :
    (∃ kind, ((resolve name).answer w).result = .ok (.kind kind)) ∨
      ∃ e, w.clock.minus w.catalog.readAt = .error e := by
  rw [answer_resolve]
  cases hfound : w.catalog.resolve w.schema.listing w.clock name with
  | error f =>
      obtain ⟨-, -, e, hage, -⟩ := Catalog.resolve_eq_error_iff.mp hfound
      exact Or.inr ⟨e, hage⟩
  | ok found => exact Or.inl ⟨found.kind, rfl⟩

/-- What is owed to a question for a name after a run. -/
structure Settles (run : List Inquiry) (w : World) (name : String) (ending : Ending Finding) :
    Prop where
  /-- Only if the age of the kept listing cannot be told is there no answer. -/
  answered : (∃ kind, ending.result = .ok (.kind kind)) ∨
    ∃ e, (worldAfter run w).clock.minus (worldAfter run w).catalog.readAt = .error e
  live : w.catalog.lifetime ≤ 0 →
    ending.result = .ok (.kind ((worldAfter run w).schema.kind? name))
  known : 0 < w.catalog.lifetime → ∀ kind, ending.result = .ok (.kind (some kind)) →
    WasRecently run w name kind
  unknown : 0 < w.catalog.lifetime → ending.result = .ok (.kind none) →
    name ∉ (worldAfter run w).schema.tables ∧ name ∉ (worldAfter run w).schema.views
  reads : listingReads ending.events ≤ 2
  kept : 0 < w.catalog.lifetime → ∀ listing kind,
    (worldAfter run w).catalog.kept = some listing →
    (worldAfter run w).catalog.isFresh (worldAfter run w).clock = .ok true →
    listing.kind? name = some kind →
    ending.result = .ok (.kind (some kind)) ∧ listingReads ending.events = 0

/-- **Bounded staleness.** However a catalog that kept nothing at first was used, each question for
a name is settled: without a lifetime from the schema as it is, and with one from the schema as it
was less than the lifetime ago and since the listing was last forgotten. -/
theorem settles_answerAll (hnone : w.catalog.kept = none) (before : List Inquiry) (name : String)
    (after : List Inquiry) :
    ∃ ending, (answerAll (before ++ .resolve name :: after) w)[before.length]? = some ending ∧
      Settles before w name ending := by
  refine ⟨_, getElem?_answerAll before _ after w, ?_⟩
  have hlifetime := lifetime_worldAfter before w
  exact {
    answered := exists_answer_or_ageless name _
    live := fun h => answer_resolve_of_lifetime_le (hlifetime ▸ h) name
    known := fun h _ => wasRecently_of_answer hnone h
    unknown := fun h hresult =>
      Schema.kind?_eq_none_iff.mp (kind?_of_answer_none (hlifetime ▸ h) hresult)
    reads := listingReads_answer_le name _
    kept := fun h listing kind hkept hfresh hkind => by
      rw [answer_resolve_of_kept (hlifetime ▸ h) hkept hfresh hkind]
      exact ⟨rfl, rfl⟩ }

def tableTurnedView : List Inquiry :=
  [.schema { tables := ["bolts"] }, .resolve "bolts", .schema { views := ["bolts"] },
    .clock (.int 59)]

theorem settles_answerAll_tableTurnedView :
    let w : World := { catalog := { lifetime := 60 } }
    ∃ ending, (answerAll (tableTurnedView ++ [.resolve "bolts"]) w)[4]? = some ending ∧
      ending.result = .ok (.kind (some .table)) ∧ listingReads ending.events = 0 ∧
      WasRecently tableTurnedView w "bolts" .table ∧
      (worldAfter tableTurnedView w).schema.kind? "bolts" = some .view := by
  intro w
  obtain ⟨ending, hending, hsettles⟩ := settles_answerAll (w := w) rfl tableTurnedView "bolts" []
  have hlifetime : 0 < w.catalog.lifetime := by decide +kernel
  have hkept : (worldAfter tableTurnedView w).catalog.kept = some [("bolts", .table)] := by
    decide +kernel
  have hfresh : (worldAfter tableTurnedView w).catalog.isFresh
      (worldAfter tableTurnedView w).clock = .ok true := by
    apply eq_ok_of_toOption_eq_some
    decide +kernel
  obtain ⟨hresult, hreads⟩ := hsettles.kept hlifetime _ .table hkept hfresh (by decide)
  exact ⟨ending, hending, hresult, hreads, hsettles.known hlifetime _ hresult, by decide⟩

end Inquiry

end TableGateway
