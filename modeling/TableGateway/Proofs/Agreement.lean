import Mathlib.Data.List.Forall2
import TableGateway.Proofs.Action

/-!
# Two runs that agree

Two runs agree if they come to related results or to the same failure, leave the same world behind,
and emit events that resemble each other one by one: everything is the same but the values that
statements carry.
-/

namespace TableGateway

variable {α β γ δ ε : Type} {R : α → β → Prop} {S : γ → δ → Prop}

inductive ResultsAgree (R : α → β → Prop) : Except ε α → Except ε β → Prop
  | ok {a : α} {b : β} (h : R a b) : ResultsAgree R (.ok a) (.ok b)
  | error (e : ε) : ResultsAgree R (.error e) (.error e)

theorem resultsAgree_eq (x : Except ε α) : ResultsAgree Eq x x := by
  cases x with
  | ok a => exact .ok rfl
  | error e => exact .error e

theorem ResultsAgree.eq {x y : Except ε α} (h : ResultsAgree Eq x y) : x = y := by
  cases h with
  | ok h => rw [h]
  | error e => rfl

theorem ResultsAgree.bind {x : Except ε α} {y : Except ε β} {f : α → Except ε γ}
    {g : β → Except ε δ} (h : ResultsAgree R x y)
    (hf : ∀ a b, R a b → ResultsAgree S (f a) (g b)) : ResultsAgree S (x >>= f) (y >>= g) := by
  cases h with
  | ok h => exact hf _ _ h
  | error e => exact .error e

/-- Both agree, unless one of them stops at a text without bytes. -/
inductive AgreeUnlessHalved (R : α → β → Prop) : Except Failure α → Except Failure β → Prop
  | agree {x : Except Failure α} {y : Except Failure β} (h : ResultsAgree R x y) :
    AgreeUnlessHalved R x y
  | left (text : Text.HalvedText) (y : Except Failure β) :
    AgreeUnlessHalved R (.error (.unencodable text)) y
  | right (x : Except Failure α) (text : Text.HalvedText) :
    AgreeUnlessHalved R x (.error (.unencodable text))

theorem ResultsAgree.bind_unlessHalved {x : Except Failure α} {y : Except Failure β}
    {f : α → Except Failure γ} {g : β → Except Failure δ} (h : ResultsAgree R x y)
    (hf : ∀ a b, R a b → AgreeUnlessHalved S (f a) (g b)) :
    AgreeUnlessHalved S (x >>= f) (y >>= g) := by
  cases h with
  | ok h => exact hf _ _ h
  | error e => exact .agree (.error e)

theorem AgreeUnlessHalved.bind {x : Except Failure α} {y : Except Failure β}
    {f : α → Except Failure γ} {g : β → Except Failure δ} (h : AgreeUnlessHalved R x y)
    (hf : ∀ a b, R a b → ResultsAgree S (f a) (g b)) :
    AgreeUnlessHalved S (x >>= f) (y >>= g) := by
  cases h with
  | agree h => exact .agree (h.bind hf)
  | left => exact .left _ _
  | right => exact .right _ _

structure Statement.Resembles (s t : Statement) : Prop where
  sql : s.sql = t.sql
  length : s.params.length = t.params.length

structure BoundStatement.Resembles (s t : BoundStatement) : Prop where
  sql : s.sql = t.sql
  names : s.bindings.names = t.bindings.names

inductive Event.Resembles : Event → Event → Prop
  | same (event : Event) : Resembles event event
  | submitted {s t : Statement} (h : s.Resembles t) : Resembles (.submitted s) (.submitted t)
  | executed {s t : BoundStatement} (h : s.Resembles t) : Resembles (.executed s) (.executed t)

theorem Event.resembles_refl (events : List Event) :
    List.Forall₂ Event.Resembles events events :=
  List.forall₂_same.mpr fun event _ => .same event

structure Ending.Agrees (R : α → β → Prop) (x : Ending α) (y : Ending β) : Prop where
  result : ResultsAgree R x.result y.result
  world : x.world = y.world
  events : List.Forall₂ Event.Resembles x.events y.events

theorem Ending.agrees_refl (x : Ending α) : x.Agrees Eq x :=
  ⟨resultsAgree_eq x.result, rfl, Event.resembles_refl x.events⟩

theorem Ending.Agrees.filterMap_events {x : Ending α} {y : Ending β} {T : γ → δ → Prop}
    {f : Event → Option γ} {g : Event → Option δ} (h : x.Agrees R y)
    (hfg : ∀ event other, event.Resembles other → Option.Rel T (f event) (g other)) :
    List.Forall₂ T (x.events.filterMap f) (y.events.filterMap g) := by
  apply List.rel_filterMap _ h.events
  intro event other hevent
  exact hfg event other hevent

/-- Compound actions agree if their first parts do, and their second parts on related results. -/
theorem Action.agrees_bind {x : Action α} {y : Action β} {f : α → Action γ} {g : β → Action δ}
    {w : World} (hx : (x w).Agrees R (y w))
    (hf : ∀ a b, R a b → (f a (x w).world).Agrees S (g b (x w).world)) :
    ((x >>= f) w).Agrees S ((y >>= g) w) := by
  have hresult := hx.result
  generalize hxresult : (x w).result = xresult at hresult
  generalize hyresult : (y w).result = yresult at hresult
  cases hresult with
  | ok h =>
      have hnext := hf _ _ h
      rw [bind_of_ok hxresult, bind_of_ok hyresult, ← hx.world]
      exact ⟨hnext.result, hnext.world, List.rel_append hx.events hnext.events⟩
  | error e =>
      rw [bind_of_error hxresult, bind_of_error hyresult]
      exact ⟨.error e, hx.world, hx.events⟩

theorem Action.agrees_ofExcept {x : Except Failure α} {y : Except Failure β}
    (h : ResultsAgree R x y) (w : World) : (ofExcept x w).Agrees R (ofExcept y w) := by
  rw [ofExcept_apply, ofExcept_apply]
  exact ⟨h, rfl, .nil⟩

end TableGateway
