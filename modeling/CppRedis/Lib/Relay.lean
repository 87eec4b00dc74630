import Mathlib.Data.List.Basic

/-!
# Relays

A relay passes on what it gets, in order and once each. Something may be lost on the way,
but not what it must pass on.

* `Relays R must xs ys`: `ys` is what came of `xs`, where `R x y` says that `y` is `x` passed on.
* `append`: what came of two parts is what came of each.
* `weaken`, `lost`: less that must be passed on, and more that was lost.
* `exists_sublist`: what came of `xs` is made of a sublist of it.
-/

/-- `ys` is what a relay made of `xs`. -/
inductive Relays {α β : Type} (R : α → β → Prop) (must : α → Prop) : List α → List β → Prop
  | nil : Relays R must [] []
  | pass {x : α} {y : β} {xs : List α} {ys : List β} (hR : R x y) (h : Relays R must xs ys) :
      Relays R must (x :: xs) (y :: ys)
  | lose {x : α} {xs : List α} {ys : List β} (hx : ¬ must x) (h : Relays R must xs ys) :
      Relays R must (x :: xs) ys

namespace Relays

variable {α β : Type} {R : α → β → Prop} {must must' : α → Prop} {xs xs' : List α} {ys ys' : List β}

theorem append (h : Relays R must xs ys) (h' : Relays R must xs' ys') :
    Relays R must (xs ++ xs') (ys ++ ys') := by
  induction h with
  | nil => exact h'
  | pass hR _ ih => exact .pass hR ih
  | lose hx _ ih => exact .lose hx ih

/-- Less must be passed on. -/
theorem weaken (h : Relays R must xs ys) (hmust : ∀ x, must' x → must x) : Relays R must' xs ys := by
  induction h with
  | nil => exact .nil
  | pass hR _ ih => exact .pass hR ih
  | lose hx _ ih => exact .lose (fun hx' => hx (hmust _ hx')) ih

/-- Nothing came of something that need not be passed on. -/
theorem none (hxs : ∀ x ∈ xs, ¬ must x) : Relays R must xs [] := by
  induction xs with
  | nil => exact .nil
  | cons x xs ih =>
    obtain ⟨hx, hxs⟩ := List.forall_mem_cons.mp hxs
    exact .lose hx (ih hxs)

/-- What comes after was lost. -/
theorem lost (h : Relays R must xs ys) (hxs : ∀ x ∈ xs', ¬ must x) : Relays R must (xs ++ xs') ys := by
  have happend := h.append (none (R := R) hxs)
  rwa [List.append_nil] at happend

/-- What came of `xs` was made of some of it. -/
theorem exists_sublist (h : Relays R must xs ys) :
    ∃ passed, passed.Sublist xs ∧ List.Forall₂ R passed ys := by
  induction h with
  | nil => exact ⟨[], .slnil, .nil⟩
  | pass hR _ ih =>
    obtain ⟨passed, hsub, hall⟩ := ih
    exact ⟨_, hsub.cons_cons _, .cons hR hall⟩
  | lose _ _ ih =>
    obtain ⟨passed, hsub, hall⟩ := ih
    exact ⟨passed, hsub.cons _, hall⟩

end Relays
