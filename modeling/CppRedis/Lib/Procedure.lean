import Mathlib.Logic.Relation
import Mathlib.Tactic.Common

/-!
# Procedures

A procedure works on a state and returns or throws; either way it leaves a
state behind. It is a term of `EStateM ε σ α`.

* `after p s` is the state that `p` leaves behind.
* `Returns p s`: the call returns. The rules split a sequence into its parts.
* `Follows R p`: `p` moves the state only along steps of `R`. One rule for each
  way of composing procedures, so that what a long procedure can do is read off
  its parts; `Follows.keeps` turns a step invariant into an invariant of calls.
* `Lens.zoom` runs a procedure of a component on the whole.
* `Projects f p q`: `p` does to a part of the state what `q` does. One rule for each way of
  composing procedures.
-/

namespace Procedure

variable {ε σ τ α β : Type}

/-! ## What a call leaves behind -/

/-- The state in which a call leaves its caller, whether it returns or throws. -/
def after (p : EStateM ε σ α) (s : σ) : σ :=
  match p s with
  | .ok _ s => s
  | .error _ s => s

/-- The value that a call returns, if it returns. -/
def value (p : EStateM ε σ α) (s : σ) : Option α :=
  match p s with
  | .ok a _ => some a
  | .error _ _ => none

/-- The call returns. -/
def Returns (p : EStateM ε σ α) (s : σ) : Prop :=
  ∃ a s', p s = .ok a s'

theorem eq_ok_of_value {p : EStateM ε σ α} {s : σ} {a : α} (h : value p s = some a) :
    p s = .ok a (after p s) := by
  unfold value at h
  unfold after
  cases hp : p s with
  | ok b s' =>
    rw [hp] at h
    cases h
    rfl
  | error e s' =>
    rw [hp] at h
    cases h

theorem after_ok {p : EStateM ε σ α} {s s' : σ} {a : α} (h : p s = .ok a s') : after p s = s' := by
  unfold after
  rw [h]

theorem after_error {p : EStateM ε σ α} {s s' : σ} {e : ε} (h : p s = .error e s') :
    after p s = s' := by
  unfold after
  rw [h]

theorem after_congr {p q : EStateM ε σ α} {s s' : σ} (h : p s = q s') : after p s = after q s' := by
  unfold after
  rw [h]

@[simp] theorem after_pure (a : α) (s : σ) : after (pure a : EStateM ε σ α) s = s :=
  rfl

@[simp] theorem after_modify (f : σ → σ) (s : σ) : after (modify f : EStateM ε σ PUnit) s = f s :=
  rfl

theorem bind_ok {p : EStateM ε σ α} {s s' : σ} {a : α} (h : p s = .ok a s')
    (f : α → EStateM ε σ β) : (p >>= f) s = f a s' := by
  show EStateM.bind p f s = _
  unfold EStateM.bind
  rw [h]

theorem bind_error {p : EStateM ε σ α} {s s' : σ} {e : ε} (h : p s = .error e s')
    (f : α → EStateM ε σ β) : (p >>= f) s = .error e s' := by
  show EStateM.bind p f s = _
  unfold EStateM.bind
  rw [h]

theorem bind_pure_unit (p : EStateM ε σ PUnit) (s : σ) : (p >>= fun _ => pure ⟨⟩) s = p s := by
  cases h : p s with
  | ok a s' => exact bind_ok h _
  | error e s' => exact bind_error h _

theorem get_bind (f : σ → EStateM ε σ β) (s : σ) : (get >>= f) s = f s s :=
  rfl

theorem modify_bind (g : σ → σ) (f : PUnit → EStateM ε σ β) (s : σ) :
    (modify g >>= f) s = f ⟨⟩ (g s) :=
  rfl

theorem after_bind_ok {p : EStateM ε σ α} {s s' : σ} {a : α} (h : p s = .ok a s')
    (f : α → EStateM ε σ β) : after (p >>= f) s = after (f a) s' := by
  unfold after
  rw [bind_ok h]

theorem after_bind_error {p : EStateM ε σ α} {s s' : σ} {e : ε} (h : p s = .error e s')
    (f : α → EStateM ε σ β) : after (p >>= f) s = s' := by
  unfold after
  rw [bind_error h]

theorem after_get_bind (f : σ → EStateM ε σ β) (s : σ) : after (get >>= f) s = after (f s) s :=
  rfl

theorem after_modify_bind (g : σ → σ) (f : PUnit → EStateM ε σ β) (s : σ) :
    after (modify g >>= f) s = after (f ⟨⟩) (g s) :=
  rfl

theorem after_bind_pure (p : EStateM ε σ α) (f : α → β) (s : σ) :
    after (p >>= fun a => pure (f a)) s = after p s := by
  cases h : p s with
  | ok a s' =>
    rw [after_bind_ok h, after_ok h]
    rfl
  | error e s' => rw [after_bind_error h, after_error h]

theorem value_bind_ok {p : EStateM ε σ α} {s s' : σ} {a : α} (h : p s = .ok a s')
    (f : α → EStateM ε σ β) : value (p >>= f) s = value (f a) s' := by
  unfold value
  rw [bind_ok h]

theorem value_get_bind (f : σ → EStateM ε σ β) (s : σ) : value (get >>= f) s = value (f s) s :=
  rfl

theorem value_modify_bind (g : σ → σ) (f : PUnit → EStateM ε σ β) (s : σ) :
    value (modify g >>= f) s = value (f ⟨⟩) (g s) :=
  rfl

/-- What a sequence that returned has done. -/
theorem bind_eq_ok {p : EStateM ε σ α} {f : α → EStateM ε σ β} {s s' : σ} {b : β}
    (h : (p >>= f) s = .ok b s') : ∃ a s₁, p s = .ok a s₁ ∧ f a s₁ = .ok b s' := by
  cases hp : p s with
  | ok a s₁ =>
    rw [bind_ok hp] at h
    exact ⟨a, s₁, rfl, h⟩
  | error e s₁ =>
    rw [bind_error hp] at h
    cases h

theorem catch_ok {p : EStateM ε σ α} {s s' : σ} {a : α} (h : p s = .ok a s')
    (f : ε → EStateM ε σ α) : tryCatch p f s = .ok a s' := by
  show EStateM.tryCatch p f s = _
  unfold EStateM.tryCatch
  rw [h]

theorem catch_error {p : EStateM ε σ α} {s s' : σ} {e : ε} (h : p s = .error e s')
    (f : ε → EStateM ε σ α) : tryCatch p f s = f e s' := by
  show EStateM.tryCatch p f s = _
  unfold EStateM.tryCatch
  rw [h]
  rfl

/-! ## Returning -/

theorem returns_pure (a : α) (s : σ) : Returns (pure a : EStateM ε σ α) s :=
  ⟨a, s, rfl⟩

theorem not_returns_of_error {p : EStateM ε σ α} {s s' : σ} {e : ε} (h : p s = .error e s') :
    ¬ Returns p s := by
  rintro ⟨a, s₁, hr⟩
  cases h.symm.trans hr

theorem value_ok {p : EStateM ε σ α} {s s' : σ} {a : α} (h : p s = .ok a s') :
    value p s = some a := by
  unfold value
  rw [h]

/-- A call that returns leaves a value and a state behind. -/
theorem Returns.exists_value {p : EStateM ε σ α} {s : σ} (h : Returns p s) :
    ∃ a, value p s = some a ∧ p s = .ok a (after p s) := by
  obtain ⟨a, s', h⟩ := h
  rw [after_ok h]
  exact ⟨a, value_ok h, h⟩

/-- A call that returns a given value is a call that returns it. -/
theorem returns_of_value {p : EStateM ε σ α} {s : σ} {a : α} (h : value p s = some a) :
    Returns p s :=
  ⟨a, _, eq_ok_of_value h⟩

/-- A sequence returns when its first part does, and then its second. -/
theorem returns_bind {p : EStateM ε σ α} {f : α → EStateM ε σ β} {s : σ} {a : α}
    (h : value p s = some a) : Returns (p >>= f) s ↔ Returns (f a) (after p s) := by
  unfold Returns
  rw [bind_ok (eq_ok_of_value h)]

/-- The same for a first part without a result. -/
theorem returns_seq {p : EStateM ε σ PUnit} {f : PUnit → EStateM ε σ β} {s : σ} :
    Returns (p >>= f) s ↔ Returns p s ∧ Returns (f ⟨⟩) (after p s) := by
  constructor
  · rintro ⟨b, s', h⟩
    obtain ⟨a, s₁, hp, hf⟩ := bind_eq_ok h
    rw [after_ok hp]
    exact ⟨⟨a, s₁, hp⟩, b, s', hf⟩
  · rintro ⟨hp, hf⟩
    obtain ⟨a, hv, -⟩ := hp.exists_value
    exact (returns_bind hv).mpr hf

theorem returns_get {f : σ → EStateM ε σ β} {s : σ} : Returns (get >>= f) s ↔ Returns (f s) s :=
  Iff.rfl

theorem returns_modify {g : σ → σ} {f : PUnit → EStateM ε σ β} {s : σ} :
    Returns (modify g >>= f) s ↔ Returns (f ⟨⟩) (g s) :=
  Iff.rfl

/-! ## A call between an entry and an exit -/

section Between

variable {p : EStateM ε σ PUnit} {f g : σ → σ} {s : σ}

theorem after_between_ok (h : Returns p (f s)) :
    after (do modify f; p; modify g) s = g (after p (f s)) := by
  obtain ⟨a, s', hp⟩ := h
  rw [after_modify_bind, after_bind_ok hp, after_modify, after_ok hp]

/-- The exit is not reached when the call throws. -/
theorem after_between_error (h : ¬ Returns p (f s)) :
    after (do modify f; p; modify g) s = after p (f s) := by
  cases hp : p (f s) with
  | ok a s' => exact absurd ⟨a, s', hp⟩ h
  | error e s' => rw [after_modify_bind, after_bind_error hp, after_error hp]

end Between

/-! ## Moving along steps -/

/-- A step that keeps `I`. -/
def Keeping (I : σ → Prop) (s s' : σ) : Prop :=
  I s → I s'

/-- The procedure moves the state only along steps of `R`. -/
def Follows (R : σ → σ → Prop) (p : EStateM ε σ α) : Prop :=
  ∀ s, Relation.ReflTransGen R s (after p s)

namespace Follows

variable {R : σ → σ → Prop}

theorem pure (a : α) : Follows R (Pure.pure a : EStateM ε σ α) :=
  fun _ => .refl

theorem throw (e : ε) : Follows R (MonadExcept.throw e : EStateM ε σ α) :=
  fun _ => .refl

theorem get : Follows R (MonadState.get : EStateM ε σ σ) :=
  fun _ => .refl

theorem modify {f : σ → σ} (h : ∀ s, R s (f s)) : Follows R (modify f : EStateM ε σ PUnit) :=
  fun s => .single (h s)

theorem bind {p : EStateM ε σ α} {f : α → EStateM ε σ β} (hp : Follows R p)
    (hf : ∀ a, Follows R (f a)) : Follows R (p >>= f) := by
  intro s
  have h := hp s
  cases hs : p s with
  | ok a s₁ =>
    rw [after_ok hs] at h
    rw [after_bind_ok hs]
    exact h.trans (hf a s₁)
  | error e s₁ =>
    rw [after_error hs] at h
    rw [after_bind_error hs]
    exact h

theorem tryCatch {p : EStateM ε σ α} {f : ε → EStateM ε σ α} (hp : Follows R p)
    (hf : ∀ e, Follows R (f e)) : Follows R (MonadExcept.tryCatch p f) := by
  intro s
  have h := hp s
  cases hs : p s with
  | ok a s₁ =>
    rw [after_ok hs] at h
    rw [after_ok (catch_ok hs f)]
    exact h
  | error e s₁ =>
    rw [after_error hs] at h
    have hb : after (MonadExcept.tryCatch p f) s = after (f e) s₁ := by
      unfold after
      rw [catch_error hs]
    rw [hb]
    exact h.trans (hf e s₁)

theorem ite {c : Prop} [Decidable c] {p q : EStateM ε σ α} (hp : Follows R p) (hq : Follows R q) :
    Follows R (if c then p else q) := by
  split
  · exact hp
  · exact hq

/-- A procedure that moves along the steps of `R` moves along those of `Q` when
each of the former is a run of the latter. -/
theorem mono {Q : σ → σ → Prop} {p : EStateM ε σ α} (hp : Follows R p)
    (h : ∀ s s', R s s' → Relation.ReflTransGen Q s s') : Follows Q p := by
  intro s
  have hs := hp s
  generalize after p s = s' at hs ⊢
  induction hs with
  | refl => exact .refl
  | tail _ hstep ih => exact ih.trans (h _ _ hstep)

/-- What every step keeps, the procedure keeps. -/
theorem keeps {I : σ → Prop} {p : EStateM ε σ α} (hp : Follows R p)
    (h : ∀ s s', R s s' → I s → I s') {s : σ} (hs : I s) : I (after p s) := by
  have hr := hp s
  generalize after p s = s' at hr ⊢
  induction hr with
  | refl => exact hs
  | tail _ hstep ih => exact h _ _ hstep ih

/-- `I` holds after the procedure if it did before. -/
theorem of_keeping {I : σ → Prop} {p : EStateM ε σ α} (h : ∀ s, I s → I (after p s)) :
    Follows (Keeping I) p :=
  fun s => .single (h s)

theorem keeping {I : σ → Prop} {p : EStateM ε σ α} (hp : Follows (Keeping I) p) {s : σ} (hs : I s) :
    I (after p s) :=
  hp.keeps (fun _ _ h => h) hs

/-- What holds after the first part, and what the rest keeps. -/
theorem keeping_bind {I : σ → Prop} {p : EStateM ε σ α} {f : α → EStateM ε σ β} {s : σ}
    (hp : I (after p s)) (hf : ∀ a, Follows (Keeping I) (f a)) : I (after (p >>= f) s) := by
  cases hs : p s with
  | ok a s₁ =>
    rw [after_ok hs] at hp
    rw [after_bind_ok hs]
    exact (hf a).keeping hp
  | error e s₁ =>
    rw [after_error hs] at hp
    rw [after_bind_error hs]
    exact hp

theorem keeping_catch {I : σ → Prop} {p : EStateM ε σ α} {f : ε → EStateM ε σ α} {s : σ}
    (hp : I (after p s)) (hf : ∀ e, Follows (Keeping I) (f e)) :
    I (after (MonadExcept.tryCatch p f) s) := by
  cases hs : p s with
  | ok a s₁ =>
    rw [after_ok hs] at hp
    rw [after_ok (catch_ok hs f)]
    exact hp
  | error e s₁ =>
    rw [after_error hs] at hp
    have hcatch : after (MonadExcept.tryCatch p f) s = after (f e) s₁ := by
      unfold after
      rw [catch_error hs]
    rw [hcatch]
    exact (hf e).keeping hp

end Follows

/-! ## Components -/

/-- A component of a state: how it is read and how it is replaced. -/
structure Lens (σ τ : Type) where
  get : σ → τ
  set : τ → σ → σ
  get_set : ∀ t s, get (set t s) = t
  set_get : ∀ s, set (get s) s = s

namespace Lens

/-- The whole as a component of itself. -/
def id : Lens σ σ :=
  ⟨fun s => s, fun t _ => t, fun _ _ => rfl, fun _ => rfl⟩

/-- A component of a component. -/
def comp {υ : Type} (l : Lens σ τ) (k : Lens τ υ) : Lens σ υ where
  get s := k.get (l.get s)
  set u s := l.set (k.set u (l.get s)) s
  get_set u s := by rw [l.get_set, k.get_set]
  set_get s := by rw [k.set_get, l.set_get]

variable (l : Lens σ τ)

/-- A procedure of the component, run on the whole. -/
def zoom (p : EStateM ε τ α) : EStateM ε σ α := fun s =>
  match p (l.get s) with
  | .ok a t => .ok a (l.set t s)
  | .error e t => .error e (l.set t s)

/-- A change of the component, as one of the whole. -/
def update (f : τ → τ) (s : σ) : σ :=
  l.set (f (l.get s)) s

theorem zoom_ok {p : EStateM ε τ α} {s : σ} {a : α} {t : τ} (h : p (l.get s) = .ok a t) :
    l.zoom p s = .ok a (l.set t s) := by
  unfold zoom
  rw [h]

theorem zoom_error {p : EStateM ε τ α} {s : σ} {e : ε} {t : τ} (h : p (l.get s) = .error e t) :
    l.zoom p s = .error e (l.set t s) := by
  unfold zoom
  rw [h]

theorem after_zoom (p : EStateM ε τ α) (s : σ) :
    after (l.zoom p) s = l.set (after p (l.get s)) s := by
  unfold after zoom
  cases p (l.get s) <;> rfl

theorem returns_zoom {p : EStateM ε τ α} {s : σ} :
    Returns (l.zoom p) s ↔ Returns p (l.get s) := by
  unfold Returns
  constructor
  · rintro ⟨a, s', h⟩
    unfold zoom at h
    split at h
    · next hp => exact ⟨_, _, hp⟩
    · cases h
  · rintro ⟨a, t, h⟩
    exact ⟨a, _, l.zoom_ok h⟩

end Lens

/-! ## Parts of the state -/

/-- What a call does to the part `f s` of the state. -/
def project (f : σ → τ) : EStateM.Result ε σ α → EStateM.Result ε τ α
  | .ok a s => .ok a (f s)
  | .error e s => .error e (f s)

/-- `p` returns and throws as `q` does, and does to a part of the state what `q` does. -/
def Projects (f : σ → τ) (p : EStateM ε σ α) (q : EStateM ε τ α) : Prop :=
  ∀ s, project f (p s) = q (f s)

namespace Projects

variable {f : σ → τ}

theorem pure (a : α) : Projects f (Pure.pure a : EStateM ε σ α) (Pure.pure a) :=
  fun _ => rfl

theorem throw (e : ε) : Projects f (MonadExcept.throw e : EStateM ε σ α) (MonadExcept.throw e) :=
  fun _ => rfl

/-- A change that the part does not see. -/
theorem modify_bind {p : EStateM ε σ α} {q : EStateM ε τ α} {g : σ → σ} (h : ∀ s, f (g s) = f s)
    (hp : Projects f p q) : Projects f (modify g >>= fun _ => p) q := by
  intro s
  rw [← h s]
  exact hp (g s)

theorem modify {g : σ → σ} {g' : τ → τ} (h : ∀ s, f (g s) = g' (f s)) :
    Projects f (modify g : EStateM ε σ PUnit) (modify g') :=
  fun s => congrArg (EStateM.Result.ok PUnit.unit) (h s)

variable {p : EStateM ε σ α} {q : EStateM ε τ α}

theorem bind {k : α → EStateM ε σ β} {k' : α → EStateM ε τ β} (hp : Projects f p q)
    (hk : ∀ a, Projects f (k a) (k' a)) : Projects f (p >>= k) (q >>= k') := by
  intro s
  have hq := hp s
  cases hs : p s with
  | ok a s₁ =>
    rw [hs] at hq
    rw [bind_ok hs, bind_ok hq.symm]
    exact hk a s₁
  | error e s₁ =>
    rw [hs] at hq
    rw [bind_error hs, bind_error hq.symm]
    rfl

/-- The rest may read all of the state, where `q` has the part only. -/
theorem get_bind {k : σ → EStateM ε σ β} {k' : τ → EStateM ε τ β}
    (h : ∀ s, Projects f (k s) (k' (f s))) : Projects f (get >>= k) (get >>= k') :=
  fun s => h s s

theorem tryCatch {k : ε → EStateM ε σ α} {k' : ε → EStateM ε τ α} (hp : Projects f p q)
    (hk : ∀ e, Projects f (k e) (k' e)) :
    Projects f (MonadExcept.tryCatch p k) (MonadExcept.tryCatch q k') := by
  intro s
  have hq := hp s
  cases hs : p s with
  | ok a s₁ =>
    rw [hs] at hq
    rw [catch_ok hs, catch_ok hq.symm]
    rfl
  | error e s₁ =>
    rw [hs] at hq
    rw [catch_error hs, catch_error hq.symm]
    exact hk e s₁

theorem ite {c : Prop} [Decidable c] {p' : EStateM ε σ α} {q' : EStateM ε τ α}
    (hp : Projects f p q) (hp' : Projects f p' q') :
    Projects f (if c then p else p') (if c then q else q') := by
  split
  · exact hp
  · exact hp'

theorem zoom (l : Lens σ τ) (q : EStateM ε τ α) : Projects l.get (l.zoom q) q := by
  intro s
  cases hq : q (l.get s) with
  | ok a t =>
    rw [l.zoom_ok hq]
    exact congrArg (EStateM.Result.ok a) (l.get_set t s)
  | error e t =>
    rw [l.zoom_error hq]
    exact congrArg (EStateM.Result.error e) (l.get_set t s)

/-- A procedure of a component of the part. -/
theorem zoom_comp {υ : Type} (l : Lens σ τ) (k : Lens τ υ) (q : EStateM ε υ α) :
    Projects l.get ((l.comp k).zoom q) (k.zoom q) := by
  intro s
  cases hq : q (k.get (l.get s)) with
  | ok a u =>
    rw [k.zoom_ok hq, (l.comp k).zoom_ok (show q ((l.comp k).get s) = _ from hq)]
    exact congrArg (EStateM.Result.ok a) (l.get_set _ s)
  | error e u =>
    rw [k.zoom_error hq, (l.comp k).zoom_error (show q ((l.comp k).get s) = _ from hq)]
    exact congrArg (EStateM.Result.error e) (l.get_set _ s)

/-- What `q` leaves behind is what `p` leaves of the part. -/
theorem after_eq (h : Projects f p q) (s : σ) : after q (f s) = f (after p s) := by
  have hs := h s
  unfold after
  rw [← hs]
  cases p s <;> rfl

end Projects

/-- A procedure of a component moves the whole along `R` if replacing the
component by what the procedure leaves behind is a step of `R`. -/
theorem Follows.zoom {R : σ → σ → Prop} {l : Lens σ τ} {p : EStateM ε τ α}
    (h : ∀ s, R s (l.set (after p (l.get s)) s)) : Follows R (l.zoom p) := by
  intro s
  rw [Lens.after_zoom]
  exact .single (h s)

end Procedure
