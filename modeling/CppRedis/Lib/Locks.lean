import CppRedis.Lib.Procedure

/-!
# Locks

An object has mutexes, which its procedures lock while they work, and it calls code that is
not its own. `Guarded μ σ` is an object with the mutexes that the running thread holds, and
with a record: for each call of foreign code what was held then, and each mutex that was
locked by a thread that held it already, where it stays blocked for good.

* `lockGuard m p` is `p` with `m` locked, and unlocked again however `p` ends.
* `callback p` is a call of the foreign code `p`.
* `Erases p q`: `p` does to the object what `q` does. One rule for each way of composing
  procedures.
* `Unlocked`: no foreign code was called under a mutex, and none was locked twice. `Clear`
  says that, and that nothing is held. `Spoiled`: some code was called under a mutex. Both
  are `Robust`: the functions of an object that lock one mutex at a time keep them.
-/

open Procedure

/-- An object, what the running thread holds of its mutexes, and what happened to these. -/
structure Guarded (μ σ : Type) where
  object : σ
  held : List μ := []
  calls : List (List μ) := []
  relocked : List μ := []

namespace Guarded

variable {μ σ τ ε α β : Type}

/-- The object itself. -/
def inner : Lens (Guarded μ σ) σ where
  get g := g.object
  set s g := { g with object := s }
  get_set _ _ := rfl
  set_get _ := rfl

/-! ## Locking and calling -/

section Locking

variable [DecidableEq μ]

def lock (m : μ) (g : Guarded μ σ) : Guarded μ σ :=
  { g with
    held := m :: g.held
    relocked := g.relocked ++ if m ∈ g.held then [m] else [] }

/-- Several mutexes, one after the other. -/
def lockAll (ms : List μ) (g : Guarded μ σ) : Guarded μ σ :=
  ms.foldl (fun g m => g.lock m) g

/-- What was locked in a scope is unlocked where it ends. -/
def scope (p : EStateM ε (Guarded μ σ) α) : EStateM ε (Guarded μ σ) α := fun g =>
  match p g with
  | .ok a g' => .ok a { g' with held := g.held }
  | .error e g' => .error e { g' with held := g.held }

def lockGuard (m : μ) (p : EStateM ε (Guarded μ σ) α) : EStateM ε (Guarded μ σ) α :=
  scope do
    modify (lock m)
    p

end Locking

/-- A call is recorded as it is made. -/
def called (g : Guarded μ σ) : Guarded μ σ :=
  { g with calls := g.calls ++ [g.held] }

def callback (p : EStateM ε (Guarded μ σ) α) : EStateM ε (Guarded μ σ) α := do
  modify called
  p

theorem after_scope (p : EStateM ε (Guarded μ σ) α) (g : Guarded μ σ) :
    after (scope p) g = { after p g with held := g.held } := by
  unfold after scope
  cases p g <;> rfl

theorem lock_object [DecidableEq μ] (m : μ) (g : Guarded μ σ) : (g.lock m).object = g.object :=
  rfl

theorem lockAll_object [DecidableEq μ] (ms : List μ) (g : Guarded μ σ) :
    (g.lockAll ms).object = g.object := by
  induction ms generalizing g with
  | nil => rfl
  | cons m ms ih => exact ih (g.lock m)

theorem lockAll_held [DecidableEq μ] {ms : List μ} (hms : ms ≠ []) (g : Guarded μ σ) :
    (g.lockAll ms).held ≠ [] := by
  -- by induction on the mutexes, after the first of which something is held
  have hkept (ms : List μ) (g : Guarded μ σ) (hg : g.held ≠ []) : (g.lockAll ms).held ≠ [] := by
    induction ms generalizing g with
    | nil => exact hg
    | cons m ms ih => exact ih (g.lock m) (List.cons_ne_nil _ _)
  cases ms with
  | nil => exact absurd rfl hms
  | cons m ms => exact hkept ms (g.lock m) (List.cons_ne_nil _ _)

/-! ## The object alone -/

/-- What a call does to the object. -/
def forget : EStateM.Result ε (Guarded μ σ) α → EStateM.Result ε σ α
  | .ok a g => .ok a g.object
  | .error e g => .error e g.object

theorem forget_scope (p : EStateM ε (Guarded μ σ) α) (g : Guarded μ σ) :
    forget (scope p g) = forget (p g) := by
  unfold scope
  cases p g <;> rfl

/-- `p` returns and throws as `q` does, and does the same to the object. -/
def Erases (p : EStateM ε (Guarded μ σ) α) (q : EStateM ε σ α) : Prop :=
  ∀ g, forget (p g) = q g.object

theorem erases_iff {p : EStateM ε (Guarded μ σ) α} {q : EStateM ε σ α} :
    Erases p q ↔ Projects object p q := by
  have hforget (r : EStateM.Result ε (Guarded μ σ) α) : forget r = project object r := by
    cases r <;> rfl
  unfold Erases Projects
  simp only [hforget]

namespace Erases

theorem pure (a : α) : Erases (Pure.pure a : EStateM ε (Guarded μ σ) α) (Pure.pure a) :=
  erases_iff.mpr (.pure a)

theorem throw (e : ε) :
    Erases (MonadExcept.throw e : EStateM ε (Guarded μ σ) α) (MonadExcept.throw e) :=
  erases_iff.mpr (.throw e)

theorem modify {f : Guarded μ σ → Guarded μ σ} {f' : σ → σ} (h : ∀ g, (f g).object = f' g.object) :
    Erases (modify f : EStateM ε (Guarded μ σ) PUnit) (modify f') :=
  erases_iff.mpr (.modify h)

variable {p : EStateM ε (Guarded μ σ) α} {q : EStateM ε σ α}

theorem bind {f : α → EStateM ε (Guarded μ σ) β} {f' : α → EStateM ε σ β} (hp : Erases p q)
    (hf : ∀ a, Erases (f a) (f' a)) : Erases (p >>= f) (q >>= f') :=
  erases_iff.mpr ((erases_iff.mp hp).bind fun a => erases_iff.mp (hf a))

/-- The rest may read all of the state, where `q` has the object only. -/
theorem get_bind {f : Guarded μ σ → EStateM ε (Guarded μ σ) β} {f' : σ → EStateM ε σ β}
    (h : ∀ g, Erases (f g) (f' g.object)) : Erases (get >>= f) (get >>= f') :=
  erases_iff.mpr (.get_bind fun g => erases_iff.mp (h g))

theorem tryCatch {f : ε → EStateM ε (Guarded μ σ) α} {f' : ε → EStateM ε σ α} (hp : Erases p q)
    (hf : ∀ e, Erases (f e) (f' e)) :
    Erases (MonadExcept.tryCatch p f) (MonadExcept.tryCatch q f') :=
  erases_iff.mpr ((erases_iff.mp hp).tryCatch fun e => erases_iff.mp (hf e))

theorem ite {c : Prop} [Decidable c] {p' : EStateM ε (Guarded μ σ) α} {q' : EStateM ε σ α}
    (hp : Erases p q) (hp' : Erases p' q') : Erases (if c then p else p') (if c then q else q') :=
  erases_iff.mpr ((erases_iff.mp hp).ite (erases_iff.mp hp'))

/-- A procedure of a component of the object. -/
theorem zoom (l : Lens σ τ) (q : EStateM ε τ α) :
    Erases ((inner.comp l).zoom q : EStateM ε (Guarded μ σ) α) (l.zoom q) :=
  erases_iff.mpr (.zoom_comp inner l q)

theorem inner_zoom (q : EStateM ε σ α) : Erases (inner.zoom q : EStateM ε (Guarded μ σ) α) q :=
  erases_iff.mpr (.zoom inner q)

theorem scope (hp : Erases p q) : Erases (Guarded.scope p) q :=
  fun g => (forget_scope p g).trans (hp g)

theorem lockGuard [DecidableEq μ] (m : μ) (hp : Erases p q) : Erases (Guarded.lockGuard m p) q :=
  scope fun g => hp (g.lock m)

theorem callback (hp : Erases p q) : Erases (Guarded.callback p) q :=
  fun g => hp g.called

end Erases

/-! ## Calls without locks -/

/-- No foreign code was called under a mutex, and none was locked by a thread that held it. -/
structure Unlocked (g : Guarded μ σ) : Prop where
  calls : ∀ held ∈ g.calls, held = []
  relocked : g.relocked = []

/-- And the running thread holds none. -/
structure Clear (g : Guarded μ σ) : Prop extends Unlocked g where
  held : g.held = []

/-- An object that was not used yet. -/
theorem Clear.new (s : σ) : Clear (⟨s, [], [], []⟩ : Guarded μ σ) where
  calls _ h := absurd h List.not_mem_nil
  relocked := rfl
  held := rfl

/-- What the object is does not matter. -/
theorem Unlocked.set {g : Guarded μ σ} (h : g.Unlocked) (s : σ) : Unlocked (inner.set s g) :=
  ⟨h.calls, h.relocked⟩

theorem Clear.set {g : Guarded μ σ} (h : g.Clear) (s : σ) : Clear (inner.set s g) :=
  ⟨h.toUnlocked.set s, h.held⟩

theorem Clear.called {g : Guarded μ σ} (h : g.Clear) : Clear g.called where
  calls held hheld := by
    rcases List.mem_append.mp hheld with hold | hnew
    · exact h.calls held hold
    · rw [List.mem_singleton.mp hnew, h.held]
  relocked := h.relocked
  held := h.held

/-- Foreign code that is called with nothing held. -/
theorem Clear.callback {p : EStateM ε (Guarded μ σ) α} (hp : Follows (Keeping Clear) p) :
    Follows (Keeping Clear) (Guarded.callback p) :=
  .bind (.modify fun _ h => h.called) fun _ => hp

/-- A scope that starts with nothing held. -/
theorem Clear.scope {p : EStateM ε (Guarded μ σ) α} {g : Guarded μ σ} (hg : g.Clear)
    (h : (after p g).Unlocked) : Clear (after (Guarded.scope p) g) := by
  rw [after_scope]
  exact ⟨⟨h.calls, h.relocked⟩, hg.held⟩

section Locking

variable [DecidableEq μ]

theorem Unlocked.lock {g : Guarded μ σ} (h : g.Unlocked) {m : μ} (hm : m ∉ g.held) :
    Unlocked (g.lock m) := by
  refine ⟨h.calls, ?_⟩
  show g.relocked ++ (if m ∈ g.held then [m] else []) = []
  rw [if_neg hm, h.relocked]
  rfl

/-- Different mutexes of which none is held. -/
theorem Unlocked.lockAll {ms : List μ} (hms : ms.Nodup) {g : Guarded μ σ} (h : g.Unlocked)
    (hheld : ∀ m ∈ ms, m ∉ g.held) : Unlocked (g.lockAll ms) := by
  induction ms generalizing g with
  | nil => exact h
  | cons m ms ih =>
    obtain ⟨hm, hms⟩ := List.nodup_cons.mp hms
    obtain ⟨hfree, hfrees⟩ := List.forall_mem_cons.mp hheld
    refine ih hms (h.lock hfree) fun m' hm' hmem => ?_
    rcases List.mem_cons.mp hmem with rfl | hmem
    · exact hm hm'
    · exact hfrees m' hm' hmem

theorem Clear.lock {g : Guarded μ σ} (h : g.Clear) (m : μ) : Unlocked (g.lock m) := by
  refine h.toUnlocked.lock ?_
  rw [h.held]
  exact List.not_mem_nil

/-- A procedure of the object under a mutex. -/
theorem Clear.lockGuard {p : EStateM ε (Guarded μ σ) α} (hp : Follows (Keeping Unlocked) p) (m : μ) :
    Follows (Keeping Clear) (Guarded.lockGuard m p) := by
  refine .of_keeping fun g hg => hg.scope ?_
  rw [after_modify_bind]
  exact hp.keeping (hg.lock m)

end Locking

/-! ## Calls under a lock -/

/-- Foreign code was called under a mutex. -/
def Spoiled (g : Guarded μ σ) : Prop :=
  ∃ held ∈ g.calls, held ≠ []

theorem Spoiled.not_unlocked {g : Guarded μ σ} (h : g.Spoiled) : ¬ g.Unlocked := by
  obtain ⟨held, hheld, hne⟩ := h
  exact fun hg => hne (hg.calls held hheld)

theorem Spoiled.set {g : Guarded μ σ} (h : g.Spoiled) (s : σ) : Spoiled (inner.set s g) :=
  h

theorem Spoiled.called {g : Guarded μ σ} (h : g.Spoiled) : Spoiled g.called := by
  obtain ⟨held, hheld, hne⟩ := h
  exact ⟨held, List.mem_append_left _ hheld, hne⟩

/-- A call that is made under a mutex. -/
theorem spoiled_called {g : Guarded μ σ} (h : g.held ≠ []) : Spoiled g.called :=
  ⟨g.held, List.mem_append_right _ (List.mem_singleton.mpr rfl), h⟩

theorem Spoiled.of_scope {p : EStateM ε (Guarded μ σ) α} {g : Guarded μ σ}
    (h : Spoiled (after p g)) : Spoiled (after (scope p) g) := by
  rw [after_scope]
  exact h

/-- Nothing that happens later changes it. -/
theorem Spoiled.lockGuard [DecidableEq μ] {p : EStateM ε (Guarded μ σ) α}
    (hp : Follows (Keeping Spoiled) p) (m : μ) : Follows (Keeping Spoiled) (Guarded.lockGuard m p) :=
  .of_keeping fun g hg => .of_scope (hp.keeping (s := g.lock m) hg)

theorem Spoiled.callback {p : EStateM ε (Guarded μ σ) α} (hp : Follows (Keeping Spoiled) p) :
    Follows (Keeping Spoiled) (Guarded.callback p) :=
  .bind (.modify fun _ h => h.called) fun _ => hp

/-- Foreign code that is called under a mutex. -/
theorem callback_spoiled {p : EStateM ε (Guarded μ σ) α} (hp : Follows (Keeping Spoiled) p)
    {g : Guarded μ σ} (h : g.held ≠ []) : Spoiled (after (callback p) g) :=
  hp.keeping (spoiled_called h)

/-! ## Both -/

/-- Kept by every change of the object, by every call that is recorded, and by every procedure
of the object under a mutex. -/
structure Robust [DecidableEq μ] (I : Guarded μ σ → Prop) : Prop where
  set : ∀ {g}, I g → ∀ s, I (inner.set s g)
  called : ∀ {g}, I g → I g.called
  lockGuard : ∀ {ε α : Type} (m : μ) (q : EStateM ε σ α),
    Follows (Keeping I) (lockGuard m (inner.zoom q))

theorem Clear.robust [DecidableEq μ] : Robust (Clear : Guarded μ σ → Prop) where
  set h s := h.set s
  called h := h.called
  lockGuard m _ := Clear.lockGuard (.zoom fun _ h => h.set _) m

theorem Spoiled.robust [DecidableEq μ] : Robust (Spoiled : Guarded μ σ → Prop) where
  set h s := h.set s
  called h := h.called
  lockGuard m _ := Spoiled.lockGuard (.zoom fun _ h => h.set _) m

end Guarded
