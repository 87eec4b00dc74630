import Mathlib.Logic.Relation

/-!
# Machines

A machine takes steps on a state, one for each event; an event may be impossible
in a state. A run is a list of events.

* `Along C s events`: each event meets `C` in the state in which it happens.
  `Possible` is `Along enabled`.
* `Always I s events`: `I` holds in every state of the run, the first one included.
* `Possible.invariant`: an invariant of the steps holds at the end of every run.
  `Possible.invariant_of_steps` is the same where a step is made of smaller ones.
* `run_append`, `possible_append`: a run is made of its parts.
* `always_iff_along`: where a step keeps `I` if and only if it meets `C`, a run
  keeps `I` throughout if and only if each of its steps meets `C`.
* `always_append`: `I` holds throughout a run if it holds throughout its parts.
* `Possible.always_of_along`: where a step that meets `C` keeps something that implies
  `I`, a run of such steps keeps `I` throughout. `always_iff_along_of_kept` is the same
  where any other step ends without `I`.
* `Possible.seen`: where each event is, seen through a function, a run of another machine,
  so is every run, and `I` holds throughout the one if and only if it does throughout the other.
-/

/-- A state machine: which events can happen in a state, and what they do. -/
structure Machine (σ ε : Type) where
  enabled : σ → ε → Prop
  step : σ → ε → σ

namespace Machine

variable {σ ε : Type} (m : Machine σ ε)

/-- The state after a list of events. -/
def run (s : σ) (events : List ε) : σ :=
  events.foldl m.step s

/-- Each event meets `C` in the state in which it happens. -/
def Along (C : σ → ε → Prop) : σ → List ε → Prop
  | _, [] => True
  | s, e :: events => C s e ∧ Along C (m.step s e) events

/-- The events can happen one after the other. -/
def Possible : σ → List ε → Prop :=
  m.Along m.enabled

/-- `I` holds in every state of the run. -/
def Always (I : σ → Prop) : σ → List ε → Prop
  | s, [] => I s
  | s, e :: events => I s ∧ Always I (m.step s e) events

instance decidableAlong (C : σ → ε → Prop) [∀ s e, Decidable (C s e)] :
    (s : σ) → (events : List ε) → Decidable (m.Along C s events)
  | _, [] => .isTrue trivial
  | s, e :: events =>
    have := decidableAlong C (m.step s e) events
    inferInstanceAs (Decidable (_ ∧ _))

instance [∀ s e, Decidable (m.enabled s e)] (s : σ) (events : List ε) :
    Decidable (m.Possible s events) :=
  inferInstanceAs (Decidable (m.Along m.enabled s events))

instance decidableAlways (I : σ → Prop) [DecidablePred I] :
    (s : σ) → (events : List ε) → Decidable (m.Always I s events)
  | s, [] => inferInstanceAs (Decidable (I s))
  | s, e :: events =>
    have := decidableAlways I (m.step s e) events
    inferInstanceAs (Decidable (_ ∧ _))

/-- Two machines that take the same events, side by side. The first one decides which events can
happen. -/
def beside {τ : Type} (n : Machine τ ε) : Machine (σ × τ) ε where
  enabled s := m.enabled s.1
  step s e := (m.step s.1 e, n.step s.2 e)

variable {m}

/-- Where every event can always happen, every run is possible. -/
theorem possible_of_enabled (h : ∀ s e, m.enabled s e) (s : σ) (events : List ε) :
    m.Possible s events := by
  induction events generalizing s with
  | nil => trivial
  | cons e events ih => exact ⟨h s e, ih _⟩

/-- The invariant rule for runs of events of one kind: what holds at first and is kept by
every step of this kind that can happen holds at the end. By induction on the events. -/
theorem Possible.invariant_of_kind {I : σ → Prop} {K : ε → Prop}
    (hstep : ∀ s e, I s → K e → m.enabled s e → I (m.step s e)) {s : σ} {events : List ε}
    (h : m.Possible s events) (hkind : ∀ e ∈ events, K e) (hs : I s) : I (m.run s events) := by
  induction events generalizing s with
  | nil => exact hs
  | cons e events ih =>
    obtain ⟨he, hrest⟩ := List.forall_mem_cons.mp hkind
    exact ih h.2 hrest (hstep s e hs he h.1)

/-- The invariant rule for events of any kind. -/
theorem Possible.invariant {I : σ → Prop}
    (hstep : ∀ s e, I s → m.enabled s e → I (m.step s e)) {s : σ} {events : List ε}
    (h : m.Possible s events) (hs : I s) : I (m.run s events) :=
  h.invariant_of_kind (K := fun _ => True) (fun s e hI _ => hstep s e hI) (fun _ _ => trivial) hs

/-- The invariant rule where an event is made of smaller steps, each of which keeps `I`. -/
theorem Possible.invariant_of_steps {I : σ → Prop} {R : σ → σ → Prop}
    (hR : ∀ s s', R s s' → I s → I s')
    (hsteps : ∀ s e, m.enabled s e → Relation.ReflTransGen R s (m.step s e)) {s : σ}
    {events : List ε} (h : m.Possible s events) (hs : I s) : I (m.run s events) := by
  refine h.invariant (fun s e hI he => ?_) hs
  have hr := hsteps s e he
  generalize m.step s e = s' at hr
  induction hr with
  | refl => exact hI
  | tail _ hstep ih => exact hR _ _ hstep ih

/-- A run of two parts. -/
theorem run_append (s : σ) (events events' : List ε) :
    m.run s (events ++ events') = m.run (m.run s events) events' :=
  List.foldl_append

/-- A run can happen if its first part can, and then its second one. -/
theorem possible_append {s : σ} {events events' : List ε} :
    m.Possible s (events ++ events') ↔ m.Possible s events ∧ m.Possible (m.run s events) events' := by
  induction events generalizing s with
  | nil => exact ⟨fun h => ⟨trivial, h⟩, fun h => h.2⟩
  | cons e events ih =>
    have hrest := @ih (m.step s e)
    constructor
    · rintro ⟨he, h⟩
      exact ⟨⟨he, (hrest.mp h).1⟩, (hrest.mp h).2⟩
    · rintro ⟨⟨he, h⟩, h'⟩
      exact ⟨he, hrest.mpr ⟨h, h'⟩⟩

/-- What holds in every state holds in the first one. -/
theorem Always.first {I : σ → Prop} {s : σ} {events : List ε} (h : m.Always I s events) : I s := by
  cases events with
  | nil => exact h
  | cons e events => exact h.1

/-- By induction on the first part. -/
theorem always_append {I : σ → Prop} {s : σ} {events events' : List ε} :
    m.Always I s (events ++ events') ↔
      m.Always I s events ∧ m.Always I (m.run s events) events' := by
  induction events generalizing s with
  | nil => exact ⟨fun h => ⟨h.first, h⟩, fun h => h.2⟩
  | cons e events ih =>
    have hrest := @ih (m.step s e)
    constructor
    · rintro ⟨hs, h⟩
      exact ⟨⟨hs, (hrest.mp h).1⟩, (hrest.mp h).2⟩
    · rintro ⟨⟨hs, h⟩, h'⟩
      exact ⟨hs, hrest.mpr ⟨h, h'⟩⟩

/-- A run keeps `I` throughout if and only if each of its steps meets `C`, where
`K` is an invariant of all runs, and in a state with `K` and `I` a step keeps `I`
if and only if it meets `C`. -/
theorem always_iff_along {I K : σ → Prop} {C : σ → ε → Prop}
    (hK : ∀ s e, K s → m.enabled s e → K (m.step s e))
    (hI : ∀ s e, K s → I s → m.enabled s e → (I (m.step s e) ↔ C s e)) {s : σ} {events : List ε}
    (h : m.Possible s events) (hsK : K s) (hsI : I s) :
    m.Always I s events ↔ m.Along C s events := by
  induction events generalizing s with
  | nil => exact ⟨fun _ => trivial, fun _ => hsI⟩
  | cons e events ih =>
    have hkeeps := hI s e hsK hsI h.1
    have hrest := fun hstep => ih h.2 (hK s e hsK h.1) hstep
    constructor
    · rintro ⟨-, halways⟩
      have hnext := halways.first
      exact ⟨hkeeps.mp hnext, (hrest hnext).mp halways⟩
    · rintro ⟨hmeets, halong⟩
      have hnext := hkeeps.mpr hmeets
      exact ⟨hsI, (hrest hnext).mpr halong⟩

/-- A run whose steps all meet `C` keeps `I` throughout, where `K` implies `I` and a step
that meets `C` keeps `K`. -/
theorem Possible.always_of_along {I K : σ → Prop} {C : σ → ε → Prop} (hI : ∀ s, K s → I s)
    (hkept : ∀ s e, K s → m.enabled s e → C s e → K (m.step s e)) {s : σ} {events : List ε}
    (h : m.Possible s events) (halong : m.Along C s events) (hs : K s) : m.Always I s events := by
  induction events generalizing s with
  | nil => exact hI s hs
  | cons e events ih => exact ⟨hI s hs, ih h.2 halong.2 (hkept s e hs h.1 halong.1)⟩

/-- A run keeps `I` throughout if and only if each of its steps meets `C`, where `K`
implies `I`, a step that meets `C` keeps `K`, and any other step ends without `I`. -/
theorem always_iff_along_of_kept {I K : σ → Prop} {C : σ → ε → Prop} (hI : ∀ s, K s → I s)
    (hkept : ∀ s e, K s → m.enabled s e → C s e → K (m.step s e))
    (hbroken : ∀ s e, K s → m.enabled s e → I (m.step s e) → C s e) {s : σ} {events : List ε}
    (h : m.Possible s events) (hs : K s) : m.Always I s events ↔ m.Along C s events := by
  refine ⟨fun halways => ?_, fun halong => h.always_of_along hI hkept halong hs⟩
  induction events generalizing s with
  | nil => trivial
  | cons e events ih =>
    have hmeets := hbroken s e hs h.1 halways.2.first
    exact ⟨hmeets, ih h.2 (hkept s e hs h.1 hmeets) halways.2⟩

/-- Where each event is, seen through `f`, a run of `n`, which keeps `I` throughout if the event
does, a run is one of `n` too, and keeps `I` throughout if and only if that one does. By
induction on the events; `K` is an invariant of the runs of `n`. -/
theorem Possible.seen {τ ζ : Type} {n : Machine τ ζ} {f : σ → τ} {I K : τ → Prop}
    (hK : ∀ t e, K t → n.enabled t e → K (n.step t e))
    (hsteps : ∀ s e, K (f s) → m.enabled s e → ∃ run, n.Possible (f s) run ∧
      n.run (f s) run = f (m.step s e) ∧ (I (f s) → I (f (m.step s e)) → n.Always I (f s) run))
    {s : σ} {events : List ε} (h : m.Possible s events) (hs : K (f s)) :
    ∃ run, n.Possible (f s) run ∧ n.run (f s) run = f (m.run s events) ∧
      (m.Always (fun s => I (f s)) s events ↔ n.Always I (f s) run) := by
  induction events generalizing s with
  | nil => exact ⟨[], trivial, rfl, Iff.rfl⟩
  | cons e events ih =>
    obtain ⟨first, hfirst, hreached, hkept⟩ := hsteps s e hs h.1
    -- the run of the rest starts where that of the first event ends
    have hs₁ := hfirst.invariant hK hs
    rw [hreached] at hs₁
    obtain ⟨rest, hrest, hend, hiff⟩ := ih h.2 hs₁
    rw [← hreached] at hrest hend hiff
    refine ⟨first ++ rest, possible_append.mpr ⟨hfirst, hrest⟩, (run_append _ _ _).trans hend, ?_⟩
    rw [always_append, ← hiff]
    constructor
    · rintro ⟨hI, halways⟩
      exact ⟨hkept hI halways.first, halways⟩
    · rintro ⟨halways, hrest⟩
      exact ⟨halways.first, hrest⟩

end Machine
