import Mathlib.Tactic.Common

/-!
# Incremental consumers

A consumer reads items from the front of a list, keeps what it could not use
yet, and is called again when more items have arrived. This module has the two
rules that make such a program independent of how its input is cut:

* `Resumable feed ready s`: one call of `feed`. What a call that stops for lack
  of input leaves behind is what is needed to go on (`resume`), and a call that
  is finished or failed does not look at later items (`finish`, `throw`).
* `Stepping step s`: one call of a `step` that returns whether to go on. `run`
  is the loop `while (step())`; `run_append` lifts the rule of one turn to the
  loop, and `Resumable.andThen` combines a step with what follows it.

`run` is total: `weight` bounds the turns that read nothing, so the fuel that
`run` starts with is never used up (`run_eq` is its defining equation without
fuel).
-/

namespace Consumer

variable {σ α ε : Type}

/-- What a call leaves behind: the state, the items not read, and what it
returned or threw. -/
structure Turn (σ α ε ρ : Type) where
  state : σ
  rest : List α
  result : Except ε ρ

/-- The same call seen by the owner of the state. -/
def Turn.map {τ ρ : Type} (f : σ → τ) (t : Turn σ α ε ρ) : Turn τ α ε ρ :=
  ⟨f t.state, t.rest, t.result⟩

/-! ## One call -/

/-- A call of `feed` in the state `s` may be resumed wherever the input is cut.
`ready` tells whether a state is finished. -/
structure Resumable (feed : σ → List α → Turn σ α ε Unit) (ready : σ → Bool) (s : σ) : Prop where
  shrink : ∀ x, (feed s x).rest.length ≤ x.length
  throw : ∀ {x s' r e}, feed s x = ⟨s', r, .error e⟩ →
    ∀ y, feed s (x ++ y) = ⟨s', r ++ y, .error e⟩
  finish : ∀ {x s' r}, feed s x = ⟨s', r, .ok ()⟩ → ready s' = true →
    ∀ y, feed s (x ++ y) = ⟨s', r ++ y, .ok ()⟩
  resume : ∀ {x s' r}, feed s x = ⟨s', r, .ok ()⟩ → ready s' = false →
    ∀ y, feed s (x ++ y) = feed s' (r ++ y)

/-- A finished state that reads nothing more. -/
theorem Resumable.ofReady {feed : σ → List α → Turn σ α ε Unit} {ready : σ → Bool} {s : σ}
    (h : ∀ x, feed s x = ⟨s, x, .ok ()⟩) (hs : ready s = true) : Resumable feed ready s := by
  constructor
  · intro x
    simp [h]
  · intro x s' r e hx
    rw [h] at hx
    cases hx
  · intro x s' r hx _ y
    rw [h] at hx
    cases hx
    exact h _
  · intro x s' r hx hr
    rw [h] at hx
    cases hx
    rw [hs] at hr
    exact Bool.noConfusion hr

/-- A call through a wrapper that adds nothing of its own. -/
theorem Resumable.wrap {τ : Type} {feed : σ → List α → Turn σ α ε Unit} {ready : σ → Bool}
    {feed' : τ → List α → Turn τ α ε Unit} {ready' : τ → Bool} {s : σ} {t : τ} (f : σ → τ)
    (h : Resumable feed ready s) (hfeed : ∀ x, feed' t x = (feed s x).map f)
    (hready : ∀ s', ready' (f s') = ready s')
    (hnext : ∀ s' x, ready s' = false → feed' (f s') x = (feed s' x).map f) :
    Resumable feed' ready' t := by
  have inv : ∀ {x t' r o}, feed' t x = ⟨t', r, o⟩ → ∃ s', feed s x = ⟨s', r, o⟩ ∧ t' = f s' := by
    intro x t' r o hx
    rw [hfeed] at hx
    cases hx
    exact ⟨_, rfl, rfl⟩
  constructor
  · intro x
    rw [hfeed]
    exact h.shrink x
  · intro x t' r e hx y
    obtain ⟨s', hs, rfl⟩ := inv hx
    rw [hfeed, h.throw hs]
    rfl
  · intro x t' r hx hr y
    obtain ⟨s', hs, rfl⟩ := inv hx
    rw [hfeed, h.finish hs (hready s' ▸ hr)]
    rfl
  · intro x t' r hx hr y
    obtain ⟨s', hs, rfl⟩ := inv hx
    rw [hready] at hr
    rw [hfeed, h.resume hs hr, hnext s' _ hr]

/-- A call for each chunk of the input; what one call left is in front of the next chunk. -/
def feedChunks (feed : σ → List α → Turn σ α ε Unit) : σ → List α → List (List α) →
    Turn σ α ε Unit
  | s, x, [] => ⟨s, x, .ok ()⟩
  | s, x, chunk :: chunks =>
    match feed s (x ++ chunk) with
    | ⟨s, r, .error e⟩ => ⟨s, r, .error e⟩
    | ⟨s, r, .ok ()⟩ => feedChunks feed s r chunks

/-- Where the input is cut does not matter, but for what is left after a fault. -/
theorem feedChunks_flatten {feed : σ → List α → Turn σ α ε Unit} {ready : σ → Bool}
    (hresume : ∀ s, Resumable feed ready s)
    (hready : ∀ s, ready s = true → ∀ x, feed s x = ⟨s, x, .ok ()⟩) (chunks : List (List α)) {s : σ}
    {x : List α} (hs : feed s x = ⟨s, x, .ok ()⟩) :
    (feedChunks feed s x chunks).state = (feed s (x ++ chunks.flatten)).state ∧
      (feedChunks feed s x chunks).result = (feed s (x ++ chunks.flatten)).result ∧
      ((feedChunks feed s x chunks).result = .ok () →
        (feedChunks feed s x chunks).rest = (feed s (x ++ chunks.flatten)).rest) := by
  induction chunks generalizing s x with
  | nil =>
    rw [List.flatten_nil, List.append_nil, hs]
    exact ⟨rfl, rfl, fun _ => rfl⟩
  | cons chunk chunks ih =>
    rw [List.flatten_cons, ← List.append_assoc]
    rcases hfeed : feed s (x ++ chunk) with ⟨s', r, e | ⟨⟩⟩
    · simp only [feedChunks, hfeed, (hresume s).throw hfeed, true_and]
      exact fun h => nomatch h
    · have hsettled : feed s' r = ⟨s', r, .ok ()⟩ ∧
          feed s (x ++ chunk ++ chunks.flatten) = feed s' (r ++ chunks.flatten) := by
        cases hr : ready s' with
        | true => exact ⟨hready s' hr r, by rw [(hresume s).finish hfeed hr, hready s' hr]⟩
        | false =>
          have hagain := (hresume s).resume hfeed hr []
          rw [List.append_nil, List.append_nil, hfeed] at hagain
          exact ⟨hagain.symm, (hresume s).resume hfeed hr _⟩
      simp only [feedChunks, hfeed, hsettled.2]
      exact ih hsettled.1

/-! ## One step that tells whether to go on -/

/-- A call of `step` in the state `s` may be resumed wherever the input is cut:
it goes on, waits for input or throws, and only waiting depends on what follows. -/
structure Stepping (step : σ → List α → Turn σ α ε Bool) (s : σ) : Prop where
  shrink : ∀ x, (step s x).rest.length ≤ x.length
  throw : ∀ {x s' r e}, step s x = ⟨s', r, .error e⟩ →
    ∀ y, step s (x ++ y) = ⟨s', r ++ y, .error e⟩
  again : ∀ {x s' r}, step s x = ⟨s', r, .ok true⟩ →
    ∀ y, step s (x ++ y) = ⟨s', r ++ y, .ok true⟩
  wait : ∀ {x s' r}, step s x = ⟨s', r, .ok false⟩ →
    ∀ y, step s (x ++ y) = step s' (r ++ y)

/-- A step that reads nothing and goes on. -/
theorem Stepping.ofTrue {step : σ → List α → Turn σ α ε Bool} {s : σ}
    (h : ∀ x, step s x = ⟨s, x, .ok true⟩) : Stepping step s := by
  constructor
  · intro x
    simp [h]
  · intro x s' r e hx
    rw [h] at hx
    cases hx
  · intro x s' r hx y
    rw [h] at hx
    cases hx
    exact h _
  · intro x s' r hx
    rw [h] at hx
    cases hx

/-- `if (!first()) return; second();` -/
def andThen (first : σ → List α → Turn σ α ε Bool) (second : σ → List α → Turn σ α ε Unit)
    (s : σ) (x : List α) : Turn σ α ε Unit :=
  match first s x with
  | ⟨s, r, .error e⟩ => ⟨s, r, .error e⟩
  | ⟨s, r, .ok false⟩ => ⟨s, r, .ok ()⟩
  | ⟨s, r, .ok true⟩ => second s r

/-- A step and what follows it, resumable together: `known` holds once the step
has gone on, and then the step goes on at once, so resuming the pair resumes
what follows. -/
theorem Resumable.andThen {feed second : σ → List α → Turn σ α ε Unit}
    {first : σ → List α → Turn σ α ε Bool} {ready : σ → Bool} {s : σ} (known : σ → Prop)
    (hfeed : ∀ s, ready s = false → ∀ x, feed s x = Consumer.andThen first second s x)
    (hs : ready s = false) (hfirst : Stepping first s)
    (hwait : ∀ {x s' r}, first s x = ⟨s', r, .ok false⟩ → ready s' = false)
    (hagain : ∀ {x s' r}, first s x = ⟨s', r, .ok true⟩ → known s')
    (hknown : ∀ s', known s' → ∀ x, first s' x = ⟨s', x, .ok true⟩)
    (hkeep : ∀ s', known s' → ∀ x, known (second s' x).state)
    (hsecond : ∀ s', known s' → Resumable second ready s') :
    Resumable feed ready s := by
  constructor
  · intro x
    have hx := hfirst.shrink x
    rw [hfeed s hs]
    rcases hf : first s x with ⟨s', r, e | b⟩
    · simpa only [Consumer.andThen, hf] using hx
    · cases b with
      | false => simpa only [Consumer.andThen, hf] using hx
      | true =>
        rw [hf] at hx
        simp only [Consumer.andThen, hf]
        exact Nat.le_trans ((hsecond s' (hagain hf)).shrink r) hx
  · intro x s₂ r₂ e h y
    rw [hfeed s hs] at h ⊢
    rcases hf : first s x with ⟨s', r, e' | b⟩
    · simp only [Consumer.andThen, hf] at h
      cases h
      simp only [Consumer.andThen, hfirst.throw hf]
    · cases b with
      | false => simp [Consumer.andThen, hf] at h
      | true =>
        simp only [Consumer.andThen, hf] at h
        simp only [Consumer.andThen, hfirst.again hf]
        exact (hsecond s' (hagain hf)).throw h y
  · intro x s₂ r₂ h hr y
    rw [hfeed s hs] at h ⊢
    rcases hf : first s x with ⟨s', r, e' | b⟩
    · simp [Consumer.andThen, hf] at h
    · cases b with
      | false =>
        simp only [Consumer.andThen, hf] at h
        cases h
        rw [hwait hf] at hr
        exact Bool.noConfusion hr
      | true =>
        simp only [Consumer.andThen, hf] at h
        simp only [Consumer.andThen, hfirst.again hf]
        exact (hsecond s' (hagain hf)).finish h hr y
  · intro x s₂ r₂ h hr y
    rw [hfeed s hs] at h
    rw [hfeed s hs, hfeed s₂ hr]
    rcases hf : first s x with ⟨s', r, e' | b⟩
    · simp [Consumer.andThen, hf] at h
    · cases b with
      | false =>
        simp only [Consumer.andThen, hf] at h
        cases h
        simp only [Consumer.andThen, hfirst.wait hf]
      | true =>
        -- the step is over, so the pair resumes as its second part does
        have hk := hagain hf
        simp only [Consumer.andThen, hf] at h
        have hk₂ : known s₂ := by
          have := hkeep s' hk r
          rwa [h] at this
        simp only [Consumer.andThen, hfirst.again hf, hknown s₂ hk₂]
        exact (hsecond s' hk).resume h hr y

/-! ## A loop of calls -/

/-- The loop `while (step())`, with fuel: `step` returns whether to go on. -/
def runFuel (step : σ → List α → Turn σ α ε Bool) : Nat → σ → List α → Turn σ α ε Unit
  | 0, s, x => ⟨s, x, .ok ()⟩
  | n + 1, s, x =>
    match step s x with
    | ⟨s', r, .ok true⟩ => runFuel step n s' r
    | ⟨s', r, .ok false⟩ => ⟨s', r, .ok ()⟩
    | ⟨s', r, .error e⟩ => ⟨s', r, .error e⟩

/-- The loop `while (step())`. -/
def run (step : σ → List α → Turn σ α ε Bool) (weight : σ → Nat) (s : σ) (x : List α) :
    Turn σ α ε Unit :=
  runFuel step (weight s + x.length + 1) s x

/-- A turn that goes on has read an item or lost weight. -/
def Progress (step : σ → List α → Turn σ α ε Bool) (weight : σ → Nat) : Prop :=
  ∀ s x s' r, step s x = ⟨s', r, .ok true⟩ → weight s' + r.length < weight s + x.length

section Loop

variable {step : σ → List α → Turn σ α ε Bool} {weight : σ → Nat}

/-- Enough fuel is as good as any more fuel. -/
theorem runFuel_eq (hp : Progress step weight) :
    ∀ (n m : Nat) (s : σ) (x : List α), weight s + x.length < n → weight s + x.length < m →
      runFuel step n s x = runFuel step m s x := by
  intro n
  induction n with
  | zero => intro m s x hn; omega
  | succ n ih =>
    intro m s x hn hm
    cases m with
    | zero => omega
    | succ m =>
      rcases hs : step s x with ⟨s', r, e | b⟩
      · simp only [runFuel, hs]
      · cases b with
        | false => simp only [runFuel, hs]
        | true =>
          have := hp s x s' r hs
          simp only [runFuel, hs]
          exact ih m s' r (by omega) (by omega)

/-- The defining equation of the loop. -/
theorem run_eq (hp : Progress step weight) (s : σ) (x : List α) :
    run step weight s x =
      match step s x with
      | ⟨s', r, .ok true⟩ => run step weight s' r
      | ⟨s', r, .ok false⟩ => ⟨s', r, .ok ()⟩
      | ⟨s', r, .error e⟩ => ⟨s', r, .error e⟩ := by
  rcases hs : step s x with ⟨s', r, e | b⟩
  · simp only [run, runFuel, hs]
  · cases b with
    | false => simp only [run, runFuel, hs]
    | true =>
      have := hp s x s' r hs
      simp only [run, runFuel, hs]
      exact runFuel_eq hp _ (weight s' + r.length + 1) s' r (by omega) (by omega)

/-- The induction of the loop: what holds after a turn that ends the loop, and
is passed back over a turn that goes on, holds of every run. -/
theorem run_induction (hp : Progress step weight) {P : σ → List α → Turn σ α ε Unit → Prop}
    (stop : ∀ {s x s' r}, step s x = ⟨s', r, .ok false⟩ → P s x ⟨s', r, .ok ()⟩)
    (fail : ∀ {s x s' r e}, step s x = ⟨s', r, .error e⟩ → P s x ⟨s', r, .error e⟩)
    (next : ∀ {s x s' r t}, step s x = ⟨s', r, .ok true⟩ → P s' r t → P s x t) :
    ∀ (s : σ) (x : List α), P s x (run step weight s x) := by
  intro s x
  induction hn : weight s + x.length using Nat.strongRecOn generalizing s x with
  | ind n ih =>
    rw [run_eq hp]
    rcases hs : step s x with ⟨s', r, e | b⟩
    · exact fail hs
    · cases b with
      | false => exact stop hs
      | true => exact next hs (ih _ (hn ▸ hp s x s' r hs) s' r rfl)

/-- Two loops agree where their turns agree along the run. -/
theorem run_congr {step' : σ → List α → Turn σ α ε Bool} (hp : Progress step weight)
    (hp' : Progress step' weight) (P : σ → List α → Prop)
    (agree : ∀ s x, P s x → step s x = step' s x)
    (keep : ∀ {s x s' r}, P s x → step s x = ⟨s', r, .ok true⟩ → P s' r) :
    ∀ (s : σ) (x : List α), P s x → run step weight s x = run step' weight s x := by
  intro s x
  induction hn : weight s + x.length using Nat.strongRecOn generalizing s x with
  | ind n ih =>
    intro h
    rw [run_eq hp, run_eq hp', ← agree s x h]
    rcases hs : step s x with ⟨s', r, e | b⟩
    · rfl
    · cases b with
      | false => rfl
      | true => exact ih _ (hn ▸ hp s x s' r hs) s' r rfl (keep h hs)

/-- A change of the state that every turn carries along is carried along by the loop. -/
theorem run_map (hp : Progress step weight) (f : σ → σ)
    (hf : ∀ s x, step (f s) x = (step s x).map f) (s : σ) (x : List α) :
    run step weight (f s) x = (run step weight s x).map f := by
  refine run_induction hp (P := fun s x t => run step weight (f s) x = t.map f) ?_ ?_ ?_ s x
  · intro s x s' r hstep
    rw [run_eq hp, hf, hstep]
    rfl
  · intro s x s' r e hstep
    rw [run_eq hp, hf, hstep]
    rfl
  · intro s x s' r t hstep ih
    rw [run_eq hp, hf, hstep]
    exact ih

/-- A loop that fails does not look at later items. -/
theorem run_throw (hp : Progress step weight) (hs : ∀ s, Stepping step s) {s s' : σ} {x r : List α} {e : ε}
    (h : run step weight s x = ⟨s', r, .error e⟩) (y : List α) :
    run step weight s (x ++ y) = ⟨s', r ++ y, .error e⟩ := by
  suffices ∀ s x, ∀ s' r e, run step weight s x = ⟨s', r, .error e⟩ →
      run step weight s (x ++ y) = ⟨s', r ++ y, .error e⟩ from this s x s' r e h
  refine run_induction hp (P := fun s x t => ∀ s' r e, t = ⟨s', r, .error e⟩ →
    run step weight s (x ++ y) = ⟨s', r ++ y, .error e⟩) ?_ ?_ ?_
  · intro s x s' r _ s₁ r₁ e₁ ht
    cases ht
  · intro s x s' r e hstep s₁ r₁ e₁ ht
    cases ht
    rw [run_eq hp, (hs s).throw hstep]
  · intro s x s' r t hstep ih s₁ r₁ e₁ ht
    rw [run_eq hp, (hs s).again hstep]
    exact ih s₁ r₁ e₁ ht

/-- A loop that stops for lack of input goes on from where it stopped. -/
theorem run_append (hp : Progress step weight) (hs : ∀ s, Stepping step s) {s s' : σ} {x r : List α}
    (h : run step weight s x = ⟨s', r, .ok ()⟩) (y : List α) :
    run step weight s (x ++ y) = run step weight s' (r ++ y) := by
  suffices ∀ s x, ∀ s' r, run step weight s x = ⟨s', r, .ok ()⟩ →
      run step weight s (x ++ y) = run step weight s' (r ++ y) from this s x s' r h
  refine run_induction hp (P := fun s x t => ∀ s' r, t = ⟨s', r, .ok ()⟩ →
    run step weight s (x ++ y) = run step weight s' (r ++ y)) ?_ ?_ ?_
  · intro s x s' r hstep s₁ r₁ ht
    cases ht
    rw [run_eq hp s, run_eq hp s', (hs s).wait hstep]
  · intro s x s' r e _ s₁ r₁ ht
    cases ht
  · intro s x s' r t hstep ih s₁ r₁ ht
    rw [run_eq hp, (hs s).again hstep]
    exact ih s₁ r₁ ht

theorem run_shrink (hp : Progress step weight) (hs : ∀ s, Stepping step s) (s : σ) (x : List α) :
    (run step weight s x).rest.length ≤ x.length := by
  refine run_induction hp (P := fun _ x t => t.rest.length ≤ x.length) ?_ ?_ ?_ s x
  · intro s x s' r hstep
    have := (hs s).shrink x
    rwa [hstep] at this
  · intro s x s' r e hstep
    have := (hs s).shrink x
    rwa [hstep] at this
  · intro s x s' r t hstep ih
    have := (hs s).shrink x
    rw [hstep] at this
    exact Nat.le_trans ih this

/-- A loop that stops for good once the state is finished is itself a resumable call. -/
theorem Resumable.ofRun {ready : σ → Bool} (hp : Progress step weight)
    (hs : ∀ s, Stepping step s)
    (hready : ∀ s, ready s = true → ∀ x, step s x = ⟨s, x, .ok false⟩) (s : σ) :
    Resumable (run step weight) ready s := by
  constructor
  · exact run_shrink hp hs s
  · intro x s' r e h y
    exact run_throw hp hs h y
  · intro x s' r h hr y
    rw [run_append hp hs h, run_eq hp, hready s' hr]
  · intro x s' r h _ y
    exact run_append hp hs h y

end Loop

end Consumer
