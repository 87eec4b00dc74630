import CppRedis.Lib.Procedure

/-!
# Loops that try again

A loop that makes attempts as long as its state asks for one, with a pause before each. What the
outside does during a turn is a term of a type `τ`; the loop runs over a list of them, and its value
tells whether it was left.

* `made` are the attempts that a run of the loop makes.
* `length_made_le`, `loop_left`: a measure that each turn lowers bounds the attempts, and the loop is
  left by the time it is used up.
* `loop_invariant`, `loop_log`: what the loop keeps, and what it adds to a log, turn by turn.
-/

namespace Procedure

/-- What a loop asks, and the two parts of its body. -/
structure Retry (ε σ τ : Type) where
  again : σ → Bool
  pause : τ → EStateM ε σ Unit
  attempt : τ → EStateM ε σ Unit

namespace Retry

variable {ε σ τ : Type} (r : Retry ε σ τ)

/-- The loop. Returns whether it was left. -/
def loop : List τ → EStateM ε σ Bool
  | [] => do
    return !r.again (← get)
  | turn :: turns => do
    if r.again (← get) then
      r.pause turn
      r.attempt turn
      loop turns
    else
      pure true

/-- An attempt that was made: the state in which the loop asked, the one in which the attempt
started, and the one that it left behind. -/
structure Made (σ τ : Type) where
  turn : τ
  asked : σ
  before : σ
  after : σ

/-- The attempts that the loop makes. An attempt that throws is the last one. -/
def made : List τ → σ → List (Made σ τ)
  | [], _ => []
  | turn :: turns, s =>
    if r.again s then
      match r.pause turn s with
      | .error _ _ => []
      | .ok _ s₁ =>
        ⟨turn, s, s₁, after (r.attempt turn) s₁⟩ ::
          match r.attempt turn s₁ with
          | .error _ _ => []
          | .ok _ s₂ => made turns s₂
    else []

/-- A turn from `s` to `s₂` that makes its attempt in `s₁`, and returns. -/
structure Turn (turn : τ) (s s₁ s₂ : σ) : Prop where
  again : r.again s = true
  pause : r.pause turn s = .ok ⟨⟩ s₁
  attempt : r.attempt turn s₁ = .ok ⟨⟩ s₂

variable {r} {turn : τ} {turns : List τ} {s s₁ s₂ : σ}

/-! ## Unfolding -/

theorem loop_again (h : r.again s = true) : r.loop (turn :: turns) s =
    (r.pause turn >>= fun _ => r.attempt turn >>= fun _ => r.loop turns) s := by
  rw [loop, get_bind, if_pos h]

theorem loop_stop (h : r.again s = false) : r.loop turns s = .ok true s := by
  cases turns with
  | nil =>
    rw [loop, get_bind, h]
    rfl
  | cons turn turns =>
    rw [loop, get_bind, if_neg (Bool.eq_false_iff.mp h)]
    rfl

theorem Turn.loop_eq (h : r.Turn turn s s₁ s₂) : r.loop (turn :: turns) s = r.loop turns s₂ := by
  rw [loop_again h.again, bind_ok h.pause, bind_ok h.attempt]

theorem made_stop (h : r.again s = false) : r.made turns s = [] := by
  cases turns with
  | nil => rfl
  | cons turn turns => rw [made, if_neg (Bool.eq_false_iff.mp h)]

theorem Turn.made_eq (h : r.Turn turn s s₁ s₂) :
    r.made (turn :: turns) s = ⟨turn, s, s₁, s₂⟩ :: r.made turns s₂ := by
  rw [made, if_pos h.again, h.pause]
  simp only [h.attempt, after_ok h.attempt]

/-- A turn is either made and returns, or it is the last one: the loop has stopped, the pause
throws, or the attempt does. -/
theorem turn_cases (r : Retry ε σ τ) (turn : τ) (turns : List τ) (s : σ) :
    (∃ s₁ s₂, r.Turn turn s s₁ s₂) ∨
      (r.again s = false ∧ r.made (turn :: turns) s = [] ∧ r.loop (turn :: turns) s = .ok true s) ∨
      r.again s = true ∧ ¬ Returns (r.loop (turn :: turns)) s ∧
        (r.made (turn :: turns) s = [] ∨ ∃ s₁, r.pause turn s = .ok ⟨⟩ s₁ ∧
          r.made (turn :: turns) s = [⟨turn, s, s₁, after (r.attempt turn) s₁⟩]) := by
  cases hagain : r.again s with
  | false => exact .inr (.inl ⟨rfl, made_stop hagain, loop_stop hagain⟩)
  | true =>
    cases hpause : r.pause turn s with
    | error e s₁ =>
      refine .inr (.inr ⟨rfl, ?_, .inl ?_⟩)
      · rw [Returns, loop_again hagain, bind_error hpause]
        rintro ⟨_, _, h⟩
        cases h
      · rw [made, if_pos hagain, hpause]
    | ok u s₁ =>
      cases hattempt : r.attempt turn s₁ with
      | error e s₂ =>
        refine .inr (.inr ⟨rfl, ?_, .inr ⟨s₁, rfl, ?_⟩⟩)
        · rw [Returns, loop_again hagain, bind_ok hpause, bind_error hattempt]
          rintro ⟨_, _, h⟩
          cases h
        · rw [made, if_pos hagain, hpause]
          simp only [hattempt]
      | ok u s₂ => exact .inl ⟨s₁, s₂, hagain, hpause, hattempt⟩

/-! ## Measures -/

section Measure

variable {I : σ → Prop} {μ : σ → Nat}

/-- No more attempts than the measure allows, by induction on the turns. -/
theorem length_made_le (hagain : ∀ s, I s → r.again s = true → 0 < μ s)
    (hturn : ∀ turn ∈ turns, ∀ s s₁ s₂, I s → r.Turn turn s s₁ s₂ → I s₂ ∧ μ s₂ < μ s) (hs : I s) :
    (r.made turns s).length ≤ μ s := by
  induction turns generalizing s with
  | nil => exact Nat.zero_le _
  | cons turn turns ih =>
    obtain ⟨hfirst, hrest⟩ := List.forall_mem_cons.mp hturn
    rcases r.turn_cases turn turns s with ⟨s₁, s₂, ht⟩ | ⟨-, hmade, -⟩ | ⟨hyes, -, hmade | ⟨s₁, -, hmade⟩⟩
    · obtain ⟨hI, hlt⟩ := hfirst s s₁ s₂ hs ht
      rw [ht.made_eq, List.length_cons]
      exact Nat.succ_le_of_lt (Nat.lt_of_le_of_lt (ih hrest hI) hlt)
    · rw [hmade]
      exact Nat.zero_le _
    · rw [hmade]
      exact Nat.zero_le _
    · rw [hmade]
      exact hagain s hs hyes

/-- With as many turns as the measure allows, the loop does not end with a turn still wanted. -/
theorem loop_left (hagain : ∀ s, I s → r.again s = true → 0 < μ s)
    (hturn : ∀ turn ∈ turns, ∀ s s₁ s₂, I s → r.Turn turn s s₁ s₂ → I s₂ ∧ μ s₂ < μ s) (hs : I s)
    (hlength : μ s ≤ turns.length) : value (r.loop turns) s ≠ some false := by
  induction turns generalizing s with
  | nil =>
    have hstop : r.again s = false :=
      Bool.eq_false_iff.mpr fun h => Nat.not_lt.mpr hlength (hagain s hs h)
    rw [value_ok (loop_stop hstop)]
    simp
  | cons turn turns ih =>
    obtain ⟨hfirst, hrest⟩ := List.forall_mem_cons.mp hturn
    rcases r.turn_cases turn turns s with ⟨s₁, s₂, ht⟩ | ⟨-, -, hloop⟩ | ⟨-, hthrows, -⟩
    · obtain ⟨hI, hlt⟩ := hfirst s s₁ s₂ hs ht
      rw [value, ht.loop_eq]
      exact ih hrest hI (Nat.le_of_lt_succ (Nat.lt_of_lt_of_le hlt hlength))
    · rw [value_ok hloop]
      simp
    · exact fun hvalue => hthrows (returns_of_value hvalue)

end Measure

/-! ## Invariants -/

/-- What each turn that returns keeps, the loop keeps; by induction on the turns. -/
theorem loop_invariant {I : σ → Prop} {left : Bool} {s' : σ}
    (hturn : ∀ turn ∈ turns, ∀ s s₁ s₂, I s → r.Turn turn s s₁ s₂ → I s₂) (hs : I s)
    (h : r.loop turns s = .ok left s') : I s' := by
  induction turns generalizing s with
  | nil =>
    rw [loop, get_bind] at h
    cases h
    exact hs
  | cons turn turns ih =>
    obtain ⟨hfirst, hrest⟩ := List.forall_mem_cons.mp hturn
    rcases r.turn_cases turn turns s with ⟨s₁, s₂, ht⟩ | ⟨-, -, hloop⟩ | ⟨-, hthrows, -⟩
    · rw [ht.loop_eq] at h
      exact ih hrest (hfirst s s₁ s₂ hs ht) h
    · rw [hloop] at h
      cases h
      exact hs
    · exact absurd ⟨_, _, h⟩ hthrows

/-- A log to which each turn adds what its attempt says: the loop adds what the attempts that it
makes say. -/
theorem loop_log {α : Type} {I : σ → Prop} {log : σ → List α} {said : Made σ τ → List α}
    {left : Bool} {s' : σ} (hturn : ∀ turn ∈ turns, ∀ s s₁ s₂, I s → r.Turn turn s s₁ s₂ →
      I s₂ ∧ log s₂ = log s ++ said ⟨turn, s, s₁, s₂⟩) (hs : I s)
    (h : r.loop turns s = .ok left s') : log s' = log s ++ (r.made turns s).flatMap said := by
  induction turns generalizing s with
  | nil =>
    rw [loop, get_bind] at h
    cases h
    exact (List.append_nil _).symm
  | cons turn turns ih =>
    obtain ⟨hfirst, hrest⟩ := List.forall_mem_cons.mp hturn
    rcases r.turn_cases turn turns s with ⟨s₁, s₂, ht⟩ | ⟨-, hmade, hloop⟩ | ⟨-, hthrows, -⟩
    · obtain ⟨hI, hlog⟩ := hfirst s s₁ s₂ hs ht
      rw [ht.loop_eq] at h
      rw [ih hrest hI h, hlog, ht.made_eq, List.flatMap_cons, List.append_assoc]
    · rw [hloop] at h
      cases h
      rw [hmade]
      exact (List.append_nil _).symm
    · exact absurd ⟨_, _, h⟩ hthrows

/-- What holds of each attempt that is made. -/
theorem forall_made {I : σ → Prop} {P : Made σ τ → Prop}
    (hmade : ∀ turn ∈ turns, ∀ s s₁, I s → r.again s = true → r.pause turn s = .ok ⟨⟩ s₁ →
      P ⟨turn, s, s₁, after (r.attempt turn) s₁⟩)
    (hturn : ∀ turn ∈ turns, ∀ s s₁ s₂, I s → r.Turn turn s s₁ s₂ → I s₂) (hs : I s) :
    ∀ m ∈ r.made turns s, P m := by
  induction turns generalizing s with
  | nil => exact fun m hm => nomatch hm
  | cons turn turns ih =>
    obtain ⟨hfirst, hrest⟩ := List.forall_mem_cons.mp hturn
    obtain ⟨hone, hothers⟩ := List.forall_mem_cons.mp hmade
    rcases r.turn_cases turn turns s with ⟨s₁, s₂, ht⟩ | ⟨-, hnil, -⟩ | ⟨hagain, -, hnil | ⟨s₁, hpause, hlast⟩⟩
    · have hsecond := hone s s₁ hs ht.again ht.pause
      rw [after_ok ht.attempt] at hsecond
      rw [ht.made_eq]
      exact List.forall_mem_cons.mpr ⟨hsecond, ih hothers hrest (hfirst s s₁ s₂ hs ht)⟩
    · rw [hnil]
      exact fun m hm => nomatch hm
    · rw [hnil]
      exact fun m hm => nomatch hm
    · rw [hlast]
      exact List.forall_mem_singleton.mpr (hone s s₁ hs hagain hpause)

/-- In a loop that returns each attempt does, and it is one of the turns. -/
theorem turn_of_made {left : Bool} {s' : σ} (h : r.loop turns s = .ok left s') :
    ∀ m ∈ r.made turns s, m.turn ∈ turns ∧ r.Turn m.turn m.asked m.before m.after := by
  induction turns generalizing s with
  | nil => exact fun m hm => nomatch hm
  | cons turn turns ih =>
    rcases r.turn_cases turn turns s with ⟨s₁, s₂, ht⟩ | ⟨-, hmade, -⟩ | ⟨-, hthrows, -⟩
    · rw [ht.loop_eq] at h
      rw [ht.made_eq]
      refine List.forall_mem_cons.mpr ⟨⟨List.mem_cons_self, ht⟩, fun m hm => ?_⟩
      obtain ⟨hmem, hturn⟩ := ih h m hm
      exact ⟨List.mem_cons_of_mem _ hmem, hturn⟩
    · rw [hmade]
      exact fun m hm => nomatch hm
    · exact absurd ⟨_, _, h⟩ hthrows

/-- An attempt after which the loop does not ask for another one is the last one. -/
theorem last_of_made {pre post : List (Made σ τ)} {m : Made σ τ}
    (h : r.made turns s = pre ++ m :: post) (hstop : r.again m.after = false) : post = [] := by
  induction turns generalizing s pre with
  | nil => exact absurd h (by simp [made])
  | cons turn turns ih =>
    rcases r.turn_cases turn turns s with ⟨s₁, s₂, ht⟩ | ⟨-, hmade, -⟩ | ⟨-, -, hmade | ⟨s₁, -, hmade⟩⟩
    · rw [ht.made_eq] at h
      cases pre with
      | nil =>
        obtain ⟨rfl, rfl⟩ := List.cons.inj h
        exact made_stop hstop
      | cons first pre => exact ih (List.cons.inj h).2
    · exact absurd (hmade.symm.trans h) (by simp)
    · exact absurd (hmade.symm.trans h) (by simp)
    · rw [hmade] at h
      cases pre with
      | nil => exact (List.cons.inj h).2.symm
      | cons first pre => exact absurd (List.cons.inj h).2 (by simp)

end Retry

end Procedure
