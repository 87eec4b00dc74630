import Mathlib.Data.List.Basic

/-!
# Backlogs

Requests wait in a queue. The first one is answered, or some at the front are dropped; what has
become of a request is final.

* `Settles b b' fates`: from `b` to `b'` this is what became of the requests that left the queue,
  in their order.
* `refl`, `trans`: time passes.
* `push`, `answer`, `drop`: one step.
* `all`: of an empty backlog, the fates are those of all requests that ever came.
* `take_written`, `drop_written`, `answered_prefix`: where requests are written in their order, the
  first ones written are those that were answered, each with the response to it.
-/

/-- The requests that came, those that wait, and those that were answered. -/
structure Backlog (α ρ : Type) where
  pushed : List α := []
  waiting : List α := []
  answered : List (α × ρ) := []

namespace Backlog

variable {α ρ : Type}

/-- The answer to a request that has left the queue, if it was not dropped. -/
def answer? (fate : α × Option ρ) : Option (α × ρ) :=
  fate.2.map fun r => (fate.1, r)

/-- What became of the requests that left the queue. Others may have come. -/
structure Settles (b b' : Backlog α ρ) (fates : List (α × Option ρ)) : Prop where
  requests : ∃ more, b'.pushed = b.pushed ++ more ∧
    b.waiting ++ more = fates.map Prod.fst ++ b'.waiting
  answered : b'.answered = b.answered ++ fates.filterMap answer?

namespace Settles

variable {b b₁ b₂ b₃ : Backlog α ρ} {fates fates' : List (α × Option ρ)}

theorem refl (b : Backlog α ρ) : Settles b b [] :=
  ⟨⟨[], (List.append_nil _).symm, List.append_nil _⟩, (List.append_nil _).symm⟩

theorem trans (h : Settles b₁ b₂ fates) (h' : Settles b₂ b₃ fates') :
    Settles b₁ b₃ (fates ++ fates') := by
  obtain ⟨more, hpushed, hwaiting⟩ := h.requests
  obtain ⟨more', hpushed', hwaiting'⟩ := h'.requests
  refine ⟨⟨more ++ more', ?_, ?_⟩, ?_⟩
  · rw [hpushed', hpushed, List.append_assoc]
  · rw [← List.append_assoc, hwaiting, List.append_assoc, hwaiting', List.map_append,
      List.append_assoc]
  · rw [h'.answered, h.answered, List.filterMap_append, List.append_assoc]

theorem push (b : Backlog α ρ) (a : α) :
    Settles b { b with pushed := b.pushed ++ [a], waiting := b.waiting ++ [a] } [] :=
  ⟨⟨[a], rfl, rfl⟩, (List.append_nil _).symm⟩

/-- The first request is answered. -/
theorem answer {a : α} {rest : List α} (h : b.waiting = a :: rest) (r : ρ) :
    Settles b { b with waiting := rest, answered := b.answered ++ [(a, r)] } [(a, some r)] :=
  ⟨⟨[], (List.append_nil _).symm, (List.append_nil _).trans h⟩, rfl⟩

/-- All that wait are dropped. -/
theorem drop (b : Backlog α ρ) : Settles b { b with waiting := [] } (b.waiting.map (·, none)) := by
  refine ⟨⟨[], (List.append_nil _).symm, ?_⟩, ?_⟩
  · rw [List.map_map]
    exact congrArg (· ++ []) (List.map_id _).symm
  · rw [List.filterMap_map]
    exact (List.append_nil _).symm.trans (congrArg (b.answered ++ ·) (List.filterMap_none _).symm)

/-- The requests that ever came are those that were settled and those that wait. -/
theorem all (h : Settles {} b fates) :
    b.pushed = fates.map Prod.fst ++ b.waiting ∧ b.answered = fates.filterMap answer? := by
  obtain ⟨more, hpushed, hwaiting⟩ := h.requests
  exact ⟨hpushed.trans hwaiting, h.answered⟩

end Settles

/-! ### What was written -/

section Written

variable {β : Type} {f : α → β} {done waiting : List α} {written held : List β}

/-- What was written first is for the requests that were answered. -/
theorem take_written (h : written ++ held = (done ++ waiting).map f)
    (hle : done.length ≤ written.length) : written.take done.length = done.map f := by
  rw [← List.take_append_of_le_length hle, h, List.map_append]
  exact List.take_left' (List.length_map _)

/-- The rest, and what is held, is for those that wait. -/
theorem drop_written (h : written ++ held = (done ++ waiting).map f)
    (hle : done.length ≤ written.length) : written.drop done.length ++ held = waiting.map f := by
  rw [← List.drop_append_of_le_length hle, h, List.map_append]
  exact List.drop_left' (List.length_map _)

/-- The requests that were answered, each with the response to what was written for it. -/
theorem answered_prefix {answered : List (α × ρ)} {responses : List ρ}
    (h : written ++ held = (answered.map Prod.fst ++ waiting).map f)
    (hle : (answered.map Prod.fst).length ≤ written.length)
    (hresponses : answered.map Prod.snd = responses.take answered.length) :
    answered.map (fun e => (f e.1, e.2)) <+: written.zip responses := by
  have hwritten := take_written h hle
  rw [List.length_map] at hwritten
  have hzip : answered.map (fun e => (f e.1, e.2)) = (written.zip responses).take answered.length := by
    rw [List.zip_eq_zipWith, List.take_zipWith, ← List.zip_eq_zipWith, hwritten, ← hresponses,
      List.map_map]
    exact List.zip_map'.symm
  rw [hzip]
  exact List.take_prefix _ _

end Written

end Backlog
