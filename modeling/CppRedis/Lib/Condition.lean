import Mathlib.Order.Basic

/-!
# Condition variables

Threads wait for a predicate on a condition variable. A waiting thread holds the mutex while it
checks the predicate, and lets go of it in the moment in which it blocks: what other threads do
without the mutex may come in between.

* `Condition`: how many threads are where, with the steps of these threads.
* `Attended`: a thread is blocked or is about to block.
* `Kept`: whenever a thread is attending and the predicate holds, a notification is owed to it.
  There is one rule for each kind of step, of a waiting thread or of another one.
-/

/-- The threads that wait. `deciding` tells that one of them has found the predicate false and
holds the mutex still; `blocked` sleep, `awake` have been woken, and `left` have returned. -/
structure Condition where
  deciding : Bool := false
  blocked : Nat := 0
  awake : Nat := 0
  left : Nat := 0
deriving DecidableEq, Repr

namespace Condition

/-- A step of a waiting thread: a new one or one that is awake takes the mutex and checks, the one
that holds it blocks, or one wakes up although nobody has notified. -/
inductive Event
  | check (again : Bool)
  | block
  | wake

def Enabled (c : Condition) : Event → Prop
  | .check again => c.deciding = false ∧ (again = true → 0 < c.awake)
  | .block => c.deciding = true
  | .wake => 0 < c.blocked

instance (c : Condition) : (e : Event) → Decidable (c.Enabled e)
  | .check _ => inferInstanceAs (Decidable (_ ∧ _))
  | .block => inferInstanceAs (Decidable (_ = _))
  | .wake => inferInstanceAs (Decidable (_ < _))

/-- `holds` is what the predicate says. -/
def step (holds : Bool) (c : Condition) : Event → Condition
  | .check again =>
    { c with
      deciding := !holds
      awake := if again then c.awake - 1 else c.awake
      left := if holds then c.left + 1 else c.left }
  | .block => { c with deciding := false, blocked := c.blocked + 1 }
  | .wake => { c with blocked := c.blocked - 1, awake := c.awake + 1 }

def notifyAll (c : Condition) : Condition :=
  { c with blocked := 0, awake := c.awake + c.blocked }

def Attended (c : Condition) : Prop :=
  c.deciding = true ∨ 0 < c.blocked

/-- A thread that attends although there is nothing to wait for is going to be notified. -/
def Kept (c : Condition) (quiet owed : Prop) : Prop :=
  c.Attended → quiet → owed

namespace Kept

variable {c : Condition} {quiet owed : Prop}

/-- A notification leaves nobody who sleeps. With the mutex held, nobody decides. -/
theorem notifyAll (h : c.deciding = false) : c.notifyAll.Kept quiet owed := by
  rintro (hdeciding | hblocked)
  · exact absurd (hdeciding.symm.trans h) Bool.noConfusion
  · exact absurd hblocked (Nat.lt_irrefl 0)

/-- Whoever decides after a notification has not heard it. -/
theorem notifyAll_iff (h : c.deciding = true) : c.notifyAll.Kept quiet owed ↔ (quiet → owed) :=
  ⟨fun hkept => hkept (.inl h), fun hkept _ => hkept⟩

/-- A thread that waits: it checks what is the case, or it has checked before. -/
theorem step (h : c.Kept quiet owed) {holds : Bool} (hholds : quiet → holds = true)
    {e : Event} (he : c.Enabled e) : (c.step holds e).Kept quiet owed := by
  intro hattended hq
  cases e with
  | check again =>
    rcases hattended with hdeciding | hblocked
    · have hfalse : (!holds) = true := hdeciding
      rw [hholds hq] at hfalse
      cases hfalse
    · exact h (.inr hblocked) hq
  | block => exact h (.inl he) hq
  | wake => exact h (.inr he) hq

end Kept

end Condition
