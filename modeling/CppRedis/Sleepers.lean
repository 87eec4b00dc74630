import CppRedis.Counting
import CppRedis.Lib.Condition

/-!
# Threads that wait in `sync_commit`

`sync_commit` waits on `m_sync_condvar`. A receive handler counts down and notifies with the mutex
held. A failure thread counts down without it, and notifies once, at its end, without it as well:
if this comes between the check of a waiting thread and its sleep, nobody wakes the thread.

* `Sleepers`: a client with its threads, those that wait included.
* `Owed`: a failure thread has counted its last entry down and not notified yet.
* `always_woken_iff`: in a run, a thread that waits for nothing always has a notification to come if
  and only if no such thread is missed.
-/

namespace CppRedis

namespace Client

variable {κ : Type}

/-- The predicate of the wait in `sync_commit`. -/
def syncPredicate (c : Client κ) : Bool :=
  c.callbacksRunning == 0 && c.commands.isEmpty

/-- The loop of the `i`-th failure thread has ended. -/
def finished (c : Client κ) (i : Nat) : Bool :=
  (c.failureThreads[i]?).elim false List.isEmpty

namespace Workers

/-- The mutex is held during the step. -/
def Event.locks : Event κ → Bool
  | .send _ _ => true
  | .popped _ => true
  | .countDown _ => true
  | _ => false

/-- The thread notifies before it lets go of the mutex. -/
def Event.notifies : Event κ → Bool
  | .countDown _ => true
  | _ => false

/-- Nothing is left to wait for. -/
def Quiet (w : Workers κ) : Prop :=
  w.inFlight = 0 ∧ w.client.commands = []

theorem Counted.syncPredicate {w : Workers κ} (h : Counted w) (hquiet : w.Quiet) :
    w.client.syncPredicate = true := by
  unfold Client.syncPredicate
  rw [h.running, hquiet.1, hquiet.2]
  rfl

end Workers

/-- A client and its threads: those that work, those that wait in `sync_commit`, and the failure
threads that have notified and are gone. -/
structure Sleepers (κ : Type) where
  workers : Workers κ
  condition : Condition := {}
  notified : List Nat := []

namespace Sleepers

inductive Event (κ : Type)
  | work (e : Workers.Event κ)
  | wait (e : Condition.Event)
  | notify (i : Nat)

def Enabled (w : Sleepers κ) : Event κ → Prop
  | .work e => w.workers.Enabled e ∧ (e.locks = true → w.condition.deciding = false)
  | .wait e => w.condition.Enabled e
  | .notify i => w.workers.client.finished i = true ∧ i ∉ w.notified

instance (w : Sleepers κ) : (e : Event κ) → Decidable (Enabled w e)
  | .work _ => inferInstanceAs (Decidable (_ ∧ _))
  | .wait _ => inferInstanceAs (Decidable (Condition.Enabled _ _))
  | .notify _ => inferInstanceAs (Decidable (_ ∧ _))

def step (w : Sleepers κ) : Event κ → Sleepers κ
  | .work e =>
    { w with
      workers := w.workers.step e
      condition := if e.notifies then w.condition.notifyAll else w.condition }
  | .wait e => { w with condition := w.condition.step w.workers.client.syncPredicate e }
  | .notify i => { w with condition := w.condition.notifyAll, notified := w.notified ++ [i] }

def machine : Machine (Sleepers κ) (Event κ) :=
  ⟨Enabled, step⟩

instance (w : Sleepers κ) (e : Event κ) : Decidable (machine.enabled w e) :=
  inferInstanceAs (Decidable (Enabled w e))

/-- A client that was made with any session, and no threads. -/
def start (s : Session) : Sleepers κ :=
  { workers := .start s }

/-- A failure thread is going to notify. -/
def Owed (w : Sleepers κ) : Prop :=
  ∃ i, w.workers.client.finished i = true ∧ i ∉ w.notified

/-- If a thread sleeps in `sync_commit`, or is about to, and nothing is left to wait for, a failure
thread is going to notify it. -/
def Woken (w : Sleepers κ) : Prop :=
  w.condition.Kept w.workers.Quiet w.Owed

/-- The last notification comes when a thread has checked and does not sleep yet. -/
def Misses (w : Sleepers κ) : Event κ → Prop
  | .notify i =>
    w.condition.deciding = true ∧ w.workers.Quiet ∧
      ∀ j, w.workers.client.finished j = true → j ∈ w.notified ++ [i]
  | _ => False

/-! ## The invariant -/

/-- The counter is right, and only threads that have ended have notified. -/
structure Inv (w : Sleepers κ) : Prop where
  counted : w.workers.Counted
  notified : ∀ i ∈ w.notified, w.workers.client.finished i = true

variable {w : Sleepers κ}

section Threads

variable {v : Workers κ} {e : Workers.Event κ} {i : Nat}

/-- A failure thread that has an entry to count down has not ended. -/
theorem not_finished_of_mem_called (h : v.Counted) (hi : i ∈ v.called.map Prod.fst) :
    v.client.finished i = false := by
  obtain ⟨⟨j, request⟩, hmem, rfl⟩ := List.mem_map.mp hi
  obtain ⟨queue, hqueue, hhead⟩ := Option.bind_eq_some_iff.mp (h.called j request hmem)
  unfold finished
  rw [hqueue]
  cases queue with
  | nil => cases hhead
  | cons request' rest => rfl

theorem finished_clearCallbacks (c : Client κ) (hi : c.finished i = true) :
    c.clearCallbacks.finished i = true := by
  unfold clearCallbacks
  split
  · exact hi
  · unfold finished at hi ⊢
    cases hqueue : c.failureThreads[i]? with
    | none =>
      rw [hqueue] at hi
      cases hi
    | some queue =>
      obtain ⟨hlt, -⟩ := List.getElem?_eq_some_iff.mp hqueue
      dsimp only
      rw [List.getElem?_append_left hlt, hqueue]
      rw [hqueue] at hi
      exact hi

/-- A failure thread that has ended stays so. -/
theorem finished_step (h : v.Counted) (he : v.Enabled e) (hi : v.client.finished i = true) :
    (v.step e).client.finished i = true := by
  cases e with
  | clearCallbacks => exact finished_clearCallbacks v.client hi
  | countFailed j =>
    have hne : j ≠ i := by
      rintro rfl
      exact Bool.noConfusion ((not_finished_of_mem_called h he).symm.trans hi)
    show ((v.client.failureThreads.modify j List.tail)[i]?).elim false List.isEmpty = true
    rw [List.getElem?_modify_ne _ _ hne]
    exact hi
  | failed j =>
    unfold Workers.step
    dsimp only
    split
    · exact hi
    · exact hi
  | _ => exact hi

/-- The last entry of all failure threads is counted down by one of them, which ends. -/
theorem finished_of_flatten (hi : i ∈ v.called.map Prod.fst) (h : v.Counted)
    (hnone : (v.client.failureThreads.modify i List.tail).flatten = []) :
    (Workers.popFront i v.client.countDown).finished i = true := by
  obtain ⟨⟨j, request⟩, hmem, rfl⟩ := List.mem_map.mp hi
  obtain ⟨queue, hqueue, -⟩ := Option.bind_eq_some_iff.mp (h.called j request hmem)
  have htail : (v.client.failureThreads.modify j List.tail)[j]? = some queue.tail := by
    rw [List.getElem?_modify_eq, hqueue]
    rfl
  have hempty : queue.tail = [] :=
    List.flatten_eq_nil_iff.mp hnone _ (List.mem_of_getElem? htail)
  show ((v.client.failureThreads.modify j List.tail)[j]?).elim false List.isEmpty = true
  rw [htail, hempty]
  rfl

/-- If nothing is left to wait for after a step that does not notify, then this was so before, or a
failure thread has just ended. -/
theorem quiet_step (h : v.Counted) (he : v.Enabled e) (hnotifies : e.notifies = false)
    (hquiet : (v.step e).Quiet) :
    v.Quiet ∨ ∃ i, v.client.finished i = false ∧ (v.step e).client.finished i = true := by
  obtain ⟨hinFlight, hcommands⟩ := hquiet
  unfold Workers.inFlight at hinFlight
  cases e with
  | send redisCmd callback =>
    exact absurd hcommands (List.append_ne_nil_of_right_ne_nil _ (List.cons_ne_nil _ _))
  | clearCallbacks =>
    cases hempty : v.client.commands.isEmpty with
    | true =>
      have hsame : v.client.clearCallbacks = v.client := if_pos hempty
      refine .inl ⟨?_, List.isEmpty_iff.mp hempty⟩
      change v.handlers.length + v.returning.length +
        v.client.clearCallbacks.failureThreads.flatten.length = 0 at hinFlight
      rw [hsame] at hinFlight
      exact hinFlight
    | false =>
      have hmoved : v.client.clearCallbacks = _ := if_neg (Bool.eq_false_iff.mp hempty)
      change v.handlers.length + v.returning.length +
        v.client.clearCallbacks.failureThreads.flatten.length = 0 at hinFlight
      rw [hmoved] at hinFlight
      dsimp only at hinFlight
      rw [List.flatten_append, List.flatten_singleton, List.length_append] at hinFlight
      have hnone : v.client.commands = [] := List.length_eq_zero_iff.mp (by omega)
      rw [hnone] at hempty
      cases hempty
  | popped reply =>
    change (v.handlers ++ [_]).length + _ + _ = 0 at hinFlight
    rw [List.length_append, List.length_singleton] at hinFlight
    omega
  | handled i =>
    change _ + (v.returning ++ [_]).length + _ = 0 at hinFlight
    rw [List.length_append, List.length_singleton] at hinFlight
    omega
  | countDown i => cases hnotifies
  | failed i =>
    refine .inl ?_
    unfold Workers.step at hinFlight hcommands
    dsimp only at hinFlight hcommands
    split at hinFlight
    · next hfront =>
      rw [hfront] at hcommands
      exact ⟨hinFlight, hcommands⟩
    · next request hfront =>
      rw [hfront] at hcommands
      exact ⟨hinFlight, hcommands⟩
  | countFailed i =>
    refine .inr ⟨i, not_finished_of_mem_called h he, finished_of_flatten he h ?_⟩
    change _ + (v.client.failureThreads.modify i List.tail).flatten.length = 0 at hinFlight
    exact List.length_eq_zero_iff.mp (by omega)

end Threads

/-! ## Steps -/

theorem Inv.step (h : w.Inv) {e : Event κ} (he : w.Enabled e) : (w.step e).Inv := by
  cases e with
  | work e =>
    exact ⟨h.counted.step e he.1, fun i hi => finished_step h.counted he.1 (h.notified i hi)⟩
  | wait e => exact ⟨h.counted, h.notified⟩
  | notify i =>
    refine ⟨h.counted, fun j hj => ?_⟩
    rcases List.mem_append.mp hj with hold | hnew
    · exact h.notified j hold
    · rw [List.mem_singleton.mp hnew]
      exact he.1

/-- A step of a thread that works. -/
theorem Woken.work (hwoken : w.Woken) (h : w.Inv) {e : Workers.Event κ}
    (he : w.Enabled (.work e)) : (w.step (.work e)).Woken := by
  show (if e.notifies then w.condition.notifyAll else w.condition).Kept (w.workers.step e).Quiet
    (w.step (.work e)).Owed
  cases hnotifies : e.notifies with
  | true =>
    have hlocks : e.locks = true := by
      cases e with
      | countDown i => rfl
      | _ => cases hnotifies
    exact .notifyAll (he.2 hlocks)
  | false =>
    intro hattended hquiet
    rcases quiet_step h.counted he.1 hnotifies hquiet with hbefore | ⟨i, hi, hi'⟩
    · obtain ⟨i, hfinished, hnot⟩ := hwoken hattended hbefore
      exact ⟨i, finished_step h.counted he.1 hfinished, hnot⟩
    · refine ⟨i, hi', fun hmem => ?_⟩
      exact Bool.noConfusion (hi.symm.trans (h.notified i hmem))

/-- A thread that is going to wake all others does, unless it is the last one and is missed. -/
theorem woken_notify_iff (i : Nat) :
    (w.step (.notify i)).Woken ↔ ¬ w.Misses (.notify i) := by
  show w.condition.notifyAll.Kept w.workers.Quiet (w.step (.notify i)).Owed ↔ _
  have howed : (w.step (.notify i)).Owed ↔
      ¬ ∀ j, w.workers.client.finished j = true → j ∈ w.notified ++ [i] := by
    rw [not_forall]
    exact exists_congr fun j => Classical.not_imp.symm
  cases hdeciding : w.condition.deciding with
  | true =>
    rw [Condition.Kept.notifyAll_iff hdeciding, howed]
    exact ⟨fun hkept hmisses => hkept hmisses.2.1 hmisses.2.2, fun hkept hquiet hall =>
      hkept ⟨hdeciding, hquiet, hall⟩⟩
  | false =>
    refine iff_of_true (.notifyAll hdeciding) fun hmisses => ?_
    exact Bool.noConfusion (hdeciding.symm.trans hmisses.1)

/-- In every run of any number of threads: a thread that sleeps in `sync_commit` or is about to, when
every command has been handled, always has a notification to come, if and only if no failure thread
sends the last notification while a thread has checked and does not sleep yet. -/
theorem always_woken_iff (s : Session) {events : List (Event κ)}
    (h : machine.Possible (start s) events) :
    machine.Always Woken (start s) events ↔
      machine.Along (fun w e => ¬ w.Misses e) (start s) events := by
  refine Machine.always_iff_along (K := Inv) (fun w e hw he => hw.step he)
    (fun w e hw hwoken he => ?_) h ⟨.new s, fun i hi => absurd hi List.not_mem_nil⟩ ?_
  · cases e with
    | work e => exact iff_of_true (hwoken.work hw he) id
    | wait e => exact iff_of_true (Condition.Kept.step hwoken hw.counted.syncPredicate he) id
    | notify i => exact woken_notify_iff i
  · rintro (hdeciding | hblocked)
    · cases hdeciding
    · exact absurd hblocked (Nat.lt_irrefl 0)

/-- A commit fails. Its failure thread counts down and notifies while another thread has checked
and does not sleep yet. -/
def missed : List (Event Nat) :=
  [.work (.send [] (some 1)), .work .clearCallbacks, .wait (.check false), .work (.failed 0),
    .work (.countFailed 0), .notify 0, .wait .block]

theorem always_woken_iff_missed : ¬ machine.Always Woken (start {}) missed := by
  intro halways
  have halong := (always_woken_iff {} (by decide)).mp halways
  refine halong.2.2.2.2.2.1 ⟨by decide, ⟨by decide, rfl⟩, ?_⟩
  intro j hj
  cases j with
  | zero => exact .head _
  | succ j => cases hj

end Sleepers

end Client

end CppRedis
