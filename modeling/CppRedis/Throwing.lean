import CppRedis.Client
import CppRedis.Sentinel

/-!
# Callbacks that throw

`connection_receive_handler` counts up, pops the front of the queue, calls the callback and
counts down again. `client` and `sentinel` do so alike, and in neither is the counting down
guarded: it is skipped when the callback throws.

* `Receiver`: what the two have in common.
* `restores_iff`: the handler leaves the counter and the queue as they were, less the front
  entry and but for what the callback did itself, if and only if the callback returns.
* `handleAll_counted`: over many replies the counter is too great by the number of callbacks
  that threw, and it stays so.
-/

namespace CppRedis

open Text Procedure

/-- A class with a queue of callbacks and a count of those that run. -/
structure Receiver (σ ρ : Type) where
  running : σ → UInt32
  queue : σ → List ρ
  pop : Reply → σ → σ
  countDown : σ → σ
  running_pop : ∀ reply s, running (pop reply s) = running s + 1
  queue_pop : ∀ reply s, queue (pop reply s) = (queue s).tail
  running_countDown : ∀ s, running (countDown s) = running s - 1
  queue_countDown : ∀ s, queue (countDown s) = queue s

namespace Receiver

variable {σ ρ : Type} (r : Receiver σ ρ)

/-- The handler, around what the callback does. -/
def handle (callback : EStateM Fault σ Unit) (reply : Reply) : EStateM Fault σ Unit := do
  modify (r.pop reply)
  callback
  modify r.countDown

theorem handle_ok {callback : EStateM Fault σ Unit} {reply : Reply} {s t : σ}
    (h : callback (r.pop reply s) = .ok () t) : r.handle callback reply s = .ok () (r.countDown t) := by
  unfold handle
  rw [modify_bind, bind_ok h]
  rfl

/-- What `sync_commit` waits for. -/
def Awaited (s : σ) : Prop :=
  r.running s = 0 ∧ r.queue s = []

/-- What the handler is to leave behind as `s'`: `s` is the state before, `popped` that in which
the callback starts, and `left` that in which the callback leaves it. -/
structure Restores (s popped left s' : σ) : Prop where
  front : r.queue popped = (r.queue s).tail
  rest : r.queue s' = r.queue left
  counter : r.running s' = r.running s + (r.running left - r.running popped)
  awaited : r.running s = 0 → r.running left = r.running popped → r.queue left = [] → r.Awaited s'

/-- A callback that lets the counter and the queue alone: nothing but the front entry is gone. -/
theorem Restores.alone {s popped left s' : σ} (h : r.Restores s popped left s')
    (hrunning : r.running left = r.running popped) (hqueue : r.queue left = r.queue popped) :
    r.running s' = r.running s ∧ r.queue s' = (r.queue s).tail := by
  constructor
  · rw [h.counter, hrunning, UInt32.sub_self, UInt32.add_zero]
  · rw [h.rest, hqueue, h.front]

theorem ne_sub_one (n : UInt32) : n ≠ n - 1 := by
  intro h
  have hone : (1 : UInt32) = 0 := by
    calc (1 : UInt32) = n - (n - 1) := by grind
      _ = 0 := by rw [← h, UInt32.sub_self]
  exact absurd hone (by decide)

/-- The handler leaves the counter and the queue as it should, if and only if the callback
returns. -/
theorem restores_iff (callback : EStateM Fault σ Unit) (reply : Reply) (s : σ) :
    r.Restores s (r.pop reply s) (after callback (r.pop reply s)) (after (r.handle callback reply) s) ↔
      Returns callback (r.pop reply s) := by
  constructor
  · intro h
    by_contra hthrows
    have hcounter := h.counter
    unfold handle at hcounter
    rw [after_between_error hthrows, r.running_pop] at hcounter
    refine ne_sub_one (r.running (after callback (r.pop reply s))) (hcounter.trans ?_)
    grind
  · intro hreturns
    have hafter : after (r.handle callback reply) s = r.countDown (after callback (r.pop reply s)) :=
      after_between_ok hreturns
    rw [hafter]
    refine ⟨r.queue_pop reply s, r.queue_countDown _, ?_, ?_⟩
    · rw [r.running_countDown, r.running_pop]
      grind
    · intro hzero hsame hempty
      refine ⟨?_, (r.queue_countDown _).trans hempty⟩
      rw [r.running_countDown, hsame, r.running_pop, hzero]
      rfl

end Receiver

/-! ## The two classes -/

namespace Client

variable {κ : Type}

def receiver (κ : Type) : Receiver (Client κ) (CommandRequest κ) where
  running c := c.callbacksRunning
  queue c := c.commands
  pop := popCommand
  countDown := countDown
  running_pop _ _ := rfl
  queue_pop _ _ := rfl
  running_countDown _ := rfl
  queue_countDown _ := rfl

/-- What is called for the front entry; `user` is what a callback of the user does. -/
def called (user : Option (EStateM Fault (Client κ) Unit)) (reply : Reply) (c : Client κ) :
    EStateM Fault (Client κ) Unit :=
  invoke (c.commands.head?.bind CommandRequest.callback) reply (user.getD (pure ()))

theorem connectionReceiveHandler_eq (user : Option (EStateM Fault (Client κ) Unit)) (reply : Reply)
    (c : Client κ) :
    connectionReceiveHandler user reply c = (receiver κ).handle (called user reply c) reply c :=
  rfl

end Client

namespace SentinelClient

variable {κ : Type}

def receiver (κ : Type) : Receiver (SentinelClient κ) (SentinelRequest κ) where
  running s := s.callbacksRunning
  queue s := s.callbacks
  pop := popCallback
  countDown := countDown
  running_pop _ _ := rfl
  queue_pop _ _ := rfl
  running_countDown _ := rfl
  queue_countDown _ := rfl

/-- What is called for the front entry; `user` is what its callback does. -/
def called (user : Option (EStateM Fault (SentinelClient κ) Unit)) (reply : Reply)
    (s : SentinelClient κ) : EStateM Fault (SentinelClient κ) Unit :=
  invoke (s.callbacks.head?.bind SentinelRequest.callback) reply (user.getD (pure ()))

theorem connectionReceiveHandler_eq (user : Option (EStateM Fault (SentinelClient κ) Unit))
    (reply : Reply) (s : SentinelClient κ) :
    connectionReceiveHandler user reply s = (receiver κ).handle (called user reply s) reply s :=
  rfl

end SentinelClient

/-- In both classes the handler leaves the counter and the queue as it should, if and only if
the callback returns. Where none is called it does. -/
theorem handlers_restore_iff (κ : Type) (reply : Reply) :
    (∀ (c : Client κ) (user : Option (EStateM Fault (Client κ) Unit)),
      (Client.receiver κ).Restores c (c.popCommand reply)
          (after (c.called user reply) (c.popCommand reply))
          (after (Client.connectionReceiveHandler user reply) c) ↔
        Returns (c.called user reply) (c.popCommand reply)) ∧
    (∀ (s : SentinelClient κ) (user : Option (EStateM Fault (SentinelClient κ) Unit)),
      (SentinelClient.receiver κ).Restores s (s.popCallback reply)
          (after (s.called user reply) (s.popCallback reply))
          (after (SentinelClient.connectionReceiveHandler user reply) s) ↔
        Returns (s.called user reply) (s.popCallback reply)) := by
  constructor
  · intro c user
    unfold after
    rw [Client.connectionReceiveHandler_eq]
    exact (Client.receiver κ).restores_iff (c.called user reply) reply c
  · intro s user
    unfold after
    rw [SentinelClient.connectionReceiveHandler_eq]
    exact (SentinelClient.receiver κ).restores_iff (s.called user reply) reply s

/-- A client that waits for one reply. -/
def asking : Client Unit :=
  { commands := [⟨[ascii "GET", ascii "k"], some (.user ())⟩] }

/-- A callback that asks its reply for a string. -/
def asksForString (reply : Reply) : EStateM Fault (Client Unit) Unit := fun c =>
  match reply.asString with
  | .ok _ => .ok () c
  | .error e => .error e c

/-- The reply is null: nothing runs and nothing is queued any more, and `sync_commit` waits. -/
theorem not_restores :
    let c' := after (Client.connectionReceiveHandler (some (asksForString {})) {}) asking
    c'.commands = [] ∧ c'.callbacksRunning = 1 ∧
      ¬ (Client.receiver Unit).Restores asking (asking.popCommand {})
        (after (asking.called (some (asksForString {})) {}) (asking.popCommand {})) c' := by
  refine ⟨by decide, by decide, fun h => ?_⟩
  exact absurd (h.awaited (by decide) (by decide) (by decide)).1 (by decide)

/-! ## Many replies -/

namespace Receiver

variable {σ ρ : Type} (r : Receiver σ ρ)

/-- A callback that lets the counter and the queue alone. `throws` tells how it is left. -/
structure Tame (callback : EStateM Fault σ Unit) (throws : Bool) : Prop where
  running : ∀ s, r.running (after callback s) = r.running s
  queue : ∀ s, r.queue (after callback s) = r.queue s
  returns : ∀ s, Returns callback s ↔ throws = false

/-- A reply, what the callback does that is called for it, and whether that throws. -/
structure Handled (σ : Type) where
  reply : Reply
  callback : EStateM Fault σ Unit
  throws : Bool

/-- The handler, called for one reply after the other. -/
def handleAll (calls : List (Handled σ)) (s : σ) : σ :=
  calls.foldl (fun s call => after (r.handle call.callback call.reply) s) s

theorem handle_tame {callback : EStateM Fault σ Unit} {throws : Bool}
    (h : r.Tame callback throws) (reply : Reply) (s : σ) :
    r.running (after (r.handle callback reply) s) = r.running s + (if throws then 1 else 0) ∧
      r.queue (after (r.handle callback reply) s) = (r.queue s).tail := by
  cases hthrows : throws with
  | false =>
    have hrestores := (r.restores_iff callback reply s).mpr ((h.returns _).mpr hthrows)
    obtain ⟨hrunning, hqueue⟩ := hrestores.alone r (h.running _) (h.queue _)
    exact ⟨hrunning.trans (UInt32.add_zero _).symm, hqueue⟩
  | true =>
    have hnot : ¬ Returns callback (r.pop reply s) := by
      rw [h.returns, hthrows]
      exact Bool.noConfusion
    have hafter : after (r.handle callback reply) s = after callback (r.pop reply s) :=
      after_between_error hnot
    rw [hafter, h.running, h.queue, r.running_pop, r.queue_pop]
    exact ⟨rfl, rfl⟩

/-- A callback that throws is counted as running for good. -/
theorem handleAll_counted (calls : List (Handled σ)) (s : σ)
    (h : ∀ call ∈ calls, r.Tame call.callback call.throws) :
    r.running (r.handleAll calls s) = r.running s + .ofNat (calls.countP Handled.throws) ∧
      r.queue (r.handleAll calls s) = (r.queue s).drop calls.length := by
  induction calls generalizing s with
  | nil => exact ⟨(UInt32.add_zero _).symm, rfl⟩
  | cons call calls ih =>
    obtain ⟨hrunning, hqueue⟩ := r.handle_tame (h call List.mem_cons_self) call.reply s
    obtain ⟨hrunning', hqueue'⟩ := ih (after (r.handle call.callback call.reply) s)
      fun call hcall => h call (List.mem_cons_of_mem _ hcall)
    unfold handleAll at hrunning' hqueue' ⊢
    rw [List.foldl_cons, hrunning', hrunning, hqueue', hqueue, List.countP_cons, List.length_cons]
    refine ⟨?_, by rw [List.drop_tail]⟩
    cases call.throws with
    | false => simp
    | true =>
      simp only [if_true, UInt32.ofNat_add]
      rw [UInt32.add_assoc, UInt32.add_comm (UInt32.ofNat _)]
      rfl

/-- Once every entry has its reply, `sync_commit` goes on, if and only if no callback threw; the
counter has 32 bits. -/
theorem awaited_handleAll_iff (calls : List (Handled σ)) (s : σ)
    (h : ∀ call ∈ calls, r.Tame call.callback call.throws) (hrunning : r.running s = 0)
    (hqueue : (r.queue s).length = calls.length) (hlt : calls.length < 2 ^ 32) :
    r.Awaited (r.handleAll calls s) ↔ ∀ call ∈ calls, call.throws = false := by
  obtain ⟨hcount, hdrop⟩ := r.handleAll_counted calls s h
  have hempty : r.queue (r.handleAll calls s) = [] := by rw [hdrop, ← hqueue, List.drop_length]
  have hle : calls.countP Handled.throws ≤ calls.length := List.countP_le_length
  have hzero : r.running (r.handleAll calls s) = 0 ↔ calls.countP Handled.throws = 0 := by
    rw [hcount, hrunning, UInt32.zero_add, ← UInt32.toNat_inj, UInt32.toNat_ofNat']
    show calls.countP Handled.throws % 2 ^ 32 = 0 ↔ _
    rw [Nat.mod_eq_of_lt (by omega)]
  rw [Awaited, hzero, List.countP_eq_zero]
  simp [hempty]

end Receiver

end CppRedis
